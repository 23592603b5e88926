/-
Module: PointerRouting.Proofs.RoutingTexts
Purpose: The text of a routing loses nothing. Every part of it is told apart from what stands behind
  it: integers have only digits and a sign, sets and tables have brackets, flags and sources are
  listed without commas and line ends, and names without apostrophes end at one. So the text of a
  target determines it, and the text of a routing determines its device, its source and its targets,
  line by line. Hovering comes only from devices whose number is an integer that is safe, so
  operations of the routing's own lead to no other numbers but times.
Main exports: Number.tells_text, PointerSet.tells_text, HoverTable.tells_text, Dispatch.tells_text,
  InputSource.tells_text, Target.Legible, Target.Agrees, Target.tells_text,
  Routing.agree_of_text_eq, Routing.namesDevice_of_hovers_after, Routing.text_determines_routing
-/
import PointerRouting.Proofs.Delimiting
import PointerRouting.Proofs.MaskTexts
import PointerRouting.Proofs.Refusals
import PointerRouting.Proofs.Writers

namespace PointerRouting

namespace Number

/-- Characters that the text of no integer has in it. -/
def Undigital (stops : List Char) : Prop := ∀ stop ∈ stops, stop.isDigit = false ∧ stop ≠ '-'

instance (stops : List Char) : Decidable (Undigital stops) :=
  List.decidableBAll (fun stop : Char => stop.isDigit = false ∧ stop ≠ '-') stops

variable {stops : List Char}

theorem toList_intText (value : Int) :
    (intText value).toList =
      if value < 0 then '-' :: Nat.toDigits 10 value.natAbs else Nat.toDigits 10 value.natAbs := by
  rw [intText]
  split <;> simp

theorem isDigit_of_mem_digits {number : Nat} {char : Char}
    (listed : char ∈ Nat.toDigits 10 number) : char.isDigit = true :=
  Nat.isDigit_of_mem_toDigits (by decide) (by decide) listed

theorem avoids_intText (undigital : Undigital stops) (value : Int) :
    Avoids stops (intText value) := by
  intro stop listed member
  obtain ⟨noDigit, noSign⟩ := undigital stop listed
  have inDigits : stop ∈ Nat.toDigits 10 value.natAbs := by
    rw [toList_intText] at member
    split at member
    · exact List.mem_of_ne_of_mem noSign member
    · exact member
  rw [isDigit_of_mem_digits inDigits] at noDigit
  cases noDigit

theorem intText_ne_empty (value : Int) : intText value ≠ "" := by
  intro none
  have chars := toList_intText value
  rw [none] at chars
  split at chars
  · cases chars
  · exact Nat.toDigits_ne_nil chars.symm

theorem digits_inj {first second : Nat} (same : Nat.toDigits 10 first = Nat.toDigits 10 second) :
    first = second := by
  rw [← Nat.ofDigitChars_ten_toDigits (n := first), same, Nat.ofDigitChars_ten_toDigits]

theorem digits_ne_signed (number : Nat) (rest : List Char) :
    Nat.toDigits 10 number ≠ '-' :: rest := by
  intro signed
  have isDigit : '-'.isDigit = true := isDigit_of_mem_digits (signed ▸ List.mem_cons_self)
  cases isDigit

/-- Integers that are written alike are the same. -/
theorem intText_inj {first second : Int} (same : intText first = intText second) :
    first = second := by
  have chars := congrArg String.toList same
  rw [toList_intText, toList_intText] at chars
  by_cases negative : first < 0 <;> by_cases otherNegative : second < 0
  · rw [if_pos negative, if_pos otherNegative] at chars
    have magnitudes := digits_inj (List.cons.inj chars).2
    omega
  · rw [if_pos negative, if_neg otherNegative] at chars
    exact absurd chars.symm (digits_ne_signed _ _)
  · rw [if_neg negative, if_pos otherNegative] at chars
    exact absurd chars (digits_ne_signed _ _)
  · rw [if_neg negative, if_neg otherNegative] at chars
    have magnitudes := digits_inj chars
    omega

/-- An integer is told before a character that it cannot contain. -/
theorem tells_intText (undigital : Undigital stops) (first second : Int) :
    Tells (OpensWith stops) (intText first) (intText second) (first = second) :=
  Tells.of_avoids (avoids_intText undigital first) (avoids_intText undigital second) intText_inj

/-- A safe integer is written as the integer it is. -/
theorem text_of_namesDevice {number : Number} (safe : number.NamesDevice) :
    ∃ value, number = .ofInt value ∧ number.text = intText value := by
  obtain ⟨value, rfl, low, high⟩ := safe
  refine ⟨value, rfl, ?_⟩
  have small : value.natAbs ≤ maxSafeInt := by
    rw [maxSafeInt]
    omega
  rw [ofInt, text, valueText, if_pos ⟨rfl, small⟩]
  rfl

section Safe

variable {first second : Number} (safeFirst : first.NamesDevice) (safeSecond : second.NamesDevice)

include safeFirst in
theorem avoids_text (undigital : Undigital stops) : Avoids stops first.text := by
  obtain ⟨value, _, text⟩ := text_of_namesDevice safeFirst
  rw [text]
  exact avoids_intText undigital value

include safeFirst safeSecond

theorem text_inj (same : first.text = second.text) : first = second := by
  obtain ⟨value, rfl, text⟩ := text_of_namesDevice safeFirst
  obtain ⟨other, rfl, otherText⟩ := text_of_namesDevice safeSecond
  rw [text, otherText] at same
  rw [intText_inj same]

/-- A safe integer is told before a character that it cannot contain. -/
theorem tells_text (undigital : Undigital stops) :
    Tells (OpensWith stops) first.text second.text (first = second) :=
  Tells.of_avoids (avoids_text safeFirst undigital) (avoids_text safeSecond undigital)
    (text_inj safeFirst safeSecond)

end Safe

end Number

namespace PointerSet

theorem eq_of_toList_eq {first second : PointerSet} (same : first.toList = second.toList) :
    first = second := by
  apply ext_mem
  intro pointer
  rw [← mem_toList, same, mem_toList]

/-- A set is told whatever follows, for it has brackets, and its pointers are told before commas. -/
theorem tells_text (first second : PointerSet) :
    Tells (fun _ => True) first.text second.text (first = second) := by
  have separates : OpensWith [','] ", " := by decide
  have closes : OpensWith [']'] "]" := by decide
  have write (pointer : PointerId) :
      Number.intText pointer.val ≠ "" ∧ ¬OpensWith [']'] (Number.intText pointer.val) :=
    ⟨Number.intText_ne_empty _, (Number.avoids_intText (by decide) _).not_opensWith⟩
  have told (one other : PointerId) :
      Tells (OpensWith [',', ']']) (Number.intText one.val) (Number.intText other.val)
        (one = other) :=
    (Number.tells_intText (by decide) _ _).imp fun same => Fin.ext (Int.ofNat.inj same)
  have pointers : Tells (OpensWith [']']) _ _ (first.toList = second.toList) :=
    Tells.joined separates (by decide) (fun pointer _ => write pointer)
      (fun one _ other _ => told one other)
  rw [text, text, String.append_assoc, String.append_assoc]
  exact ((pointers.closed "]" closes.append).prepend "[").imp eq_of_toList_eq

end PointerSet

namespace HoverTable

/-- A table as rows, in ascending order of the devices. -/
def listing (table : HoverTable) : List (Number × PointerSet) :=
  table.sortedDevices.map fun device => (device, table.pointers device)

/-- How a row is written. -/
def rowText (row : Number × PointerSet) : String := row.1.text ++ (": " ++ row.2.text)

theorem text_eq (table : HoverTable) :
    table.text = "\x7b" ++ (joined ", " (table.listing.map rowText) ++ "\x7d") := by
  rw [text, listing, List.map_map, String.append_assoc]
  simp only [rowText, Function.comp_def, String.append_assoc]

theorem mem_listing {table : HoverTable} {row : Number × PointerSet} :
    row ∈ table.listing ↔ row.2 = table.pointers row.1 ∧ row.2 ≠ ∅ := by
  rw [listing, List.mem_map]
  constructor
  · rintro ⟨device, listed, rfl⟩
    exact ⟨rfl, mem_devices.mp (table.sortedDevices_perm.mem_iff.mp listed)⟩
  · rintro ⟨pointers, nonempty⟩
    refine ⟨row.1, table.sortedDevices_perm.mem_iff.mpr (mem_devices.mpr ?_), ?_⟩
    · rwa [← pointers]
    · rw [← pointers]

/-- The rows determine which pointers of which devices hover. -/
theorem pointers_eq_of_listing_eq {first second : HoverTable}
    (same : first.listing = second.listing) (device : Number) :
    first.pointers device = second.pointers device := by
  have forth {one other : HoverTable} (same : one.listing = other.listing)
      (hovers : one.pointers device ≠ ∅) : one.pointers device = other.pointers device := by
    have listed : (device, one.pointers device) ∈ one.listing := mem_listing.mpr ⟨rfl, hovers⟩
    rw [same] at listed
    exact (mem_listing.mp listed).1
  by_cases hovers : first.pointers device = ∅
  · by_cases hoversToo : second.pointers device = ∅
    · rw [hovers, hoversToo]
    · exact (forth same.symm hoversToo).symm
  · exact forth same hovers

theorem rowText_begun {row : Number × PointerSet} (safe : row.1.NamesDevice) :
    rowText row ≠ "" ∧ ¬OpensWith ['\x7d'] (rowText row) := by
  obtain ⟨value, _, text⟩ := Number.text_of_namesDevice safe
  have avoids : Avoids ['\x7d'] (Number.intText value) := Number.avoids_intText (by decide) value
  rw [rowText, text]
  constructor
  · intro none
    exact Number.intText_ne_empty value (String.append_eq_empty_iff.mp none).1
  · intro opens
    exact avoids.not_opensWith (opens.of_append (Number.intText_ne_empty value))

/-- A row is told whatever follows, its device before the colon and its pointers by their
brackets. -/
theorem tells_rowText {first second : Number × PointerSet} (safeFirst : first.1.NamesDevice)
    (safeSecond : second.1.NamesDevice) :
    Tells (fun _ => True) (rowText first) (rowText second) (first = second) := by
  have colon : OpensWith [':'] ": " := by decide
  have device : Tells (OpensWith [':']) first.1.text second.1.text (first.1 = second.1) :=
    Number.tells_text safeFirst safeSecond (by decide)
  have pointers := PointerSet.tells_text first.2 second.2
  refine (device.before ": " colon.append pointers).imp ?_
  rintro ⟨devices, sets⟩
  exact Prod.ext devices sets

/-- A table whose devices are safe integers is told whatever follows. -/
theorem tells_text {first second : HoverTable}
    (safeFirst : ∀ device ∈ first.devices, device.NamesDevice)
    (safeSecond : ∀ device ∈ second.devices, device.NamesDevice) :
    Tells (fun _ => True) first.text second.text
      (∀ device, first.pointers device = second.pointers device) := by
  have separates : OpensWith [','] ", " := by decide
  have closes : OpensWith ['\x7d'] "\x7d" := by decide
  have safe {table : HoverTable} (safe : ∀ device ∈ table.devices, device.NamesDevice)
      {row : Number × PointerSet} (listed : row ∈ table.listing) : row.1.NamesDevice := by
    obtain ⟨pointers, nonempty⟩ := mem_listing.mp listed
    exact safe row.1 (mem_devices.mpr (pointers ▸ nonempty))
  have begun : ∀ row ∈ first.listing ++ second.listing,
      rowText row ≠ "" ∧ ¬OpensWith ['\x7d'] (rowText row) := by
    intro row listed
    rcases List.mem_append.mp listed with inFirst | inSecond
    · exact rowText_begun (safe safeFirst inFirst)
    · exact rowText_begun (safe safeSecond inSecond)
  have rows : Tells (OpensWith ['\x7d']) _ _ (first.listing = second.listing) :=
    Tells.joined separates (by decide) begun fun _ inFirst _ inSecond =>
      (tells_rowText (safe safeFirst inFirst) (safe safeSecond inSecond)).anywhere
  rw [text_eq, text_eq]
  exact ((rows.closed "\x7d" closes.append).prepend "\x7b").imp pointers_eq_of_listing_eq

end HoverTable

/-- A listing of names and a rest avoids what neither the names nor numbers have in them. -/
theorem avoids_listing {Item : Type} {stop : Char} {name : Item → String}
    (noDigit : hexDigit? stop = none) (noSign : stop ≠ 'x' ∧ stop ∉ " | ".toList)
    (avoidsNames : ∀ item, Avoids [stop] (name item)) (listed : List Item) (width : Nat)
    (rest : BitVec 32) :
    Avoids [stop]
      (joined " | " (listed.map name ++ if rest = 0 then [] else [hexText width rest])) := by
  obtain ⟨noPrefix, noBar⟩ := noSign
  apply Avoids.joined
  · exact List.forall_mem_singleton.mpr noBar
  · intro part isPart
    rcases List.mem_append.mp isPart with named | inRest
    · obtain ⟨item, _, rfl⟩ := List.mem_map.mp named
      exact avoidsNames item
    · split at inRest
      · cases inRest
      · rw [List.mem_singleton.mp inRest]
        exact List.forall_mem_singleton.mpr
          ((writesHex_hexText width rest).not_mem noDigit noPrefix)

namespace Dispatch

theorem avoids_text (mask : Mask) : Avoids [','] (text mask) := by
  have names (flag : DispatchFlag) : Avoids [','] flag.name := by
    cases flag <;> decide
  by_cases zero : mask.stored = 0
  · rw [text, if_pos zero]
    decide
  · rw [text, if_neg zero, parts_eq]
    exact avoids_listing (by decide) (by decide) names _ _ _

/-- Masks with the same text have the same bits, also those that have no bits and no text. -/
theorem word_eq_of_text_eq {first second : Mask} (same : text first = text second) :
    first.word = second.word := by
  have untold {mask : Mask} (untold : ¬(mask.stored = 0 ∨ mask.word ≠ 0)) :
      mask.word = 0 ∧ readMask? DispatchFlag.published (text mask) = none := by
    obtain ⟨nonzero, noBits⟩ := not_or.mp untold
    have word : mask.word = 0 := not_not.mp noBits
    refine ⟨word, ?_⟩
    rw [text, if_neg nonzero, word]
    decide
  by_cases toldFirst : first.stored = 0 ∨ first.word ≠ 0 <;>
    by_cases toldSecond : second.stored = 0 ∨ second.word ≠ 0
  · exact eq_of_readMask? same (readMask?_text toldFirst) (readMask?_text toldSecond)
  · have reads := readMask?_text toldFirst
    rw [same, (untold toldSecond).2] at reads
    cases reads
  · have reads := readMask?_text toldSecond
    rw [← same, (untold toldFirst).2] at reads
    cases reads
  · rw [(untold toldFirst).1, (untold toldSecond).1]

/-- Flags are told before a comma. -/
theorem tells_text (first second : Mask) :
    Tells (OpensWith [',']) (text first) (text second) (first.word = second.word) :=
  Tells.of_avoids (avoids_text first) (avoids_text second) word_eq_of_text_eq

end Dispatch

namespace InputSource

theorem avoids_text (bits : BitVec 32) : Avoids ['\n'] (text bits) := by
  have names (source : InputSource) : Avoids ['\n'] source.name := by
    cases source <;> decide
  by_cases none : bits = 0
  · rw [text, if_pos none]
    exact names unknown
  · rw [text_eq none]
    exact avoids_listing (by decide) (by decide) names _ _ _

/-- Sources are told before the end of the line. -/
theorem tells_text (first second : BitVec 32) :
    Tells (OpensWith ['\n']) (text first) (text second) (first = second) :=
  Tells.of_avoids (avoids_text first) (avoids_text second) fun same =>
    eq_of_readMask? same (readMask?_text first) (readMask?_text second)

end InputSource

namespace Target

/-- A target whose text can be read: the name of its window has no apostrophe, and its times and
devices are safe integers. -/
structure Legible (target : Target) : Prop where
  name : '\'' ∉ target.window.name.toList
  downTime : ∀ time, target.downTime = some time → time.NamesDevice
  devices : ∀ device ∈ target.hovering.devices, device.NamesDevice

/-- Targets that agree in all that their texts are made of. -/
structure Agrees (first second : Target) : Prop where
  name : first.window.name = second.window.name
  touching : first.touching = second.touching
  flags : first.flags.word = second.flags.word
  downTime : first.downTime = second.downTime
  hovering : ∀ device, first.hovering.pointers device = second.hovering.pointers device
  pilfered : first.pilfered = second.pilfered

variable {first second : Target}

/-- How a time is written, which may be missing. -/
def timeText (time : Option Number) : String := time.elim "none" Number.text

/-- A time that may be missing is told before a comma. -/
theorem tells_timeText {first second : Option Number}
    (safeFirst : ∀ time, first = some time → time.NamesDevice)
    (safeSecond : ∀ time, second = some time → time.NamesDevice) :
    Tells (OpensWith [',']) (timeText first) (timeText second) (first = second) := by
  have avoids {time : Option Number} (safe : ∀ value, time = some value → value.NamesDevice) :
      Avoids [','] (timeText time) := by
    cases time with
    | none => exact (by decide : Avoids [','] "none")
    | some value => exact Number.avoids_text (safe value rfl) (by decide)
  have apart {value : Number} (safe : value.NamesDevice) : value.text ≠ "none" := by
    intro none
    have noLetter := Number.avoids_text safe (by decide : Number.Undigital ['n'])
    rw [none] at noLetter
    revert noLetter
    decide
  apply Tells.of_avoids (avoids safeFirst) (avoids safeSecond)
  intro same
  cases first with
  | none =>
      cases second with
      | none => rfl
      | some other => exact absurd same.symm (apart (safeSecond other rfl))
  | some time =>
      cases second with
      | none => exact absurd same (apart (safeFirst time rfl))
      | some other =>
          exact congrArg some (Number.text_inj (safeFirst time rfl) (safeSecond other rfl) same)

theorem text_eq (target : Target) :
    target.text =
      "name='" ++ (target.window.name ++ ("', pointerIds=" ++ (target.touching.text ++
        (", targetFlags=" ++ (Dispatch.text target.flags ++
          (", firstDownTimeInTarget=" ++ (timeText target.downTime ++
            (", hoveringPointers=" ++ (target.hovering.text ++
              (", pilferedPointerIds=" ++ (target.pilfered.text ++ "\n"))))))))))) := by
  -- `rw [text]` would first prove an equation for the definition, at great length.
  delta text timeText
  simp only [String.append_assoc]

/-- The text of a target is told whatever follows: it determines all that it is made of. -/
theorem tells_text (legibleFirst : first.Legible) (legibleSecond : second.Legible) :
    Tells (fun _ => True) first.text second.text (first.Agrees second) := by
  have name : Tells (OpensWith ['\'']) first.window.name second.window.name
      (first.window.name = second.window.name) :=
    Tells.of_avoids (by simpa [Avoids] using legibleFirst.name)
      (by simpa [Avoids] using legibleSecond.name) id
  have touching := PointerSet.tells_text first.touching second.touching
  have flags := Dispatch.tells_text first.flags second.flags
  have downTime := tells_timeText legibleFirst.downTime legibleSecond.downTime
  have hovering := HoverTable.tells_text legibleFirst.devices legibleSecond.devices
  have pilfered := PointerSet.tells_text first.pilfered second.pilfered
  have apostrophe : OpensWith ['\''] "', pointerIds=" := by decide
  have beforeTime : OpensWith [','] ", firstDownTimeInTarget=" := by decide
  have beforeHovering : OpensWith [','] ", hoveringPointers=" := by decide
  have line := (name.before "', pointerIds=" apostrophe.append <|
    touching.before ", targetFlags=" (fun _ => trivial) <|
    flags.before ", firstDownTimeInTarget=" beforeTime.append <|
    downTime.before ", hoveringPointers=" beforeHovering.append <|
    hovering.before ", pilferedPointerIds=" (fun _ => trivial) <|
    pilfered.closed "\n" fun _ => trivial).prepend "name='"
  rw [text_eq, text_eq]
  refine line.imp ?_
  rintro ⟨name, touching, flags, downTime, hovering, pilfered⟩
  exact ⟨name, touching, flags, downTime, hovering, pilfered⟩

end Target

namespace Routing

/-- The lines of a text that list the targets. -/
def targetLines (targets : List Target) : String :=
  if targets.isEmpty then "  Windows: <none>\n"
  else
    "  Windows:\n" ++
      joined "" (targets.mapIdx fun index target =>
        "    " ++ Number.intText index ++ " : " ++ target.text)

theorem text_eq (routing : Routing) :
    routing.text =
      "deviceId=" ++ (Number.intText routing.device ++ (", source=" ++
        (InputSource.text routing.source ++ ("\n" ++ targetLines routing.targets)))) := by
  simp only [text, targetLines]
  split <;> simp only [String.append_assoc]

/-- A listing without lines is no listing with some. -/
theorem none_ne_lines (lines : String) : "  Windows: <none>\n" ≠ "  Windows:\n" ++ lines := by
  intro same
  have chars := congrArg (·.toList[10]?) same
  rw [String.toList_append, List.getElem?_append_left (by decide)] at chars
  revert chars
  decide

/-- The lines that list the targets determine them, one by one and in their order. -/
theorem agree_of_targetLines {first second : List Target}
    (legibleFirst : ∀ target ∈ first, target.Legible)
    (legibleSecond : ∀ target ∈ second, target.Legible)
    (same : targetLines first = targetLines second) : List.Forall₂ Target.Agrees first second := by
  have told : ∀ index : Nat, ∀ one ∈ first, ∀ other ∈ second,
      Tells (fun _ => True) ("    " ++ Number.intText index ++ " : " ++ one.text)
        ("    " ++ Number.intText index ++ " : " ++ other.text) (one.Agrees other) :=
    fun _ one inFirst other inSecond =>
      (Target.tells_text (legibleFirst one inFirst) (legibleSecond other inSecond)).prepend _
  have written : ∀ (index : Nat) (target : Target),
      "    " ++ Number.intText index ++ " : " ++ target.text ≠ "" := by
    intro index target none
    simp [String.append_eq_empty_iff] at none
  rw [targetLines, targetLines] at same
  split at same <;> split at same
  · next noFirst noSecond =>
    rw [List.isEmpty_iff.mp noFirst, List.isEmpty_iff.mp noSecond]
    exact .nil
  · exact absurd same (none_ne_lines _)
  · exact absurd same.symm (none_ne_lines _)
  · exact forall₂_of_joined_mapIdx written told ((String.append_right_inj _).mp same)

/-- Routings whose targets are legible, and that have the same text, agree in all that the text is
made of. -/
theorem agree_of_text_eq {first second : Routing}
    (legibleFirst : ∀ target ∈ first.targets, target.Legible)
    (legibleSecond : ∀ target ∈ second.targets, target.Legible)
    (same : first.text = second.text) :
    first.device = second.device ∧ first.source = second.source ∧
      List.Forall₂ Target.Agrees first.targets second.targets := by
  have comma : OpensWith [','] ", source=" := by decide
  have newline : OpensWith ['\n'] "\n" := by decide
  have device : Tells (OpensWith [',']) _ _ (first.device = second.device) :=
    Number.tells_intText (by decide) first.device second.device
  have source := InputSource.tells_text first.source second.source
  have heading := (device.before ", source=" comma.append source).prepend "deviceId="
  rw [text_eq, text_eq] at same
  obtain ⟨⟨devices, sources⟩, rest⟩ :=
    heading (newline.append (targetLines first.targets))
      (newline.append (targetLines second.targets))
      (by simpa only [String.append_assoc] using same)
  exact ⟨devices, sources, agree_of_targetLines legibleFirst legibleSecond
    ((String.append_right_inj _).mp rest)⟩

variable {routing : Routing} {operation : Operation}

/-- Hovering from what is no device is refused and changes nothing. -/
theorem next_hover_of_unnamed {device : Number} (unnamed : ¬device.NamesDevice) (window : Window)
    (pointer : Number) : routing.next (.hover window device pointer) = routing := by
  have refused : checkDevice device = .error (.deviceNotSafe device) :=
    checkDevice_eq_error_iff.mpr ⟨unnamed, rfl⟩
  simp [next, Operation.apply, hover, refused, refuse]

/-- What hovers after one of the routing's own operations did so before, or hovers from a device. -/
theorem hovers_of_next (own : operation.isOwn = true) {target : Target}
    (inTargets : target ∈ (routing.next operation).targets) {device : Number} {pointer : PointerId}
    (hovers : pointer ∈ target.hovering.pointers device) :
    (∃ old ∈ routing.targets, pointer ∈ old.hovering.pointers device) ∨ device.NamesDevice := by
  by_cases named : device.NamesDevice
  · exact .inr named
  · left
    by_cases isHover : ∃ window number, operation = .hover window device number
    · obtain ⟨window, number, rfl⟩ := isHover
      rw [next_hover_of_unnamed named] at inTargets
      exact ⟨target, inTargets, hovers⟩
    · rcases mem_next inTargets with ⟨old, inOld, alters⟩ | adds
      · rcases (alters.permits own).hovering device pointer hovers with before | ⟨number, here, _⟩
        · exact ⟨old, inOld, before⟩
        · exact absurd ⟨_, number, here⟩ isHover
      · have fresh : pointer ∉ target.hovering.pointers device := by
          cases operation with
          | touch =>
              obtain ⟨_, rfl⟩ := adds
              exact PointerSet.not_mem_empty pointer
          | hover window other number =>
              obtain ⟨_, id, _, rfl⟩ := adds
              have apart : device ≠ other := fun same => isHover ⟨window, number, same ▸ rfl⟩
              rw [Target.hover, HoverTable.pointers_insert, if_neg apart]
              exact PointerSet.not_mem_empty pointer
          | _ => cases adds
        exact absurd hovers fresh

/-- After operations of the routing's own, only devices have hovering pointers. -/
theorem namesDevice_of_hovers_after {history : List Operation}
    (own : ∀ operation ∈ history, operation.isOwn = true)
    {target : Target} (inTargets : target ∈ (({} : Routing).after history).targets)
    {device : Number} {pointer : PointerId} (hovers : pointer ∈ target.hovering.pointers device) :
    device.NamesDevice := by
  induction history using List.reverseRecOn generalizing target with
  | nil => cases inTargets
  | append_singleton earlier last ih =>
      rw [after_append] at inTargets
      have ownLast : last.isOwn = true := own last (by simp)
      rcases hovers_of_next ownLast inTargets hovers with ⟨old, inOld, before⟩ | named
      · exact ih (fun operation listed => own operation (by simp [listed])) inOld before
      · exact named

theorem legible_after {history : List Operation}
    (own : ∀ operation ∈ history, operation.isOwn = true)
    {target : Target} (inTargets : target ∈ (({} : Routing).after history).targets)
    (name : '\'' ∉ target.window.name.toList)
    (safe : ∀ time, target.downTime = some time → time.NamesDevice) : target.Legible where
  name := name
  downTime := safe
  devices device listed := by
    have hovers := HoverTable.mem_devices.mp listed
    rw [Ne, PointerSet.eq_empty_iff, not_forall_not] at hovers
    obtain ⟨pointer, hovers⟩ := hovers
    exact namesDevice_of_hovers_after own inTargets hovers

/-- The text of a routing determines it. If operations of their own lead two routings to the same
text, and no window among their targets has a name with an apostrophe, and each time there is a safe
integer, then they have the same device, the same source, and as many targets; and these agree, one
by one and in their order, in the name of the window, the pointers that touch it and that it has
claimed, the bits of its flags, its time if it has one, and the pointers of each device that
hover. -/
theorem text_determines_routing {first second : List Operation}
    (ownFirst : ∀ operation ∈ first, operation.isOwn = true)
    (ownSecond : ∀ operation ∈ second, operation.isOwn = true) :
    let left := ({} : Routing).after first
    let right := ({} : Routing).after second
    (∀ target ∈ left.targets ++ right.targets,
      '\'' ∉ target.window.name.toList ∧
        ∀ time, target.downTime = some time →
          time.IsIntegerIn (-(2 ^ 53 - 1)) (2 ^ 53 - 1)) →
    left.text = right.text →
      left.device = right.device ∧ left.source = right.source ∧
        List.Forall₂ Target.Agrees left.targets right.targets := by
  intro left right plain same
  apply agree_of_text_eq _ _ same
  · intro target inLeft
    obtain ⟨name, safe⟩ := plain target (List.mem_append_left _ inLeft)
    exact legible_after ownFirst inLeft name safe
  · intro target inRight
    obtain ⟨name, safe⟩ := plain target (List.mem_append_right _ inRight)
    exact legible_after ownSecond inRight name safe

/-- Two ways to the same text: over other handles with the same names, with the flags stored as
other numbers, and with the hovers in another order. -/
theorem texts_over_other_handles :
    let first : List Operation :=
      [.bind 4 (.ofInt 4098), .touch Window.app ⟨.ofInt 257⟩ ⟨9⟩ (some 100),
        .hover Window.spy 10 2, .hover Window.spy (.ofInt (-3)) 0]
    let second : List Operation :=
      [.touch (Window.alone 7 "app") ⟨.ofInt 4294967553⟩ ⟨9⟩ (some 100),
        .hover (Window.alone 8 "spy") (.ofInt (-3)) 0, .hover (Window.alone 8 "spy") 10 2,
        .hover Window.app (.finite (1 / 2)) 0, .bind 4 (.ofInt 4098)]
    let left := ({} : Routing).after first
    let right := ({} : Routing).after second
    left.text = right.text ∧ left ≠ right ∧
      left.device = right.device ∧ left.source = right.source ∧
        List.Forall₂ Target.Agrees left.targets right.targets := by
  intro first second left right
  have same : left.text = right.text := by decide +kernel
  have names : ∀ target ∈ left.targets ++ right.targets, '\'' ∉ target.window.name.toList := by
    decide +kernel
  have times : ∀ target ∈ left.targets ++ right.targets,
      target.downTime.all (·.safeInt?.isSome) = true := by
    decide +kernel
  refine ⟨same, by decide +kernel, text_determines_routing (by decide) (by decide) ?_ same⟩
  intro target listed
  refine ⟨names target listed, fun time isTime => Number.namesDevice_iff.mpr ?_⟩
  have safe := times target listed
  rwa [isTime, Option.all_some] at safe

end Routing

end PointerRouting
