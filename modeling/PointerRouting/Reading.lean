/-
Module: PointerRouting.Reading
Purpose: Texts of masks read back. A reader cuts a text at the bars, and takes each part for a name
  or for a number in hexadecimal; the word of the text has the bits of all its parts. The reader
  knows the published names and nothing of how the texts are written.
Main exports: separated, hexValue?, readHex?, readMask?, WritesHex, separated_joined,
  writesHex_hexText, readPart?_of_writesHex, readMask?_joined
-/
import PointerRouting.Listing
import PointerRouting.Mask

namespace PointerRouting

/-- A text cut at every bar that has a blank on either side. -/
def cutAtBars : List Char → List (List Char)
  | [] => [[]]
  | ' ' :: '|' :: ' ' :: rest => [] :: cutAtBars rest
  | char :: rest => (cutAtBars rest).modifyHead (char :: ·)

/-- The parts of a text between its bars. -/
def separated (text : String) : List String := (cutAtBars text.toList).map String.ofList

/-- The value of a hexadecimal digit. -/
def hexDigit? (char : Char) : Option Nat :=
  if '0' ≤ char ∧ char ≤ '9' then some (char.toNat - '0'.toNat)
  else if 'a' ≤ char ∧ char ≤ 'f' then some (char.toNat - 'a'.toNat + 10)
  else none

/-- The value of hexadecimal digits after a value, most significant first. -/
def hexValueFrom? (value : Nat) : List Char → Option Nat
  | [] => some value
  | char :: rest => do hexValueFrom? (16 * value + (← hexDigit? char)) rest

/-- The value of hexadecimal digits. -/
def hexValue? (digits : List Char) : Option Nat := hexValueFrom? 0 digits

/-- The word that a text stands for which consists of `0x` and hexadecimal digits, unless their
value is too large for a word. -/
def readHex? (text : String) : Option (BitVec 32) :=
  match text.toList with
  | '0' :: 'x' :: digit :: digits => do
    let value ← hexValue? (digit :: digits)
    let word := BitVec.ofNat 32 value
    if word.toNat = value then some word else none
  | _ => none

/-- The word that a part stands for: the bits that are published under the name, or a number. -/
def readPart? (published : List (String × Nat)) (part : String) : Option (BitVec 32) :=
  ((published.lookup part).map (BitVec.ofNat 32)).or (readHex? part)

/-- The word that a text stands for: the bits of all its parts. -/
def readMask? (published : List (String × Nat)) (text : String) : Option (BitVec 32) := do
  let words ← (separated text).mapM (readPart? published)
  return allBits words

/-- Up to the first blank nothing is cut. -/
theorem cutAtBars_append {part : List Char} (blankless : ' ' ∉ part) (rest : List Char) :
    cutAtBars (part ++ rest) = (cutAtBars rest).modifyHead (part ++ ·) := by
  induction part with
  | nil =>
      rw [List.nil_append]
      cases cutAtBars rest <;> rfl
  | cons char part ih =>
      rw [List.mem_cons, not_or] at blankless
      obtain ⟨notBlank, blanklessRest⟩ := blankless
      rw [List.cons_append, cutAtBars, ih blanklessRest]
      · cases cutAtBars rest <;> rfl
      · rintro _ rfl
        exact absurd rfl notBlank

/-- Parts without blanks that are joined by bars are cut where they were joined. -/
theorem separated_joined {parts : List String} (nonempty : parts ≠ [])
    (blankless : ∀ part ∈ parts, ' ' ∉ part.toList) : separated (joined " | " parts) = parts := by
  have cut : cutAtBars (joined " | " parts).toList = parts.map String.toList := by
    induction parts with
    | nil => exact absurd rfl nonempty
    | cons part rest ih =>
        obtain ⟨first, others⟩ := List.forall_mem_cons.mp blankless
        cases rest with
        | nil =>
            have whole := cutAtBars_append first []
            rw [List.append_nil] at whole
            rw [joined, whole]
            simp [cutAtBars]
        | cons next rest =>
            have later := ih (List.cons_ne_nil next rest) others
            rw [joined, String.toList_append, String.toList_append, List.append_assoc,
              cutAtBars_append first]
            · change List.modifyHead _ ([] :: cutAtBars (joined " | " (next :: rest)).toList) = _
              rw [later]
              simp
            · exact List.cons_ne_nil next rest
  simp [separated, cut]

theorem hexValueFrom?_append (value : Nat) (first second : List Char) :
    hexValueFrom? value (first ++ second) =
      (hexValueFrom? value first).bind (hexValueFrom? · second) := by
  induction first generalizing value with
  | nil => rfl
  | cons char rest ih =>
      rw [List.cons_append, hexValueFrom?, hexValueFrom?]
      cases hexDigit? char with
      | none => rfl
      | some digit => exact ih _

theorem hexDigit?_digitChar {digit : Nat} (small : digit < 16) :
    hexDigit? digit.digitChar = some digit := by
  have all : ∀ digit < 16, hexDigit? digit.digitChar = some digit := by decide
  exact all digit small

/-- The digits of a number have the number as their value. -/
theorem hexValue?_toDigits (number : Nat) : hexValue? (Nat.toDigits 16 number) = some number := by
  induction number using Nat.strongRecOn with
  | ind number ih =>
      rw [Nat.toDigits_eq_if (by decide)]
      split
      next small => simp [hexValue?, hexValueFrom?, hexDigit?_digitChar small]
      next large =>
        have last : hexDigit? (number % 16).digitChar = some (number % 16) :=
          hexDigit?_digitChar (Nat.mod_lt _ (by decide))
        have leading : hexValueFrom? 0 (Nat.toDigits 16 (number / 16)) = some (number / 16) :=
          ih (number / 16) (by omega)
        rw [hexValue?, hexValueFrom?_append, leading]
        simp only [Option.bind_some, hexValueFrom?, last, bind]
        rw [Nat.div_add_mod]

/-- Leading zeros change no value. -/
theorem hexValue?_replicate_append (count : Nat) (digits : List Char) :
    hexValue? (List.replicate count '0' ++ digits) = hexValue? digits := by
  induction count with
  | zero => rfl
  | succ count ih =>
      rw [List.replicate_succ, List.cons_append, ← ih]
      rfl

/-- What has a value has only hexadecimal digits in it. -/
theorem not_mem_of_hexValueFrom? {other : Char} (noDigit : hexDigit? other = none)
    {digits : List Char} {start value : Nat}
    (reads : hexValueFrom? start digits = some value) : other ∉ digits := by
  induction digits generalizing start with
  | nil => exact List.not_mem_nil
  | cons char rest ih =>
      rw [hexValueFrom?] at reads
      obtain ⟨digit, isDigit, later⟩ := Option.bind_eq_some_iff.mp reads
      rw [List.mem_cons, not_or]
      refine ⟨?_, ih later⟩
      rintro rfl
      rw [noDigit] at isDigit
      cases isDigit

/-- A text writes a word in hexadecimal, with at least so many digits. -/
def WritesHex (width : Nat) (bits : BitVec 32) (text : String) : Prop :=
  ∃ digits, text.toList = '0' :: 'x' :: digits ∧ width ≤ digits.length ∧
    hexValue? digits = some bits.toNat

section

variable {width : Nat} {bits : BitVec 32} {text : String}

theorem writesHex_hexText (width : Nat) (bits : BitVec 32) :
    WritesHex width bits (hexText width bits) := by
  refine ⟨List.replicate (width - (Nat.toDigits 16 bits.toNat).length) '0' ++
    Nat.toDigits 16 bits.toNat, ?_, ?_, ?_⟩
  · simp [hexText]
  · simp
    omega
  · rw [hexValue?_replicate_append, hexValue?_toDigits]

/-- A written number has only its prefix and digits in it. -/
theorem WritesHex.not_mem {other : Char} (noDigit : hexDigit? other = none) (noPrefix : other ≠ 'x')
    (writes : WritesHex width bits text) : other ∉ text.toList := by
  obtain ⟨digits, spelled, _, reads⟩ := writes
  have zero : other ≠ '0' := by
    rintro rfl
    cases noDigit
  rw [spelled, List.mem_cons, List.mem_cons, not_or, not_or]
  exact ⟨zero, noPrefix, not_mem_of_hexValueFrom? noDigit reads⟩

theorem WritesHex.blankless (writes : WritesHex width bits text) : ' ' ∉ text.toList :=
  writes.not_mem (by decide) (by decide)

/-- A word that is written with a digit at least is read back. -/
theorem readHex?_of_writesHex (writes : WritesHex (width + 1) bits text) :
    readHex? text = some bits := by
  obtain ⟨digits, spelled, long, reads⟩ := writes
  cases digits with
  | nil => cases long
  | cons digit digits =>
      have same : BitVec.ofNat 32 bits.toNat = bits := by
        rw [BitVec.ofNat_toNat, BitVec.setWidth_eq]
      rw [readHex?, spelled]
      simp only [reads, same, bind, Option.bind, if_true]

/-- A number is no name, so long as no name opens with a zero. -/
theorem readPart?_of_writesHex {published : List (String × Nat)}
    (apart : ∀ entry ∈ published, entry.1.toList.head? ≠ some '0')
    (writes : WritesHex (width + 1) bits text) : readPart? published text = some bits := by
  have unnamed : published.lookup text = none := by
    rw [List.lookup_eq_none_iff]
    intro entry listed
    obtain ⟨digits, spelled, _⟩ := writes
    rw [bne_iff_ne]
    rintro rfl
    exact apart entry listed (by rw [spelled]; rfl)
  rw [readPart?, unnamed, readHex?_of_writesHex writes]
  rfl

end

theorem readMask?_joined {published : List (String × Nat)} {parts : List String}
    {words : List (BitVec 32)} (nonempty : parts ≠ [])
    (blankless : ∀ part ∈ parts, ' ' ∉ part.toList)
    (reads : parts.mapM (readPart? published) = some words) :
    readMask? published (joined " | " parts) = some (allBits words) := by
  rw [readMask?, separated_joined nonempty blankless, reads]
  rfl

/-- A text is read as one word. -/
theorem eq_of_readMask? {published : List (String × Nat)} {first second : String}
    {left right : BitVec 32} (same : first = second)
    (readsFirst : readMask? published first = some left)
    (readsSecond : readMask? published second = some right) : left = right := by
  rw [same, readsSecond] at readsFirst
  exact (Option.some.inj readsFirst).symm

end PointerRouting
