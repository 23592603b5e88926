/-
Module: PointerRouting.Proofs.HoverPairs
Purpose: What hovers over a window is a set of pairs, each of a device and one of its pointers. The
  changes of a target act on that set by adding, erasing and filtering pairs; every question about
  hovering is a question about the set; and the text of a target shows nothing of the order in
  which the pairs came.
Main exports: Target.Change.pairs, Target.Change.pairsAfter, Target.next, Target.after,
  Target.Hovers, Target.Hovers.next, Target.hovers_after, HoverTable.ascending_sortedDevices,
  HoverTable.text_congr, Target.hovering_is_set_of_pairs
-/
import Mathlib.Data.Finset.Basic
import PointerRouting.Proofs.Arrivals

namespace PointerRouting

/-- Devices with their pointers, as plain pairs. -/
abbrev HoverPairs := Finset (Number × PointerId)

namespace Target

/-- What a change makes of the pairs that hover. A number that names no pointer names no pair. -/
def Change.pairs (hovering : HoverPairs) : Change → HoverPairs
  | hover device pointer =>
    match PointerId.ofNumber? pointer with
    | some id => insert (device, id) hovering
    | none => hovering
  | unhover device pointer =>
    match PointerId.ofNumber? pointer with
    | some id => hovering.erase (device, id)
    | none => hovering
  | unhoverDevice device => hovering.filter fun pair => pair.1 ≠ device
  | endHovers => ∅
  | startAt _ | touch _ | lift _ | claim _ | redirect _ => hovering

/-- The pairs that changes leave where nothing hovered before. -/
def Change.pairsAfter (changes : List Change) : HoverPairs := changes.foldl Change.pairs ∅

/-- The target after a change, or what one that is refused leaves of it. -/
def next (target : Target) (change : Change) : Target := change.edit.left target

/-- The target after changes, refused ones among them. -/
def after (target : Target) (changes : List Change) : Target := changes.foldl next target

/-- What the hover table of a target says are just these pairs. -/
def Hovers (target : Target) (pairs : HoverPairs) : Prop :=
  ∀ device pointer, pointer ∈ target.hovering.pointers device ↔ (device, pointer) ∈ pairs

variable {target : Target} {pairs : HoverPairs}

theorem next_of_ok {change : Change} {revised : Target}
    (accepted : target.revise change = .ok revised) : target.next change = revised :=
  Edit.left_of_ok accepted

/-- A change that is refused leaves the target as it was. -/
theorem next_of_error {change : Change} {violation : Violation}
    (refused : target.revise change = .error violation) : target.next change = target :=
  change.atomic.left_eq refused

theorem revise_hover_of_unnamed {device pointer : Number}
    (unnamed : PointerId.ofNumber? pointer = none) :
    target.revise (.hover device pointer) = .error (.pointerOutOfRange pointer) := by
  rw [revise_hover_eq, checkPointer_of_unnamed unnamed]
  rfl

theorem revise_hover_of_named {device pointer : Number} {id : PointerId}
    (named : PointerId.ofNumber? pointer = some id) :
    target.revise (.hover device pointer) = .ok (target.hover device id) := by
  rw [revise_hover_eq, checkPointer_of_named named]
  rfl

/-- What is no pointer is refused on a device with hovering pointers and not looked at on others. -/
theorem revise_unhover_of_unnamed {device pointer : Number}
    (unnamed : PointerId.ofNumber? pointer = none) :
    target.revise (.unhover device pointer) =
      if target.hovering.hasDevice device then .error (.pointerOutOfRange pointer)
      else .ok target := by
  have looks : target.revise (.unhover device pointer) = target.unhover device pointer := rfl
  rw [looks, unhover_eq, checkPointer_of_unnamed unnamed]
  rfl

theorem revise_unhover_of_named {device pointer : Number} {id : PointerId}
    (named : PointerId.ofNumber? pointer = some id) :
    target.revise (.unhover device pointer) =
      .ok { target with hovering := target.hovering.erase device id } :=
  unhover_of_valid (checkPointer_of_named named)

/-- A change keeps the table and the pairs together. -/
theorem Hovers.next (hovers : target.Hovers pairs) (change : Change) :
    (target.next change).Hovers (change.pairs pairs) := by
  cases change with
  | hover device pointer =>
      cases named : PointerId.ofNumber? pointer with
      | none =>
          rw [next_of_error (revise_hover_of_unnamed named), Change.pairs, named]
          exact hovers
      | some id =>
          intro other pointer
          rw [next_of_ok (revise_hover_of_named named), Target.hover, HoverTable.pointers_insert,
            Change.pairs, named]
          by_cases same : other = device
          · subst same
            simp [hovers other pointer, or_comm]
          · simp [same, hovers other pointer]
  | unhover device pointer =>
      cases named : PointerId.ofNumber? pointer with
      | none =>
          have kept : target.next (.unhover device pointer) = target := by
            have looks : target.revise (.unhover device pointer) = _ :=
              revise_unhover_of_unnamed named
            cases listed : target.hovering.hasDevice device with
            | true => exact next_of_error (by rw [looks, listed]; rfl)
            | false => exact next_of_ok (by rw [looks, listed]; rfl)
          rw [kept, Change.pairs, named]
          exact hovers
      | some id =>
          intro other pointer
          rw [next_of_ok (revise_unhover_of_named named), HoverTable.pointers_erase, Change.pairs,
            named]
          by_cases same : other = device
          · subst same
            simp [hovers other pointer, and_comm]
          · simp [same, hovers other pointer]
  | unhoverDevice device =>
      intro other pointer
      have dropped : target.next (.unhoverDevice device) = target.unhoverDevice device := rfl
      rw [dropped, unhoverDevice, HoverTable.pointers_drop, Change.pairs]
      by_cases same : other = device
      · simp [same]
      · simp [same, hovers other pointer]
  | endHovers =>
      intro device pointer
      have emptied : target.next .endHovers = target.endHovers := rfl
      rw [emptied, endHovers, HoverTable.pointers_empty, Change.pairs]
      simp
  | lift pointer =>
      cases lifts : target.revise (.lift pointer) with
      | error violation =>
          rw [next_of_error lifts]
          exact hovers
      | ok lifted =>
          obtain ⟨id, rfl⟩ := eq_of_lift lifts
          rw [next_of_ok lifts]
          exact hovers
  | startAt | touch | claim | redirect => exact hovers

theorem isOk_hover (target : Target) (device pointer : Number) :
    (target.revise (.hover device pointer)).isOk = (PointerId.ofNumber? pointer).isSome := by
  cases named : PointerId.ofNumber? pointer with
  | some id =>
      rw [revise_hover_of_named named]
      rfl
  | none =>
      rw [revise_hover_of_unnamed named]
      rfl

/-- What hovers in the end are the pairs that the changes leave. -/
theorem hovers_after (fresh : target.hovering = ∅) (changes : List Change) :
    (target.after changes).Hovers (Change.pairsAfter changes) := by
  have run : ∀ {target : Target} {pairs : HoverPairs}, target.Hovers pairs →
      (target.after changes).Hovers (changes.foldl Change.pairs pairs) := by
    induction changes with
    | nil => exact fun hovers => hovers
    | cons change rest ih => exact fun hovers => ih (hovers.next change)
  apply run
  intro device pointer
  simp [fresh]

namespace Hovers

variable (hovers : target.Hovers pairs)
include hovers

theorem mem_devices {device : Number} :
    device ∈ target.hovering.devices ↔ ∃ pointer, (device, pointer) ∈ pairs := by
  rw [HoverTable.mem_devices, Ne, PointerSet.eq_empty_iff, not_forall]
  simp only [Decidable.not_not, hovers device]

theorem hasDevice (device : Number) :
    target.hovering.hasDevice device = true ↔ ∃ pointer, (device, pointer) ∈ pairs := by
  rw [HoverTable.hasDevice, decide_eq_true_iff, hovers.mem_devices]

/-- Ending the hovering of a pointer is refused only where the number names none and the device has
pairs. -/
theorem isOk_unhover (device pointer : Number) :
    (target.revise (.unhover device pointer)).isOk = true ↔
      (PointerId.ofNumber? pointer).isSome = true ∨ ∀ id, (device, id) ∉ pairs := by
  cases named : PointerId.ofNumber? pointer with
  | some id => simp [revise_unhover_of_named named, Except.isOk, Except.toBool]
  | none =>
      have listed := hovers.hasDevice device
      rw [revise_unhover_of_unnamed named, ← not_exists, ← listed]
      cases target.hovering.hasDevice device <;> simp [Except.isOk, Except.toBool]

theorem isHoveredBy (device : Number) (pointer : PointerId) :
    target.isHoveredBy device pointer.number = .ok (decide ((device, pointer) ∈ pairs)) := by
  rw [isHoveredBy_of_valid target device (checkPointer_number pointer)]
  simp only [hovers device pointer]

/-- Asked device by device, some device says yes if there is a pair for it. -/
theorem isHoveredByAny (pointer : PointerId) :
    target.isHoveredByAny pointer.number =
      .ok (decide (∃ pair ∈ pairs, pair.2 = pointer)) := by
  have asked : (fun device => target.isHoveredBy device pointer.number) =
      fun device => pure (decide ((device, pointer) ∈ pairs)) := by
    funext device
    exact hovers.isHoveredBy device pointer
  rw [Target.isHoveredByAny, asked, List.anyM_pure]
  congr 1
  rw [Bool.eq_iff_iff, List.any_eq_true, decide_eq_true_iff]
  constructor
  · rintro ⟨device, _, yes⟩
    exact ⟨(device, pointer), of_decide_eq_true yes, rfl⟩
  · rintro ⟨⟨device, _⟩, member, rfl⟩
    exact ⟨device, hovers.mem_devices.mpr ⟨_, member⟩, decide_eq_true member⟩

theorem isEmpty : target.hovering.isEmpty = true ↔ pairs = ∅ := by
  rw [HoverTable.isEmpty_iff, Finset.eq_empty_iff_forall_notMem]
  simp only [PointerSet.eq_empty_iff, hovers _ _, Prod.forall]

theorem isHovered : target.isHovered = true ↔ pairs.Nonempty := by
  rw [Target.isHovered, Bool.not_eq_true', Bool.eq_false_iff, Ne, hovers.isEmpty,
    Finset.nonempty_iff_ne_empty]

theorem isDead : target.isDead = true ↔ pairs = ∅ ∧ target.touching = ∅ := by
  simp only [Target.isDead, Target.isTouched, Target.isHovered, Bool.not_not, Bool.and_eq_true,
    PointerSet.isEmpty_iff_eq, hovers.isEmpty, and_comm]

end Hovers

end Target

/-- Of two numbers other than NaN one is below the other, unless they are the same. -/
theorem Number.below_of_not_below {first second : Number} (firstProper : first ≠ .nan)
    (secondProper : second ≠ .nan) (different : first ≠ second)
    (notBelow : second.below first = false) : first.below second = true := by
  rcases first with _ | (_ | _) | _ <;> rcases second with _ | (_ | _) | _ <;>
    grind [Number.below]

namespace HoverTable

variable {table first second : HoverTable}

/-- Devices that are numbers proper are listed once each, from low to high. -/
theorem ascending_sortedDevices (proper : ∀ device ∈ table.devices, device ≠ .nan) :
    table.sortedDevices.Pairwise fun earlier later => earlier.below later = true := by
  have once : table.sortedDevices.Nodup :=
    table.sortedDevices_perm.nodup_iff.mpr table.devices_nodup
  apply ((inOrder_sortedDevices proper).and once).imp_of_mem
  rintro earlier later earlierListed laterListed ⟨notBelow, different⟩
  have isDevice : ∀ device ∈ table.sortedDevices, device ≠ .nan := fun device listed =>
    proper device (table.sortedDevices_perm.mem_iff.mp listed)
  exact Number.below_of_not_below (isDevice earlier earlierListed) (isDevice later laterListed)
    different notBelow

/-- The order in which devices came does not show where their ids can be told apart. -/
theorem sortedDevices_congr (proper : ∀ device ∈ first.devices, device ≠ .nan)
    (same : ∀ device, first.pointers device = second.pointers device) :
    first.sortedDevices = second.sortedDevices := by
  have listed : ∀ device, device ∈ first.devices ↔ device ∈ second.devices := by
    intro device
    rw [mem_devices, mem_devices, same]
  have perm : first.devices.Perm second.devices :=
    (List.perm_ext_iff_of_nodup first.devices_nodup second.devices_nodup).mpr listed
  have properToo : ∀ device ∈ second.devices, device ≠ .nan := fun device inSecond =>
    proper device ((listed device).mpr inSecond)
  apply List.Perm.eq_of_pairwise _ (ascending_sortedDevices proper)
    (ascending_sortedDevices properToo)
    (first.sortedDevices_perm.trans (perm.trans second.sortedDevices_perm.symm))
  intro one other oneListed otherListed below above
  have oneProper := proper one (first.sortedDevices_perm.mem_iff.mp oneListed)
  have otherProper := properToo other (second.sortedDevices_perm.mem_iff.mp otherListed)
  rw [strictWeak_below.asymm oneProper otherProper below] at above
  cases above

/-- Tables with the same pointers read the same, whatever has happened to them. -/
theorem text_congr (proper : ∀ device ∈ first.devices, device ≠ .nan)
    (same : ∀ device, first.pointers device = second.pointers device) :
    first.text = second.text := by
  rw [text, text, sortedDevices_congr proper same, funext same]

end HoverTable

namespace Target

/-- A hover table is shown by its text alone. -/
theorem text_replace_hovering (target : Target) {table : HoverTable}
    (same : table.text = target.hovering.text) :
    { target with hovering := table }.text = target.text := by
  unfold text
  rw [same]

/-- What hovers over a window is a set of pairs. Where nothing hovered before, whatever changes are
made, refused ones among them, the pairs that the accepted ones leave say what every question about
hovering is answered with. Asked about a pointer that can be, no question is refused; a pointer that
cannot be is refused where it would make a pair or might end one. Unless NaN is among the devices,
the text lists each device once, from low to high, and targets with the same pairs that agree in all
else have the same text, whatever changes have led to them. -/
theorem hovering_is_set_of_pairs (start : Target) (fresh : start.hovering = ∅)
    (changes : List Change) :
    let target := start.after changes
    let pairs := Change.pairsAfter changes
    (∀ device pointer, (target.revise (.hover device pointer)).isOk =
      (PointerId.ofNumber? pointer).isSome) ∧
    (∀ device pointer, (target.revise (.unhover device pointer)).isOk = true ↔
      (PointerId.ofNumber? pointer).isSome = true ∨ ∀ id, (device, id) ∉ pairs) ∧
    (∀ device pointer, pointer ∈ target.hovering.pointers device ↔ (device, pointer) ∈ pairs) ∧
    (∀ device (pointer : PointerId), target.isHoveredBy device pointer.number =
      .ok (decide ((device, pointer) ∈ pairs))) ∧
    (∀ pointer : PointerId, target.isHoveredByAny pointer.number =
      .ok (decide (∃ pair ∈ pairs, pair.2 = pointer))) ∧
    (∀ device, target.hovering.hasDevice device = true ↔ ∃ pointer, (device, pointer) ∈ pairs) ∧
    (target.isHovered = true ↔ pairs.Nonempty) ∧
    (target.isDead = true ↔ pairs = ∅ ∧ target.touching = ∅) ∧
    ((∀ pair ∈ pairs, pair.1 ≠ .nan) →
      (∃ devices : List Number,
        (devices.Pairwise fun earlier later => earlier.below later = true) ∧
        (∀ device, device ∈ devices ↔ ∃ pointer, (device, pointer) ∈ pairs) ∧
        target.hovering.text = "\x7b" ++
          joined ", " (devices.map fun device =>
            device.text ++ ": " ++ (target.hovering.pointers device).text) ++ "\x7d") ∧
      ∀ (other : Target) (others : List Change), other.hovering = ∅ →
        Change.pairsAfter others = pairs →
          { other.after others with hovering := target.hovering } = target →
            (other.after others).text = target.text) := by
  intro target pairs
  have hovers : target.Hovers pairs := hovers_after fresh changes
  refine ⟨isOk_hover target, hovers.isOk_unhover, hovers, hovers.isHoveredBy,
    hovers.isHoveredByAny, hovers.hasDevice, hovers.isHovered, hovers.isDead, ?_⟩
  intro notNan
  have proper : ∀ device ∈ target.hovering.devices, device ≠ .nan := by
    intro device listed
    obtain ⟨pointer, member⟩ := hovers.mem_devices.mp listed
    exact notNan _ member
  constructor
  · refine ⟨target.hovering.sortedDevices, HoverTable.ascending_sortedDevices proper, ?_, rfl⟩
    intro device
    rw [target.hovering.sortedDevices_perm.mem_iff, hovers.mem_devices]
  · intro other others freshToo samePairs agree
    have hoversToo := hovers_after freshToo others
    rw [samePairs] at hoversToo
    have same : ∀ device, target.hovering.pointers device =
        (other.after others).hovering.pointers device := by
      intro device
      apply PointerSet.ext_mem
      intro pointer
      rw [hovers, hoversToo]
    have replaced := text_replace_hovering (other.after others) (HoverTable.text_congr proper same)
    exact replaced.symm.trans (congrArg text agree)

/-- Device 7 comes before device 3, NaN comes and goes, and two numbers name no pointer: one is
refused and one is not looked at. -/
def wanderingHovers : List Change :=
  [.hover 7 1, .hover .nan 2, .hover 3 31, .hover 7 32, .unhover 5 32, .hover 7 2,
    .unhoverDevice .nan, .unhover 7 2]

/-- The same pairs come the other way round, and the text does not show it. -/
theorem wandering_hovers_leave_two_pairs :
    let target := ({ window := .app } : Target).after wanderingHovers
    let other := ({ window := .app } : Target).after [.hover 3 31, .hover 7 1]
    target.hovering.devices = [7, 3] ∧ other.hovering.devices = [3, 7] ∧
      target.isHoveredByAny 31 = .ok true ∧ (target.revise (.unhover 7 32)).isOk = false ∧
      other.text = target.text := by
  intro target other
  obtain ⟨_, unhovers, _, _, anyDevice, _, _, _, written⟩ :=
    hovering_is_set_of_pairs { window := .app } rfl wanderingHovers
  obtain ⟨_, sameText⟩ := written (by decide)
  refine ⟨by decide, by decide, (anyDevice 31).trans (congrArg Except.ok (by decide)), ?_, ?_⟩
  · rw [Bool.eq_false_iff, Ne, unhovers]
    decide
  · exact sameText { window := .app } [.hover 3 31, .hover 7 1] rfl (by decide) (by decide)

end Target

end PointerRouting
