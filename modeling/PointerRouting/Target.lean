/-
Module: PointerRouting.Target
Purpose: One window's share of a gesture: the pointers it receives, the pointers it has claimed
  for itself, the pointers that hover over it, how events are dispatched to it, and when the
  first pointer landed. A target with neither touching nor hovering pointers is dead. A target is
  edited in place, so an edit that stops at a violation leaves what it has written by then; each
  edit here looks at its pointer before it writes.
Main exports: Target, Target.isDead, Target.Edit, Target.Change, Target.Change.edit,
  Target.revise, Target.Edit.Atomic, Target.Change.atomic, Target.text
-/
import PointerRouting.Dispatch
import PointerRouting.HoverTable
import PointerRouting.Window

namespace PointerRouting

/-- A window's share of a gesture. -/
structure Target where
  window : Window
  /-- How events are dispatched to the window. -/
  flags : Mask := .none
  /-- The pointers the window receives. -/
  touching : PointerSet := ∅
  /-- The pointers the window has claimed for itself. -/
  pilfered : PointerSet := ∅
  /-- When the first pointer landed in the window. -/
  downTime : Option Number := none
  /-- The pointers that hover over the window. -/
  hovering : HoverTable := ∅
deriving DecidableEq

namespace Target

instance : Inhabited Target := ⟨{ window := default }⟩

/-- Whether the window receives any pointer. -/
def isTouched (target : Target) : Bool := !target.touching.isEmpty

/-- Whether any pointer hovers over the window. -/
def isHovered (target : Target) : Bool := !target.hovering.isEmpty

/-- Whether nothing touches the window and nothing hovers over it. -/
def isDead (target : Target) : Bool := !target.isTouched && !target.isHovered

/-- Set the time of the first landing, once: a target that has a time keeps it. -/
def startAt (target : Target) (time : Option Number) : Target :=
  { target with downTime := target.downTime.or time }

/-- Add touching pointers. -/
def touch (target : Target) (pointers : PointerSet) : Target :=
  { target with touching := target.touching ∪ pointers }

/-- Claim pointers for the window. -/
def claim (target : Target) (pointers : PointerSet) : Target :=
  { target with pilfered := target.pilfered ∪ pointers }

/-- Let a pointer of a device hover over the window. -/
def hover (target : Target) (device : Number) (pointer : PointerId) : Target :=
  { target with hovering := target.hovering.insert device pointer }

/-- End the hovering of a device's pointers. -/
def unhoverDevice (target : Target) (device : Number) : Target :=
  { target with hovering := target.hovering.drop device }

/-- End all hovering. -/
def endHovers (target : Target) : Target := { target with hovering := ∅ }

/-- Whether a pointer touches the window. -/
def touches (target : Target) (pointer : Number) : Except Violation Bool := do
  let pointer ← checkPointer pointer
  return pointer ∈ target.touching

/-- Whether a pointer of a device hovers over the window. On a device without hovering pointers
the answer is no, and the pointer is not looked at. -/
def isHoveredBy (target : Target) (device pointer : Number) : Except Violation Bool :=
  if target.hovering.hasDevice device then do
    let pointer ← checkPointer pointer
    return pointer ∈ target.hovering.pointers device
  else return false

/-- Whether a pointer of any device hovers over the window, asked device by device. -/
def isHoveredByAny (target : Target) (pointer : Number) : Except Violation Bool :=
  target.hovering.devices.anyM (target.isHoveredBy · pointer)

/-- The changes that can be made to a single target. -/
inductive Change where
  | startAt (time : Option Number)
  | touch (pointers : PointerSet)
  | lift (pointer : Number)
  | claim (pointers : PointerSet)
  | hover (device pointer : Number)
  | unhover (device pointer : Number)
  | unhoverDevice (device : Number)
  | endHovers
  | redirect (flags : Mask)

/-- Something that is done to a target. A violation stops it, and the target stays as it has come
to be by then. -/
abbrev Edit := EStateM Violation Target Unit

namespace Edit

/-- Look at a pointer, and then write what its id makes of the target. -/
def withPointer (pointer : Number) (write : PointerId → Target → Target) : Edit := do
  let id ← MonadExcept.ofExcept (checkPointer pointer)
  modify (write id)

/-- Lift a pointer from the window. -/
def lift (pointer : Number) : Edit :=
  withPointer pointer fun id target => { target with touching := target.touching.erase id }

/-- Let a pointer of a device hover over the window. -/
def hover (device pointer : Number) : Edit :=
  withPointer pointer fun id target => target.hover device id

/-- End the hovering of a pointer. On a device without hovering pointers there is nothing to end,
and the pointer is not looked at. -/
def unhover (device pointer : Number) : Edit := do
  let target ← get
  if target.hovering.hasDevice device then
    withPointer pointer fun id target =>
      { target with hovering := target.hovering.erase device id }

/-- What an edit makes of a target, or the violation that stops it. -/
def result (edit : Edit) (target : Target) : Except Violation Target :=
  match edit target with
  | .ok _ edited => .ok edited
  | .error violation _ => .error violation

/-- The target that an edit leaves, be it done or stopped. -/
def left (edit : Edit) (target : Target) : Target :=
  match edit target with
  | .ok _ edited => edited
  | .error _ edited => edited

end Edit

/-- The edit that makes a change. -/
def Change.edit : Change → Edit
  | .startAt time => modify (·.startAt time)
  | .touch pointers => modify (·.touch pointers)
  | .lift pointer => .lift pointer
  | .claim pointers => modify (·.claim pointers)
  | .hover device pointer => .hover device pointer
  | .unhover device pointer => .unhover device pointer
  | .unhoverDevice device => modify (·.unhoverDevice device)
  | .endHovers => modify Target.endHovers
  | .redirect flags => modify fun target => { target with flags }

/-- A target with a pointer lifted, if it names one. -/
def lift (target : Target) (pointer : Number) : Except Violation Target :=
  (Edit.lift pointer).result target

/-- A target with the hovering of a pointer ended. -/
def unhover (target : Target) (device pointer : Number) : Except Violation Target :=
  (Edit.unhover device pointer).result target

/-- A target with a change made to it. -/
def revise (target : Target) (change : Change) : Except Violation Target :=
  change.edit.result target

/-- The text of a target, one line. -/
def text (target : Target) : String :=
  "name='" ++ target.window.name ++ "', pointerIds=" ++ target.touching.text ++
    ", targetFlags=" ++ Dispatch.text target.flags ++
    ", firstDownTimeInTarget=" ++ (target.downTime.elim "none" Number.text) ++
    ", hoveringPointers=" ++ target.hovering.text ++
    ", pilferedPointerIds=" ++ target.pilfered.text ++ "\n"

namespace Edit

variable {edit : Edit} {target : Target} {violation : Violation}

theorem result_eq_error_iff :
    edit.result target = .error violation ↔ ∃ left, edit target = .error violation left := by
  unfold result
  cases edited : edit target <;> simp

theorem left_of_ok {edited : Target} (done : edit.result target = .ok edited) :
    edit.left target = edited := by
  unfold result at done
  unfold left
  cases outcome : edit target <;> simp_all

/-- An edit that a violation stops has written nothing. -/
def Atomic (edit : Edit) : Prop :=
  ∀ target left violation, edit target = .error violation left → left = target

theorem Atomic.left_eq (atomic : edit.Atomic) (stopped : edit.result target = .error violation) :
    edit.left target = target := by
  obtain ⟨edited, stops⟩ := result_eq_error_iff.mp stopped
  rw [left, stops]
  exact atomic _ _ _ stops

section

variable {pointer : Number} {write : PointerId → Target → Target}

theorem withPointer_of_ok {id : PointerId} (named : checkPointer pointer = .ok id)
    (target : Target) : withPointer pointer write target = .ok () (write id target) := by
  rw [withPointer, named]
  rfl

theorem withPointer_of_error (unnamed : checkPointer pointer = .error violation)
    (target : Target) : withPointer pointer write target = .error violation target := by
  rw [withPointer, unnamed]
  rfl

/-- Nothing is written before the pointer has been looked at. -/
theorem atomic_withPointer (pointer : Number) (write : PointerId → Target → Target) :
    (withPointer pointer write).Atomic := by
  intro target left violation stopped
  cases looked : checkPointer pointer with
  | ok id => cases (withPointer_of_ok looked target).symm.trans stopped
  | error early =>
      cases (withPointer_of_error looked target).symm.trans stopped
      rfl

theorem result_withPointer (pointer : Number) (write : PointerId → Target → Target)
    (target : Target) :
    (withPointer pointer write).result target = do
      return write (← checkPointer pointer) target := by
  rw [result]
  cases looked : checkPointer pointer with
  | ok id => rw [withPointer_of_ok looked]; rfl
  | error early => rw [withPointer_of_error looked]; rfl

end

theorem unhover_of_absent {device : Number} (absent : target.hovering.hasDevice device = false)
    (pointer : Number) : unhover device pointer target = .ok () target := by
  change (if target.hovering.hasDevice device then _ else pure () : Edit) target = _
  rw [absent]
  rfl

theorem unhover_of_listed {device : Number} (listed : target.hovering.hasDevice device = true)
    (pointer : Number) :
    unhover device pointer target = withPointer pointer (fun id target =>
      { target with hovering := target.hovering.erase device id }) target := by
  change (if target.hovering.hasDevice device then _ else pure () : Edit) target = _
  rw [listed]
  rfl

theorem atomic_lift (pointer : Number) : (lift pointer).Atomic := atomic_withPointer pointer _

theorem atomic_unhover (device pointer : Number) : (unhover device pointer).Atomic := by
  intro target left violation stopped
  cases listed : target.hovering.hasDevice device with
  | false => cases (unhover_of_absent listed pointer).symm.trans stopped
  | true =>
      rw [unhover_of_listed listed] at stopped
      exact atomic_withPointer pointer _ _ _ _ stopped

end Edit

/-- Every change looks at its pointer, if it has one, before it writes. -/
theorem Change.atomic (change : Change) : change.edit.Atomic := by
  cases change with
  | lift pointer => exact Edit.atomic_lift pointer
  | hover device pointer => exact Edit.atomic_withPointer pointer _
  | unhover device pointer => exact Edit.atomic_unhover device pointer
  | startAt | touch | claim | unhoverDevice | endHovers | redirect =>
      intro target left violation stopped
      cases stopped

theorem lift_eq (target : Target) (pointer : Number) :
    target.lift pointer = do
      let id ← checkPointer pointer
      return { target with touching := target.touching.erase id } :=
  Edit.result_withPointer pointer _ target

theorem revise_hover_eq (target : Target) (device pointer : Number) :
    target.revise (.hover device pointer) = do
      return target.hover device (← checkPointer pointer) :=
  Edit.result_withPointer pointer _ target

theorem unhover_eq (target : Target) (device pointer : Number) :
    target.unhover device pointer =
      if target.hovering.hasDevice device then do
        let id ← checkPointer pointer
        return { target with hovering := target.hovering.erase device id }
      else return target := by
  cases listed : target.hovering.hasDevice device with
  | false =>
      rw [unhover, Edit.result, Edit.unhover_of_absent listed]
      rfl
  | true =>
      rw [unhover, Edit.result, Edit.unhover_of_listed listed]
      exact Edit.result_withPointer pointer _ target

/-- A target is dead exactly when no pointer touches its window and none hovers over it. -/
theorem isDead_iff {target : Target} :
    target.isDead = true ↔
      target.touching = ∅ ∧ ∀ device, target.hovering.pointers device = ∅ := by
  simp only [isDead, isTouched, isHovered, Bool.not_not, Bool.and_eq_true,
    PointerSet.isEmpty_iff_eq, HoverTable.isEmpty_iff]

end Target

end PointerRouting
