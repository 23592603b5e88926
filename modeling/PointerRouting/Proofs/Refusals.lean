/-
Module: PointerRouting.Proofs.Refusals
Purpose: What is refused, and nothing else. A number is looked at only where it is used, and that
  is target by target, so whether one that names nothing is noticed depends on the routing: on
  whether a window takes part, carries the token, or has the device hovering over it. The rules
  say so without going through the targets in turn.
Main exports: Number.NamesPointer, Number.NamesDevice, Target.IsHoveredFrom,
  Target.Change.Breaks, Operation.Breaks, Query.Breaks, Router.refused_just_by_rule
-/
import PointerRouting.Proofs.Atomicity
import PointerRouting.Proofs.PointerAlgebra

namespace PointerRouting

namespace Number

/-- Whether a number is an integer within bounds. -/
def IsIntegerIn (least greatest : Int) (number : Number) : Prop :=
  ∃ value : Int, number = .ofInt value ∧ least ≤ value ∧ value ≤ greatest

/-- Whether a number is that of a pointer. -/
def NamesPointer : Number → Prop := IsIntegerIn 0 31

/-- Whether a number is that of a device: an integer that is safe. -/
def NamesDevice : Number → Prop := IsIntegerIn (-(2 ^ 53 - 1)) (2 ^ 53 - 1)

variable {number : Number}

theorem namesPointer_iff :
    number.NamesPointer ↔ (PointerId.ofNumber? number).isSome = true :=
  PointerId.isSome_ofNumber?_iff.symm

theorem namesDevice_iff : number.NamesDevice ↔ number.safeInt?.isSome = true := by
  simp only [safeInt?, Option.isSome_iff_exists, Option.filter_eq_some_iff, toInt?_eq_some_iff,
    decide_eq_true_iff]
  rfl

end Number

/-- Looking at a pointer fails for the one reason that it is none. -/
theorem checkPointer_eq_error_iff {pointer : Number} {violation : Violation} :
    checkPointer pointer = .error violation ↔
      ¬pointer.NamesPointer ∧ violation = .pointerOutOfRange pointer := by
  rw [Number.namesPointer_iff]
  cases named : PointerId.ofNumber? pointer with
  | some id => simp [checkPointer_of_named named]
  | none => simp [checkPointer_of_unnamed named, eq_comm]

/-- Looking at a device fails for the one reason that it is none. -/
theorem checkDevice_eq_error_iff {device : Number} {violation : Violation} :
    checkDevice device = .error violation ↔
      ¬device.NamesDevice ∧ violation = .deviceNotSafe device := by
  rw [Number.namesDevice_iff, checkDevice]
  cases named : device.safeInt? <;> simp [eq_comm]

theorem namesDevice_of_ok {device : Number} {id : Int} (valid : checkDevice device = .ok id) :
    device.NamesDevice := by
  by_contra unnamed
  rw [checkDevice_eq_error_iff.mpr ⟨unnamed, rfl⟩] at valid
  cases valid

/-- What follows an attempt fails nothing if it cannot fail once the attempt has succeeded. -/
theorem bind_eq_error_iff {ε α β : Type} {attempt : Except ε α} {next : α → Except ε β} {error : ε}
    (safe : ∀ value, attempt = .ok value → next value ≠ .error error) :
    (attempt >>= next) = .error error ↔ attempt = .error error := by
  cases attempt with
  | error early => simp [bind, Except.bind]
  | ok value => exact iff_of_false (safe value rfl) nofun

theorem bind_pure_eq_error_iff {ε α β : Type} {attempt : Except ε α} {result : α → β} {error : ε} :
    (attempt >>= fun value => pure (result value)) = .error error ↔ attempt = .error error :=
  bind_eq_error_iff fun _ _ => nofun

section Passes

variable {ε α β γ : Type} {attempt : Except ε γ} {looks : α → Prop} {items : List α} {error : ε}

/-- An item that does not fail leaves it to the others. -/
theorem exists_mem_cons_of_passed {item : α} (passed : ¬(looks item ∧ attempt = .error error)) :
    (∃ other ∈ item :: items, looks other) ∧ attempt = .error error ↔
      (∃ other ∈ items, looks other) ∧ attempt = .error error := by
  rw [List.exists_mem_cons_iff, or_and_right, or_iff_right passed]

/-- A pass whose steps fail by one attempt, where they make it, fails just in case that attempt
does and some step makes it. -/
theorem foldlM_eq_error_iff {step : β → α → Except ε β}
    (fails : ∀ state item error,
      step state item = .error error ↔ looks item ∧ attempt = .error error) {start : β} :
    items.foldlM step start = .error error ↔
      (∃ item ∈ items, looks item) ∧ attempt = .error error := by
  induction items generalizing start with
  | nil => simp [pure, Except.pure]
  | cons item rest ih =>
      rw [List.foldlM_cons]
      cases here : step start item with
      | error early =>
          obtain ⟨looked, failed⟩ := (fails start item early).mp here
          simp [bind, Except.bind, failed, looked]
      | ok state =>
          have passed : ¬(looks item ∧ attempt = .error error) := by
            rw [← fails start item error, here]
            nofun
          rw [exists_mem_cons_of_passed passed]
          exact ih

/-- A search fails likewise, provided that no test says yes without making the attempt. -/
theorem anyM_eq_error_iff {test : α → Except ε Bool}
    (fails : ∀ item error, test item = .error error ↔ looks item ∧ attempt = .error error)
    (found : ∀ item, test item = .ok true → looks item) :
    items.anyM test = .error error ↔
      (∃ item ∈ items, looks item) ∧ attempt = .error error := by
  induction items with
  | nil => simp [pure, Except.pure]
  | cons item rest ih =>
      rw [List.anyM_cons]
      cases here : test item with
      | error early =>
          obtain ⟨looked, failed⟩ := (fails item early).mp here
          simp [bind, Except.bind, failed, looked]
      | ok answer =>
          have passed : ¬(looks item ∧ attempt = .error error) := by
            rw [← fails item error, here]
            nofun
          rw [exists_mem_cons_of_passed passed]
          cases answer with
          | true => exact iff_of_false nofun fun both => passed ⟨found item here, both.2⟩
          | false => exact ih

end Passes

namespace Target

variable {target : Target} {device pointer : Number} {violation : Violation}

/-- Whether some pointer of a device hovers over the window. -/
def IsHoveredFrom (target : Target) (device : Number) : Prop :=
  ∃ pointer, pointer ∈ target.hovering.pointers device

/-- A device that is listed has a pointer hovering: no row of a hover table is empty. -/
theorem hasDevice_iff : target.hovering.hasDevice device = true ↔ target.IsHoveredFrom device := by
  rw [HoverTable.hasDevice, decide_eq_true_iff, HoverTable.mem_devices, Ne,
    PointerSet.eq_empty_iff, not_forall]
  simp only [Decidable.not_not, IsHoveredFrom]

theorem lift_eq_error_iff :
    target.lift pointer = .error violation ↔ checkPointer pointer = .error violation := by
  rw [lift_eq]
  exact bind_pure_eq_error_iff

theorem touches_eq_error_iff :
    target.touches pointer = .error violation ↔ checkPointer pointer = .error violation :=
  bind_pure_eq_error_iff

theorem unhover_eq_error_iff :
    target.unhover device pointer = .error violation ↔
      target.IsHoveredFrom device ∧ checkPointer pointer = .error violation := by
  rw [← hasDevice_iff, unhover_eq]
  split
  case isTrue listed => simpa [listed] using bind_pure_eq_error_iff
  case isFalse unlisted => simp [unlisted, pure, Except.pure]

theorem isHoveredBy_eq_error_iff :
    target.isHoveredBy device pointer = .error violation ↔
      target.IsHoveredFrom device ∧ checkPointer pointer = .error violation := by
  rw [← hasDevice_iff, isHoveredBy]
  split
  case isTrue listed => simpa [listed] using bind_pure_eq_error_iff
  case isFalse unlisted => simp [unlisted, pure, Except.pure]

/-- Asked device by device, a target looks at the pointer just in case some device has one. -/
theorem isHoveredByAny_eq_error_iff :
    target.isHoveredByAny pointer = .error violation ↔
      (∃ device ∈ target.hovering.devices, target.IsHoveredFrom device) ∧
        checkPointer pointer = .error violation := by
  apply anyM_eq_error_iff
  · intro device error
    exact isHoveredBy_eq_error_iff
  · intro device hovered
    by_contra unlisted
    rw [← hasDevice_iff] at unlisted
    simp [isHoveredBy, unlisted, pure, Except.pure] at hovered

/-- The rules that a change of a target can break, and how each is reported. -/
def Change.Breaks (target : Target) (violation : Violation) : Change → Prop
  | .lift pointer | .hover _ pointer =>
      ¬pointer.NamesPointer ∧ violation = .pointerOutOfRange pointer
  | .unhover device pointer =>
      target.IsHoveredFrom device ∧
        ¬pointer.NamesPointer ∧ violation = .pointerOutOfRange pointer
  | .startAt _ | .touch _ | .claim _ | .unhoverDevice _ | .endHovers | .redirect _ => False

/-- A change is refused just in case it breaks a rule. -/
theorem revise_eq_error_iff {change : Change} :
    target.revise change = .error violation ↔ change.Breaks target violation := by
  cases change with
  | lift pointer => exact lift_eq_error_iff.trans checkPointer_eq_error_iff
  | hover device pointer =>
      rw [revise_hover_eq]
      exact bind_pure_eq_error_iff.trans checkPointer_eq_error_iff
  | unhover device pointer =>
      exact unhover_eq_error_iff.trans (and_congr_right' checkPointer_eq_error_iff)
  | startAt | touch | claim | unhoverDevice | endHovers | redirect => exact iff_of_false nofun id

end Target

/-- The rules that an operation can break, and how each is reported. -/
def Operation.Breaks (routing : Routing) (violation : Violation) : Operation → Prop
  | bind device _ => ¬device.NamesDevice ∧ violation = .deviceNotSafe device
  | hover _ device pointer =>
      ¬device.NamesDevice ∧ violation = .deviceNotSafe device ∨
        device.NamesDevice ∧ ¬pointer.NamesPointer ∧ violation = .pointerOutOfRange pointer
  | unhover _ pointer => ¬pointer.NamesPointer ∧ violation = .pointerOutOfRange pointer
  | lift pointer =>
      routing.targets ≠ [] ∧ ¬pointer.NamesPointer ∧ violation = .pointerOutOfRange pointer
  | liftFrom pointer window =>
      (∃ target ∈ routing.targets, target.window = window) ∧
        ¬pointer.NamesPointer ∧ violation = .pointerOutOfRange pointer
  | revise window change =>
      (∀ target ∈ routing.targets, target.window ≠ window) ∧
          violation = .windowNotTouched window.name ∨
        ∃ target, routing.find? window = some target ∧ change.Breaks target violation
  | reset | endHovers | prune | touch .. | removeToken _ | commit | cancelExcept .. |
    resolveClaims | pilfer _ | unhoverDevice _ => False

/-- The rules that a query can break, and how each is reported. -/
def Query.Breaks (routing : Routing) (violation : Violation) : Query → Prop
  | target window =>
      (∀ target ∈ routing.targets, target.window ≠ window) ∧
        violation = .windowNotTouched window.name
  | hoveredBy device pointer =>
      (∃ target ∈ routing.targets, target.IsHoveredFrom device) ∧
        ¬pointer.NamesPointer ∧ violation = .pointerOutOfRange pointer
  | holds token pointer =>
      (∃ target ∈ routing.targets, target.window.token = token) ∧
        ¬pointer.NamesPointer ∧ violation = .pointerOutOfRange pointer
  | binding | firstForeground | isSlippery | wallpaper | isDown | isHovered | touching | isEmpty |
    text => False

namespace Routing

variable {routing : Routing} {window : Window} {device pointer : Number} {violation : Violation}

theorem violation_bind_iff {source : Number} :
    (routing.bind device source).violation = some violation ↔
      checkDevice device = .error violation := by
  cases named : checkDevice device <;> simp [bind, named, refuse]

/-- Both numbers of a hover are looked at before anything else, the device first. -/
theorem violation_hover_iff :
    (routing.hover window device pointer).violation = some violation ↔
      checkDevice device = .error violation ∨
        device.NamesDevice ∧ checkPointer pointer = .error violation := by
  cases valid : checkDevice device with
  | error early =>
      have unnamed : ¬device.NamesDevice := (checkDevice_eq_error_iff.mp valid).1
      simp [hover, valid, refuse, unnamed]
  | ok value =>
      have named : device.NamesDevice := namesDevice_of_ok valid
      cases looked : checkPointer pointer with
      | error early => simp [hover, valid, looked, refuse, named]
      | ok id => cases found : routing.find? window <;> simp [hover, valid, looked, found]

theorem violation_unhover_iff :
    (routing.unhover device pointer).violation = some violation ↔
      checkPointer pointer = .error violation := by
  cases named : checkPointer pointer with
  | error early => simp [unhover, named, refuse]
  | ok id =>
      rw [unhover_of_valid named, Outcome.andThen_of_done rfl, prune_eq]
      simp

/-- Only where there is a target does lifting look at the pointer. -/
theorem violation_lift_iff :
    (routing.lift pointer).violation = some violation ↔
      routing.targets ≠ [] ∧ checkPointer pointer = .error violation := by
  cases named : checkPointer pointer with
  | error early =>
      cases targets : routing.targets with
      | nil => simp [lift, targets, sweep]
      | cons target rest =>
          have refused : target.lift pointer = .error early := Target.lift_eq_error_iff.mpr named
          rw [lift, targets, sweep_cons_of_error (Target.Edit.atomic_lift pointer) refused]
          simp
  | ok id => simp [lift_of_valid named]

theorem violation_liftFrom_iff :
    (routing.liftFrom pointer window).violation = some violation ↔
      (∃ target ∈ routing.targets, target.window = window) ∧
        checkPointer pointer = .error violation := by
  have taken : (∃ target ∈ routing.targets, target.window = window) ↔
      routing.find? window ≠ none := by
    simp [find?_eq_none_iff]
  rw [taken]
  cases found : routing.find? window with
  | none => simp [liftFrom_eq, found]
  | some target =>
      cases lifts : target.lift pointer with
      | error early =>
          have failed := Target.lift_eq_error_iff.mp lifts
          simp [liftFrom_eq, found, lifts, failed, refuse]
      | ok lifted =>
          have passed : checkPointer pointer ≠ .error violation := by
            intro failed
            rw [Target.lift_eq_error_iff.mpr failed] at lifts
            cases lifts
          simp [liftFrom_eq, found, lifts, passed]

/-- A revision looks for its window and then makes its change. -/
theorem violation_revise_iff {change : Target.Change} :
    (routing.revise window change).violation = some violation ↔
      (∀ target ∈ routing.targets, target.window ≠ window) ∧
          violation = .windowNotTouched window.name ∨
        ∃ target, routing.find? window = some target ∧ change.Breaks target violation := by
  rw [← find?_eq_none_iff]
  cases found : routing.find? window with
  | none => simp [revise_eq, found, refuse, eq_comm]
  | some target =>
      cases revises : target.revise change with
      | error early => simp [revise_eq, found, revises, refuse, ← Target.revise_eq_error_iff]
      | ok revised => simp [revise_eq, found, revises, ← Target.revise_eq_error_iff]

/-- The target of a window is refused where there is none. -/
theorem target_eq_error_iff :
    routing.target window = .error violation ↔
      (∀ target ∈ routing.targets, target.window ≠ window) ∧
        violation = .windowNotTouched window.name := by
  rw [← find?_eq_none_iff]
  cases found : routing.find? window <;> simp [target, found, eq_comm]

theorem hoveredBy_eq_error_iff :
    routing.hoveredBy device pointer = .error violation ↔
      (∃ target ∈ routing.targets, target.IsHoveredFrom device) ∧
        checkPointer pointer = .error violation := by
  apply foldlM_eq_error_iff
  intro windows target error
  exact bind_pure_eq_error_iff.trans Target.isHoveredBy_eq_error_iff

/-- A target that carries the token looks at the pointer at once. What it asks of its hover table
then cannot fail any more. -/
theorem holds_eq_error_iff {token : Token} :
    routing.holds token pointer = .error violation ↔
      (∃ target ∈ routing.targets, target.window.token = token) ∧
        checkPointer pointer = .error violation := by
  apply anyM_eq_error_iff
  · intro target error
    split
    case isTrue carries =>
        rw [bind_eq_error_iff, Target.touches_eq_error_iff]
        · simp [carries]
        · intro touched answers
          have passed : checkPointer pointer ≠ .error error := by
            intro failed
            rw [Target.touches_eq_error_iff.mpr failed] at answers
            cases answers
          have asked : target.isHoveredByAny pointer ≠ .error error := by
            simp [Target.isHoveredByAny_eq_error_iff, passed]
          cases touched with
          | true => nofun
          | false => exact asked
    case isFalse foreign => simp [foreign, pure, Except.pure]
  · intro target found
    by_contra foreign
    simp [foreign, pure, Except.pure] at found

end Routing

/-- An operation is refused just in case it breaks a rule. -/
theorem Operation.violation_apply_iff {operation : Operation} {routing : Routing}
    {violation : Violation} :
    (operation.apply routing).violation = some violation ↔
      operation.Breaks routing violation := by
  cases operation with
  | bind device source => exact Routing.violation_bind_iff.trans checkDevice_eq_error_iff
  | hover window device pointer =>
      exact Routing.violation_hover_iff.trans
        (or_congr checkDevice_eq_error_iff (and_congr_right' checkPointer_eq_error_iff))
  | unhover device pointer => exact Routing.violation_unhover_iff.trans checkPointer_eq_error_iff
  | lift pointer =>
      exact Routing.violation_lift_iff.trans (and_congr_right' checkPointer_eq_error_iff)
  | liftFrom pointer window =>
      exact Routing.violation_liftFrom_iff.trans (and_congr_right' checkPointer_eq_error_iff)
  | revise window change => exact Routing.violation_revise_iff
  | touch | removeToken | cancelExcept | pilfer | resolveClaims =>
      simp only [apply, Breaks, Routing.violation_touch, Routing.violation_removeToken,
        Routing.violation_cancelExcept, Routing.violation_pilfer, Routing.violation_resolveClaims,
        reduceCtorEq]
  | reset | endHovers | prune | commit | unhoverDevice =>
      simp [apply, Breaks, Routing.reset, Routing.endHovers, Routing.prune_eq, Routing.commit_eq,
        Routing.unhoverDevice]

/-- A query is refused just in case it breaks a rule. -/
theorem Query.ask_eq_error_iff {query : Query} {routing : Routing} {violation : Violation} :
    query.ask routing = .error violation ↔ query.Breaks routing violation := by
  cases query with
  | target window => exact bind_pure_eq_error_iff.trans Routing.target_eq_error_iff
  | hoveredBy device pointer =>
      exact bind_pure_eq_error_iff.trans (Routing.hoveredBy_eq_error_iff.trans
        (and_congr_right' checkPointer_eq_error_iff))
  | holds token pointer =>
      exact bind_pure_eq_error_iff.trans (Routing.holds_eq_error_iff.trans
        (and_congr_right' checkPointer_eq_error_iff))
  | binding | firstForeground | isSlippery | wallpaper | isDown | isHovered | touching | isEmpty
  | text => exact iff_of_false nofun id

/-- What a router refuses, in every state and whatever numbers it is given, is what breaks a rule,
and it reports the rule that was broken; no other operation or query is ever refused. The codes of
the three kinds of violation are published under these names. -/
theorem Router.refused_just_by_rule (router : Router) :
    (∀ (operation : Operation) violation, (router.step operation).violation = some violation ↔
      operation.Breaks router.routing violation) ∧
    (∀ (query : Query) violation, query.ask router.routing = .error violation ↔
      query.Breaks router.routing violation) ∧
    (∀ device, (Violation.deviceNotSafe device).code.text = "TR_INVALID_DEVICE_ID") ∧
    (∀ pointer, (Violation.pointerOutOfRange pointer).code.text = "TR_INVALID_POINTER_ID") ∧
    ∀ name, (Violation.windowNotTouched name).code.text = "TR_WINDOW_NOT_TOUCHED" :=
  ⟨fun _ _ => Operation.violation_apply_iff, fun _ _ => Query.ask_eq_error_iff, fun _ => rfl,
    fun _ => rfl, fun _ => rfl⟩

/-- Whether a pointer that cannot be is noticed is up to the routing. -/
example :
    let touched := ({} : Routing).next (.touch .app .none (.singleton 1) none)
    (({} : Routing).lift 32).violation = none ∧
      (touched.lift 32).violation = some (.pointerOutOfRange 32) ∧
      touched.hoveredBy 7 32 = .ok [] ∧
      (touched.next (.hover .spy 7 0)).hoveredBy 7 32 = .error (.pointerOutOfRange 32) := by
  decide

end PointerRouting
