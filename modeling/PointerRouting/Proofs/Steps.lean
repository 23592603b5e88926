/-
Module: PointerRouting.Proofs.Steps
Purpose: What one operation does to the targets of a routing, said once. The targets after an
  operation stem from the targets before it, in order, each altered as the operation alters a
  target; or the targets before it all stay and one joins them at the end. Whatever holds along
  a history is derived from that and not from the operations.
Main exports: Routing.next, Operation.Alters, Operation.Adds, Stems, Routing.targets_next
-/
import Mathlib.Data.List.Forall2
import PointerRouting.Operation
import PointerRouting.Proofs.Claims

namespace PointerRouting

namespace Routing

/-- The routing after an operation, whether or not a violation has stopped it. -/
def next (routing : Routing) (operation : Operation) : Routing := (operation.apply routing).routing

end Routing

namespace Operation

/-- How an operation on a routing leaves a target that it does not remove. -/
def Alters (routing : Routing) (old new : Target) : Operation → Prop
  | lift pointer => new = old ∨ old.lift pointer = .ok new
  | liftFrom pointer window => new = old ∨ old.window = window ∧ old.lift pointer = .ok new
  | endHovers => new = old.endHovers
  | touch window flags pointers time =>
    new = old ∨ old.window = window ∧ new = old.merge flags pointers time
  | hover window device pointer =>
    new = old ∨ old.window = window ∧
      ∃ id, checkPointer pointer = .ok id ∧ new = old.hover device id
  | commit => new = old.settle
  | cancelExcept pointers token =>
    new = if old.window.token = token then old else old.giveUp pointers
  | resolveClaims => new = old.yield routing.allPilfered
  | pilfer token =>
    new = if old.window.token = token then old.claim old.touching
      else old.giveUp (routing.pilfer token).claimed
  | unhover device pointer => new = old ∨ old.unhover device pointer = .ok new
  | unhoverDevice device => new = old.unhoverDevice device
  | revise window change => new = old ∨ old.window = window ∧ old.revise change = .ok new
  | bind .. | reset | prune | removeToken _ => new = old

/-- An operation on a routing that makes a new target. -/
def Adds (routing : Routing) (new : Target) : Operation → Prop
  | touch window flags pointers time =>
    routing.find? window = none ∧ new = { window, flags, touching := pointers, downTime := time }
  | hover window device pointer =>
    routing.find? window = none ∧
      ∃ id, checkPointer pointer = .ok id ∧ new = ({ window } : Target).hover device id
  | _ => False

end Operation

/-- The targets in `new` stem from targets in `old`, in order, each related to its origin. -/
def Stems (related : Target → Target → Prop) (old new : List Target) : Prop :=
  List.SublistForall₂ (fun later earlier => related earlier later) new old

namespace Stems

variable {related : Target → Target → Prop} {old : List Target}

theorem of_sublist {new : List Target} (same : ∀ target ∈ new, related target target)
    (sublist : new.Sublist old) : Stems related old new :=
  List.sublistForall₂_iff.mpr ⟨new, List.forall₂_same.mpr same, sublist⟩

theorem refl (same : ∀ target ∈ old, related target target) : Stems related old old :=
  of_sublist same (List.Sublist.refl old)

theorem map_filter {change : Target → Target} (kept : Target → Bool)
    (changed : ∀ target ∈ old, related target (change target)) :
    Stems related old ((old.filter kept).map change) := by
  apply List.sublistForall₂_iff.mpr
  refine ⟨old.filter kept, ?_, List.filter_sublist⟩
  rw [List.forall₂_map_left_iff, List.forall₂_same]
  intro target left
  exact changed target (List.mem_filter.mp left).1

theorem filter_map {change : Target → Target} (kept : Target → Bool)
    (changed : ∀ target ∈ old, related target (change target)) :
    Stems related old ((old.map change).filter kept) := by
  rw [List.filter_map]
  exact map_filter _ changed

theorem map {change : Target → Target}
    (changed : ∀ target ∈ old, related target (change target)) :
    Stems related old (old.map change) := by
  simpa using map_filter (fun _ => true) changed

theorem updateFirst {window : Window} {change : Target → Target}
    (same : ∀ target, related target target)
    (changed : ∀ target, old.find? (fun target => target.window = window) = some target →
      related target (change target)) :
    Stems related old (updateFirst window change old) := by
  induction old with
  | nil => exact .nil
  | cons target rest ih =>
      by_cases found : target.window = window
      · rw [PointerRouting.updateFirst, if_pos found]
        apply List.SublistForall₂.cons
        · exact changed target (by simp [found])
        · exact refl fun other _ => same other
      · rw [PointerRouting.updateFirst, if_neg found]
        apply List.SublistForall₂.cons
        · exact same target
        · apply ih
          intro other foundLater
          exact changed other (by simpa [found] using foundLater)

theorem sweep {edit : Target.Edit} (atomic : edit.Atomic)
    (same : ∀ target, related target target)
    (edited : ∀ target new, edit.result target = .ok new → related target new) :
    Stems related old (sweep edit old).1 := by
  induction old with
  | nil => exact .nil
  | cons target rest ih =>
      cases result : edit.result target with
      | error violation =>
          rw [sweep_cons_of_error atomic result]
          exact refl fun other _ => same other
      | ok new =>
          rw [sweep_cons_of_ok result]
          exact .cons (edited target new result) ih

/-- Every target that stems from others has an origin among them. -/
theorem exists_origin {new : List Target} (stems : Stems related old new) {target : Target}
    (member : target ∈ new) : ∃ origin ∈ old, related origin target := by
  induction stems with
  | nil => simp at member
  | cons relates _ ih =>
      rcases List.mem_cons.mp member with rfl | later
      · exact ⟨_, List.mem_cons_self, relates⟩
      · obtain ⟨origin, inRest, originRelates⟩ := ih later
        exact ⟨origin, List.mem_cons_of_mem _ inRest, originRelates⟩
  | cons_right _ ih =>
      obtain ⟨origin, inRest, originRelates⟩ := ih member
      exact ⟨origin, List.mem_cons_of_mem _ inRest, originRelates⟩

/-- Where targets keep their windows, the windows left are some of those there were, in order. -/
theorem windows_sublist {new : List Target} (stems : Stems related old new)
    (keeps : ∀ origin target, related origin target → target.window = origin.window) :
    (new.map Target.window).Sublist (old.map Target.window) := by
  induction stems with
  | nil => simp
  | cons relates _ ih =>
      rw [List.map_cons, List.map_cons, keeps _ _ relates]
      exact ih.cons_cons _
  | cons_right _ ih => exact ih.cons _

end Stems

theorem HoverTable.erase_of_absent {table : HoverTable} {device : Number}
    (absent : table.hasDevice device = false) (pointer : PointerId) :
    table.erase device pointer = table := by
  have unlisted : device ∉ table.devices := by simpa [hasDevice] using absent
  have none : table.pointers device = ∅ := by simpa [mem_devices] using unlisted
  have gone : (table.pointers device).erase pointer = ∅ := by
    apply PointerSet.ext_mem
    intro other
    simp [none]
  have rows : dropRow device table.rows = table.rows := by
    rw [dropRow, List.filter_eq_self]
    intro row member
    have other : row.1 ≠ device := fun same =>
      unlisted (List.mem_map.mpr ⟨row, member, same⟩)
    simpa using other
  rw [erase, dif_pos gone]
  cases table
  simpa [drop] using rows

theorem Target.lift_of_valid {target : Target} {pointer : Number} {id : PointerId}
    (valid : checkPointer pointer = .ok id) :
    target.lift pointer = .ok { target with touching := target.touching.erase id } := by
  rw [lift_eq, valid]
  rfl

theorem Target.unhover_of_valid {target : Target} {device pointer : Number} {id : PointerId}
    (valid : checkPointer pointer = .ok id) :
    target.unhover device pointer =
      .ok { target with hovering := target.hovering.erase device id } := by
  cases listed : target.hovering.hasDevice device with
  | true =>
      simp only [unhover_eq, listed, if_true, valid]
      rfl
  | false =>
      rw [HoverTable.erase_of_absent listed]
      simp [unhover_eq, listed]
      rfl

namespace Routing

variable {routing : Routing} {related : Target → Target → Prop}

/-- Lifting a pointer that can be takes it from every target. -/
theorem lift_of_valid {pointer : Number} {id : PointerId} (valid : checkPointer pointer = .ok id) :
    routing.lift pointer =
      { routing := { routing with
          targets := routing.targets.map fun target =>
            { target with touching := target.touching.erase id } } } := by
  have lifted : sweep (.lift pointer) routing.targets =
      (routing.targets.map fun target =>
        { target with touching := target.touching.erase id }, none) :=
    sweep_of_ok fun _ _ => Target.lift_of_valid valid
  simp [lift, lifted]

/-- Ending the hovering of a pointer that can be erases it from every target, and prunes. -/
theorem unhover_of_valid {device pointer : Number} {id : PointerId}
    (valid : checkPointer pointer = .ok id) :
    routing.unhover device pointer =
      ({ routing := { routing with
          targets := routing.targets.map fun target =>
            { target with hovering := target.hovering.erase device id } }
         notices := [.hoverLeft device id] } : Outcome).andThen (·.prune .hoverEnded) := by
  have swept : sweep (.unhover device pointer) routing.targets =
      (routing.targets.map fun target =>
        { target with hovering := target.hovering.erase device id }, none) :=
    sweep_of_ok fun _ _ => Target.unhover_of_valid valid
  simp [unhover, valid, swept, Outcome.andThen, prune_eq]

theorem routing_unhover {device pointer : Number} {id : PointerId}
    (valid : checkPointer pointer = .ok id) :
    (routing.unhover device pointer).routing =
      { routing with
        targets := (routing.targets.map fun target =>
          { target with hovering := target.hovering.erase device id }).filter
            fun target => !target.isDead } := by
  rw [unhover_of_valid valid, Outcome.andThen_of_done rfl, prune_eq]

theorem routing_unhoverDevice (device : Number) :
    (routing.unhoverDevice device).routing =
      { routing with
        targets := (routing.targets.map (·.unhoverDevice device)).filter
          fun target => !target.isDead } := by
  rw [unhoverDevice, prune_eq]

theorem mem_next_commit {target : Target} :
    target ∈ (routing.next .commit).targets ↔
      ∃ old ∈ routing.targets, old.isDirect = true ∧ old.settle = target := by
  rw [next, Operation.apply, commit_eq]
  simp only [List.mem_map, List.mem_filter, and_assoc]

theorem stems_replaceFirst {window : Window} {found new : Target}
    (same : ∀ target, related target target) (isFound : routing.find? window = some found)
    (relates : related found new) :
    Stems related routing.targets (updateFirst window (fun _ => new) routing.targets) := by
  apply Stems.updateFirst same
  intro target first
  have agree : some found = some target := isFound.symm.trans first
  cases agree
  exact relates

theorem stems_liftFrom (pointer : Number) (window : Window) :
    Stems (fun old new => (Operation.liftFrom pointer window).Alters routing old new)
      routing.targets (routing.liftFrom pointer window).routing.targets := by
  have same : ∀ target, (Operation.liftFrom pointer window).Alters routing target target :=
    fun _ => .inl rfl
  have unchanged : Stems (fun old new => (Operation.liftFrom pointer window).Alters routing old new)
      routing.targets routing.targets :=
    Stems.refl fun target _ => same target
  cases isFound : routing.find? window with
  | none => simpa only [liftFrom_eq, isFound] using unchanged
  | some found =>
      cases result : found.lift pointer with
      | error violation => simpa only [liftFrom_eq, isFound, result, refuse] using unchanged
      | ok lifted =>
          simp only [liftFrom_eq, isFound, result]
          exact stems_replaceFirst same isFound (.inr ⟨(window_of_find? isFound).2, result⟩)

theorem stems_revise (window : Window) (change : Target.Change) :
    Stems (fun old new => (Operation.revise window change).Alters routing old new)
      routing.targets (routing.revise window change).routing.targets := by
  have same : ∀ target, (Operation.revise window change).Alters routing target target :=
    fun _ => .inl rfl
  have unchanged : Stems (fun old new => (Operation.revise window change).Alters routing old new)
      routing.targets routing.targets :=
    Stems.refl fun target _ => same target
  cases isFound : routing.find? window with
  | none => simpa only [revise_eq, isFound, refuse] using unchanged
  | some found =>
      cases result : found.revise change with
      | error violation => simpa only [revise_eq, isFound, result, refuse] using unchanged
      | ok revised =>
          simp only [revise_eq, isFound, result]
          exact stems_replaceFirst same isFound (.inr ⟨(window_of_find? isFound).2, result⟩)

theorem stems_removeToken (token : Token) :
    Stems (fun old new => (Operation.removeToken token).Alters routing old new)
      routing.targets (routing.removeToken token).routing.targets := by
  apply Stems.of_sublist
  · intro target _
    rfl
  · unfold removeToken
    split
    · exact List.Sublist.refl _
    · exact List.eraseP_sublist

theorem stems_unhover (device pointer : Number) :
    Stems (fun old new => (Operation.unhover device pointer).Alters routing old new)
      routing.targets (routing.unhover device pointer).routing.targets := by
  cases valid : checkPointer pointer with
  | error violation =>
      simp only [unhover, valid, refuse]
      exact Stems.refl fun _ _ => .inl rfl
  | ok id =>
      rw [routing_unhover valid]
      exact Stems.filter_map _ fun target _ => .inr (Target.unhover_of_valid valid)

theorem stems_cancelExcept (pointers : PointerSet) (token : Token) :
    Stems (fun old new => (Operation.cancelExcept pointers token).Alters routing old new)
      routing.targets (routing.cancelExcept pointers token).routing.targets := by
  by_cases given : pointers = ∅
  · subst given
    apply Stems.refl
    intro target _
    have kept : target.giveUp ∅ = target := Target.giveUp_eq_self (by simp)
    simp [Operation.Alters, kept]
  · rw [routing_cancelExcept given]
    exact Stems.filter_map _ fun _ _ => rfl

theorem stems_pilfer (token : Token) :
    Stems (fun old new => (Operation.pilfer token).Alters routing old new)
      routing.targets (routing.pilfer token).routing.targets := by
  by_cases idle : (routing.pilfer token).claimed = ∅
  · rw [routing_pilfer_of_idle idle]
    apply Stems.refl
    intro target inTargets
    have kept : target.giveUp ∅ = target := Target.giveUp_eq_self (by simp)
    by_cases carries : target.window.token = token
    · have untouched : target.claim target.touching = target := by
        apply Target.claim_eq_self
        intro pointer touched
        have claimed : pointer ∈ (routing.pilfer token).claimed :=
          mem_claimed_pilfer.mpr ⟨target, inTargets, carries, touched⟩
        rw [idle] at claimed
        exact absurd claimed (PointerSet.not_mem_empty pointer)
      simp [Operation.Alters, carries, untouched]
    · simp [Operation.Alters, carries, idle, kept]
  · rw [routing_pilfer idle]
    exact Stems.filter_map _ fun _ _ => rfl

theorem stems_resolveClaims :
    Stems (fun old new => Operation.resolveClaims.Alters routing old new)
      routing.targets routing.resolveClaims.routing.targets := by
  by_cases unclaimed : routing.allPilfered = ∅
  · rw [resolveClaims_of_unclaimed unclaimed]
    apply Stems.refl
    intro target _
    have kept : target.yield ∅ = target := Target.yield_eq_self (by simp)
    simp [Operation.Alters, unclaimed, kept]
  · rw [routing_resolveClaims unclaimed]
    exact Stems.filter_map _ fun _ _ => rfl

/-- One operation: the targets stem from those there were, or one joins them. -/
theorem targets_next (routing : Routing) (operation : Operation) :
    Stems (fun old new => operation.Alters routing old new) routing.targets
        (routing.next operation).targets ∨
      ∃ new, operation.Adds routing new ∧
        (routing.next operation).targets = routing.targets ++ [new] := by
  cases operation with
  | bind device source =>
      left
      apply Stems.of_sublist
      · intro target _
        rfl
      · simp only [next, Operation.apply, bind]
        split <;> exact List.Sublist.refl _
  | reset => exact .inl .nil
  | lift pointer =>
      left
      exact Stems.sweep (Target.Edit.atomic_lift pointer) (fun _ => .inl rfl)
        fun _ _ lifted => .inr lifted
  | liftFrom pointer window => exact .inl (stems_liftFrom pointer window)
  | endHovers => exact .inl (Stems.map fun _ _ => rfl)
  | prune =>
      left
      rw [next, Operation.apply, prune_eq]
      exact Stems.of_sublist (fun _ _ => rfl) List.filter_sublist
  | touch window flags pointers time =>
      simp only [next, Operation.apply, touch]
      cases isFound : routing.find? window with
      | none => exact .inr ⟨_, ⟨isFound, rfl⟩, rfl⟩
      | some found =>
          left
          apply Stems.updateFirst
          · intro target
            exact .inl rfl
          · intro target first
            exact .inr ⟨(window_of_find? first).2, rfl⟩
  | hover window device pointer =>
      simp only [next, Operation.apply]
      cases validDevice : checkDevice device with
      | error violation =>
          simp only [hover, validDevice, refuse]
          exact .inl (Stems.refl fun _ _ => .inl rfl)
      | ok _ =>
          cases valid : checkPointer pointer with
          | error violation =>
              simp only [hover, validDevice, valid, refuse]
              exact .inl (Stems.refl fun _ _ => .inl rfl)
          | ok id =>
              simp only [hover, validDevice, valid]
              cases isFound : routing.find? window with
              | none => exact .inr ⟨_, ⟨isFound, id, valid, rfl⟩, rfl⟩
              | some found =>
                  left
                  apply Stems.updateFirst
                  · intro target
                    exact .inl rfl
                  · intro target first
                    exact .inr ⟨(window_of_find? first).2, id, valid, rfl⟩
  | removeToken token => exact .inl (stems_removeToken token)
  | commit =>
      left
      rw [next, Operation.apply, commit_eq]
      exact Stems.map_filter _ fun _ _ => rfl
  | cancelExcept pointers token => exact .inl (stems_cancelExcept pointers token)
  | resolveClaims => exact .inl stems_resolveClaims
  | pilfer token => exact .inl (stems_pilfer token)
  | unhover device pointer => exact .inl (stems_unhover device pointer)
  | unhoverDevice device =>
      left
      rw [next, Operation.apply, routing_unhoverDevice]
      exact Stems.filter_map _ fun _ _ => rfl
  | revise window change => exact .inl (stems_revise window change)

end Routing

end PointerRouting
