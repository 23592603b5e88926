/-
Module: PointerRouting.Proofs.Histories
Purpose: Histories of a routing, and what an operation in one can do, at most, to the pointers
  that windows receive and claim: who may land a pointer, and who may claim one.
Main exports: Routing.after, Operation.isOwn, Operation.Lands, Operation.Claims,
  Operation.Bounds, Operation.Alters.bounds, Routing.mem_next, Routing.claim_of_next,
  Routing.touch_of_next, Routing.nodup_windows_after
-/
import PointerRouting.Proofs.Steps

namespace PointerRouting

namespace Routing

/-- The routing after a history. A violation ends its operation and not the history. -/
def after (routing : Routing) (history : List Operation) : Routing := history.foldl next routing

@[simp] theorem after_nil (routing : Routing) : routing.after [] = routing := rfl

@[simp] theorem after_cons (routing : Routing) (operation : Operation)
    (history : List Operation) :
    routing.after (operation :: history) = (routing.next operation).after history := rfl

@[simp] theorem after_append (routing : Routing) (first second : List Operation) :
    routing.after (first ++ second) = (routing.after first).after second := by
  simp [after]

end Routing

namespace Target

theorem eq_of_lift {target lifted : Target} {pointer : Number}
    (lifts : target.lift pointer = .ok lifted) :
    ∃ id, lifted = { target with touching := target.touching.erase id } := by
  cases valid : checkPointer pointer with
  | error violation =>
      rw [lift_eq, valid] at lifts
      cases lifts
  | ok id =>
      rw [lift_eq, valid] at lifts
      cases lifts
      exact ⟨id, rfl⟩

theorem eq_of_unhover {target left : Target} {device pointer : Number}
    (unhovers : target.unhover device pointer = .ok left) :
    ∃ hovering, left = { target with hovering } := by
  cases valid : checkPointer pointer with
  | error violation =>
      rw [unhover_eq, valid] at unhovers
      split at unhovers
      · cases unhovers
      · cases unhovers
        exact ⟨target.hovering, rfl⟩
  | ok id =>
      rw [unhover_of_valid valid] at unhovers
      cases unhovers
      exact ⟨_, rfl⟩

end Target

namespace Operation

/-- Whether an operation is the routing's own. A revision is not: it reaches into a target that
was handed out. -/
def isOwn : Operation → Bool
  | revise .. => false
  | _ => true

/-- An operation that lands a pointer in a window. -/
def Lands (window : Window) (pointer : PointerId) : Operation → Prop
  | touch target _ pointers _ => target = window ∧ pointer ∈ pointers
  | revise target (.touch pointers) => target = window ∧ pointer ∈ pointers
  | _ => False

/-- Among the routing's own operations only touching lands a pointer. -/
theorem eq_touch_of_lands {operation : Operation} {window : Window} {pointer : PointerId}
    (own : operation.isOwn = true) (lands : operation.Lands window pointer) :
    ∃ flags pointers time, operation = .touch window flags pointers time ∧
      pointer ∈ pointers := by
  cases operation with
  | touch target flags pointers time =>
      obtain ⟨rfl, landed⟩ := lands
      exact ⟨flags, pointers, time, rfl, landed⟩
  | revise => cases own
  | _ => cases lands

/-- An operation by which a target claims a pointer. -/
def Claims (target : Target) (pointer : PointerId) : Operation → Prop
  | pilfer token => target.window.token = token ∧ pointer ∈ target.touching
  | revise window (.claim pointers) => target.window = window ∧ pointer ∈ pointers
  | _ => False

/-- Among the routing's own operations only a pilfer claims a pointer. -/
theorem eq_pilfer_of_claims {operation : Operation} {target : Target} {pointer : PointerId}
    (own : operation.isOwn = true) (claims : operation.Claims target pointer) :
    operation = .pilfer target.window.token ∧ pointer ∈ target.touching := by
  cases operation with
  | pilfer token =>
      obtain ⟨rfl, touched⟩ := claims
      exact ⟨rfl, touched⟩
  | revise => cases own
  | _ => cases claims

/-- What an operation can do, at most, to the pointers that a target receives and claims. -/
structure Bounds (operation : Operation) (old new : Target) : Prop where
  window : new.window = old.window
  touching : ∀ pointer ∈ new.touching,
    pointer ∈ old.touching ∨ operation.Lands old.window pointer
  keeps : ∀ pointer ∈ old.pilfered, pointer ∈ new.pilfered
  pilfered : ∀ pointer ∈ new.pilfered, pointer ∈ old.pilfered ∨ operation.Claims old pointer

variable {operation : Operation} {routing : Routing} {old new : Target}

theorem Bounds.of_landing (window : new.window = old.window)
    (landing : ∀ pointer ∈ new.touching,
      pointer ∈ old.touching ∨ operation.Lands old.window pointer)
    (pilfered : new.pilfered = old.pilfered) : operation.Bounds old new where
  window := window
  touching := landing
  keeps _ own := pilfered ▸ own
  pilfered _ own := .inl (pilfered ▸ own)

theorem Bounds.of_fewer (window : new.window = old.window)
    (fewer : ∀ pointer ∈ new.touching, pointer ∈ old.touching)
    (pilfered : new.pilfered = old.pilfered) : operation.Bounds old new :=
  of_landing window (fun pointer touched => .inl (fewer pointer touched)) pilfered

theorem Bounds.of_same (window : new.window = old.window)
    (touching : new.touching = old.touching) (pilfered : new.pilfered = old.pilfered) :
    operation.Bounds old new :=
  of_fewer window (fun _ touched => touching ▸ touched) pilfered

theorem Bounds.refl (operation : Operation) (target : Target) :
    operation.Bounds target target :=
  of_same rfl rfl rfl

/-- Taking pointers from a target stays within the bounds of every operation. -/
theorem Bounds.of_giveUp (operation : Operation) (target : Target) (pointers : PointerSet) :
    operation.Bounds target (target.giveUp pointers) := by
  apply of_fewer
  · rfl
  · intro pointer touched
    exact (Target.mem_touching_giveUp.mp touched).1
  · rfl

theorem Bounds.of_claim {target : Target} {pointers : PointerSet}
    (claims : ∀ pointer ∈ pointers, operation.Claims target pointer) :
    operation.Bounds target (target.claim pointers) := by
  constructor
  · rfl
  · intro pointer touched
    exact .inl touched
  · intro pointer own
    exact Target.mem_pilfered_claim.mpr (.inl own)
  · intro pointer own
    rcases Target.mem_pilfered_claim.mp own with before | claimed
    · exact .inl before
    · exact .inr (claims pointer claimed)

theorem Bounds.of_lift {pointer : Number} (lifts : old.lift pointer = .ok new) :
    operation.Bounds old new := by
  obtain ⟨id, rfl⟩ := Target.eq_of_lift lifts
  apply of_fewer
  · rfl
  · intro pointer touched
    exact (PointerSet.mem_erase.mp touched).1
  · rfl

theorem Bounds.of_unhover {device pointer : Number}
    (unhovers : old.unhover device pointer = .ok new) : operation.Bounds old new := by
  obtain ⟨hovering, rfl⟩ := Target.eq_of_unhover unhovers
  exact of_same rfl rfl rfl

theorem Bounds.of_revise {window : Window} {change : Target.Change} (here : old.window = window)
    (revises : old.revise change = .ok new) : (revise window change).Bounds old new := by
  cases change with
  | touch pointers =>
      cases revises
      apply of_landing
      · rfl
      · intro pointer touched
        rcases PointerSet.mem_union.mp touched with before | landed
        · exact .inl before
        · exact .inr ⟨here.symm, landed⟩
      · rfl
  | claim pointers =>
      cases revises
      apply of_claim
      intro pointer claimed
      exact ⟨here, claimed⟩
  | lift pointer => exact of_lift revises
  | unhover device pointer => exact of_unhover revises
  | hover device pointer =>
      cases valid : checkPointer pointer with
      | error violation =>
          rw [Target.revise_hover_eq, valid] at revises
          cases revises
      | ok id =>
          rw [Target.revise_hover_eq, valid] at revises
          cases revises
          exact of_same rfl rfl rfl
  | startAt | unhoverDevice | endHovers | redirect =>
      cases revises
      exact of_same rfl rfl rfl

/-- No operation does more to a target than it is bound to. -/
theorem Alters.bounds (alters : operation.Alters routing old new) :
    operation.Bounds old new := by
  cases operation with
  | touch window flags pointers time =>
      rcases alters with rfl | ⟨here, rfl⟩
      · exact Bounds.refl _ _
      · apply Bounds.of_landing
        · rfl
        · intro pointer touched
          rcases PointerSet.mem_union.mp touched with before | landed
          · exact .inl before
          · exact .inr ⟨here.symm, landed⟩
        · rfl
  | pilfer token =>
      by_cases carries : old.window.token = token
      · rw [Alters, if_pos carries] at alters
        subst alters
        apply Bounds.of_claim
        intro pointer touched
        exact ⟨carries, touched⟩
      · rw [Alters, if_neg carries] at alters
        subst alters
        exact Bounds.of_giveUp _ _ _
  | cancelExcept pointers token =>
      by_cases carries : old.window.token = token
      · rw [Alters, if_pos carries] at alters
        subst alters
        exact Bounds.refl _ _
      · rw [Alters, if_neg carries] at alters
        subst alters
        exact Bounds.of_giveUp _ _ _
  | resolveClaims =>
      subst alters
      exact Bounds.of_giveUp _ _ _
  | lift pointer =>
      rcases alters with rfl | lifts
      · exact Bounds.refl _ _
      · exact Bounds.of_lift lifts
  | liftFrom pointer window =>
      rcases alters with rfl | ⟨_, lifts⟩
      · exact Bounds.refl _ _
      · exact Bounds.of_lift lifts
  | hover window device pointer =>
      rcases alters with rfl | ⟨_, id, _, rfl⟩
      · exact Bounds.refl _ _
      · exact Bounds.of_same rfl rfl rfl
  | unhover device pointer =>
      rcases alters with rfl | unhovers
      · exact Bounds.refl _ _
      · exact Bounds.of_unhover unhovers
  | revise window change =>
      rcases alters with rfl | ⟨here, revises⟩
      · exact Bounds.refl _ _
      · exact Bounds.of_revise here revises
  | bind | reset | prune | removeToken | endHovers | commit | unhoverDevice =>
      subst alters
      exact Bounds.of_same rfl rfl rfl

/-- Whoever still receives a pointer that a pilfer has claimed carries the token and claims it. -/
theorem Alters.own_claim_of_pilfer {token : Token} {pointer : PointerId}
    (alters : (Operation.pilfer token).Alters routing old new)
    (claimed : pointer ∈ (routing.pilfer token).claimed) (touched : pointer ∈ new.touching) :
    new.window.token = token ∧ pointer ∈ new.pilfered := by
  by_cases carries : old.window.token = token
  · rw [Operation.Alters, if_pos carries] at alters
    subst alters
    exact ⟨carries, Target.mem_pilfered_claim.mpr (.inr touched)⟩
  · rw [Operation.Alters, if_neg carries] at alters
    subst alters
    exact absurd claimed (Target.mem_touching_giveUp.mp touched).2

theorem Adds.alters_same (adds : operation.Adds routing new) (target : Target) :
    operation.Alters routing target target := by
  cases operation with
  | touch => exact .inl rfl
  | hover => exact .inl rfl
  | _ => cases adds

/-- A target is added without claims. -/
theorem Adds.pilfered_eq (adds : operation.Adds routing new) : new.pilfered = ∅ := by
  cases operation with
  | touch =>
      obtain ⟨_, rfl⟩ := adds
      rfl
  | hover =>
      obtain ⟨_, _, _, rfl⟩ := adds
      rfl
  | _ => cases adds

/-- A target is added only where its window has none. -/
theorem Adds.find?_eq_none (adds : operation.Adds routing new) :
    routing.find? new.window = none := by
  cases operation with
  | touch =>
      obtain ⟨absent, rfl⟩ := adds
      exact absent
  | hover =>
      obtain ⟨absent, _, _, rfl⟩ := adds
      exact absent
  | _ => cases adds

theorem Adds.lands (adds : operation.Adds routing new) {pointer : PointerId}
    (touched : pointer ∈ new.touching) : operation.Lands new.window pointer := by
  cases operation with
  | touch =>
      obtain ⟨_, rfl⟩ := adds
      exact ⟨rfl, touched⟩
  | hover =>
      obtain ⟨_, _, _, rfl⟩ := adds
      exact absurd touched (PointerSet.not_mem_empty pointer)
  | _ => cases adds

end Operation

namespace Routing

variable {routing : Routing} {operation : Operation}

/-- Every target after an operation is one from before it, altered, or the one it adds. -/
theorem mem_next {target : Target} (member : target ∈ (routing.next operation).targets) :
    (∃ old ∈ routing.targets, operation.Alters routing old target) ∨
      operation.Adds routing target := by
  rcases routing.targets_next operation with stems | ⟨new, adds, grown⟩
  · exact .inl (stems.exists_origin member)
  · rw [grown, List.mem_append, List.mem_singleton] at member
    rcases member with stays | rfl
    · exact .inl ⟨target, stays, adds.alters_same target⟩
    · exact .inr adds

/-- A window claims a pointer after one of the routing's own operations if it did before, or if
it receives the pointer and the operation is a pilfer of its connection. -/
theorem claim_of_next (own : operation.isOwn = true) {claimant : Target} {pointer : PointerId}
    (inTargets : claimant ∈ (routing.next operation).targets)
    (claims : pointer ∈ claimant.pilfered) :
    ∃ old ∈ routing.targets, old.window = claimant.window ∧
      (pointer ∈ old.pilfered ∨
        operation = .pilfer claimant.window.token ∧ pointer ∈ old.touching) := by
  rcases mem_next inTargets with ⟨old, inOld, alters⟩ | adds
  · have bounds := alters.bounds
    refine ⟨old, inOld, bounds.window.symm, ?_⟩
    rw [bounds.window]
    exact (bounds.pilfered pointer claims).imp_right (Operation.eq_pilfer_of_claims own)
  · rw [adds.pilfered_eq] at claims
    exact absurd claims (PointerSet.not_mem_empty pointer)

/-- A window receives a pointer after an operation if it did before, or if the operation lands the
pointer in it. -/
theorem touch_of_next {target : Target} {pointer : PointerId}
    (inTargets : target ∈ (routing.next operation).targets)
    (touched : pointer ∈ target.touching) :
    (∃ old ∈ routing.targets, old.window = target.window ∧ pointer ∈ old.touching) ∨
      operation.Lands target.window pointer := by
  rcases mem_next inTargets with ⟨old, inOld, alters⟩ | adds
  · have bounds := alters.bounds
    rw [bounds.window]
    rcases bounds.touching pointer touched with before | lands
    · exact .inl ⟨old, inOld, rfl, before⟩
    · exact .inr lands
  · exact .inr (adds.lands touched)

/-- No operation gives a window a second target. -/
theorem nodup_windows_next (nodup : (routing.targets.map Target.window).Nodup) :
    ((routing.next operation).targets.map Target.window).Nodup := by
  rcases routing.targets_next operation with stems | ⟨new, adds, grown⟩
  · exact nodup.sublist (stems.windows_sublist fun _ _ alters => alters.bounds.window)
  · have absent := find?_eq_none_iff.mp adds.find?_eq_none
    rw [grown, List.map_append, List.map_singleton, List.nodup_append]
    refine ⟨nodup, by simp, ?_⟩
    intro window listed other joins
    obtain ⟨target, inTargets, rfl⟩ := List.mem_map.mp listed
    rw [List.mem_singleton.mp joins]
    exact absent target inTargets

theorem nodup_windows_after {history : List Operation}
    (nodup : (routing.targets.map Target.window).Nodup) :
    ((routing.after history).targets.map Target.window).Nodup := by
  induction history generalizing routing with
  | nil => exact nodup
  | cons operation history ih => exact ih (nodup_windows_next nodup)

end Routing

end PointerRouting
