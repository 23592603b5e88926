/-
Module: PointerRouting.Proofs.Pruning
Purpose: What pruning leaves. Six operations go on to prune when they have done anything, each under
  a guard of its own. A target that keeps a pointer, touching or hovering, is among the targets that
  they leave, and every target that they leave has kept one; so afterwards a routing is empty just
  in case nothing touches and nothing hovers. Whether anything does is what the summary queries say.
Main exports: Target.IsAlive, Routing.isHovered_iff, Routing.isEmpty_iff_of_alive,
  Operation.Prunes, Operation.Leaves, Operation.routing_next_of_prunes, Operation.leaves_remainder,
  Routing.pruning_leaves_the_living
-/
import PointerRouting.Proofs.Arrivals
import PointerRouting.Proofs.Pilfering
import PointerRouting.Proofs.Removals

namespace PointerRouting

/-- Some pointer touches the window of a target, or some pointer of a device hovers over it. -/
def Target.IsAlive (target : Target) : Prop :=
  (∃ pointer, pointer ∈ target.touching) ∨
    ∃ device pointer, pointer ∈ target.hovering.pointers device

theorem Target.isAlive_iff {target : Target} : target.IsAlive ↔ target.isDead = false := by
  rw [← Bool.not_eq_true, isDead_iff, IsAlive]
  simp only [PointerSet.eq_empty_iff, not_and_or, not_forall, not_not]

theorem Target.isHovered_iff {target : Target} :
    target.isHovered = true ↔ ∃ device pointer, pointer ∈ target.hovering.pointers device := by
  rw [isHovered, Bool.not_eq_true', ← Bool.not_eq_true, HoverTable.isEmpty_iff]
  simp only [PointerSet.eq_empty_iff, not_forall, not_not]

namespace Routing

variable {routing : Routing}

theorem isDown_iff :
    routing.isDown = true ↔ ∃ target ∈ routing.targets, ∃ pointer, pointer ∈ target.touching := by
  rw [isDown_eq, Bool.not_eq_true', ← Bool.not_eq_true, PointerSet.isEmpty_iff]
  simp only [mem_touching, not_forall, not_not]
  exact ⟨fun ⟨pointer, target, inTargets, touched⟩ => ⟨target, inTargets, pointer, touched⟩,
    fun ⟨target, inTargets, pointer, touched⟩ => ⟨pointer, target, inTargets, touched⟩⟩

theorem isHovered_iff :
    routing.isHovered = true ↔
      ∃ target ∈ routing.targets, ∃ device pointer, pointer ∈ target.hovering.pointers device := by
  rw [isHovered, List.any_eq_true]
  simp only [Target.isHovered_iff]

/-- Something hovers just in case some pointer of some device is found to hover over a window. -/
theorem isHovered_iff_exists_hoveredBy (nodup : (routing.targets.map Target.window).Nodup) :
    routing.isHovered = true ↔
      ∃ device, ∃ pointer : PointerId, ∃ windows,
        routing.hoveredBy device pointer.number = .ok windows ∧ windows ≠ [] := by
  rw [isHovered_iff]
  constructor
  · rintro ⟨target, inTargets, device, pointer, hovers⟩
    refine ⟨device, pointer, _, hoveredBy_number nodup device pointer, ?_⟩
    exact List.ne_nil_of_mem (List.mem_map_of_mem
      (List.mem_filter.mpr ⟨inTargets, decide_eq_true hovers⟩))
  · rintro ⟨device, pointer, windows, answer, some⟩
    rw [hoveredBy_number nodup] at answer
    cases answer
    obtain ⟨window, listed⟩ := List.exists_mem_of_ne_nil _ some
    obtain ⟨target, hovers, _⟩ := List.mem_map.mp listed
    obtain ⟨inTargets, hovers⟩ := List.mem_filter.mp hovers
    exact ⟨target, inTargets, device, pointer, of_decide_eq_true hovers⟩

/-- Where no target is dead, a routing is empty just in case nothing touches and nothing hovers. -/
theorem isEmpty_iff_of_alive (alive : ∀ target ∈ routing.targets, target.IsAlive) :
    routing.isEmpty = true ↔ routing.isDown = false ∧ routing.isHovered = false := by
  constructor
  · intro empty
    have none : routing.targets = [] := List.isEmpty_iff.mp empty
    simp [isDown, isHovered, none]
  · rintro ⟨notDown, notHovered⟩
    rw [isEmpty, List.isEmpty_iff, List.eq_nil_iff_forall_not_mem]
    intro target inTargets
    rcases alive target inTargets with touched | hovers
    · exact Bool.false_ne_true (notDown.symm.trans (isDown_iff.mpr ⟨target, inTargets, touched⟩))
    · exact Bool.false_ne_true
        (notHovered.symm.trans (isHovered_iff.mpr ⟨target, inTargets, hovers⟩))

end Routing

namespace Operation

/-- The operations that go on to prune when they have done anything. -/
def mayPrune : Operation → Bool
  | prune | unhover .. | unhoverDevice _ | cancelExcept .. | pilfer _ | resolveClaims => true
  | _ => false

/-- When an operation prunes: ending a hover if its pointer can be, cancelling if there is anything
to cancel, a pilfer if it claims anything, settling claims if there are any. -/
def Prunes (routing : Routing) : Operation → Prop
  | prune | unhoverDevice _ => True
  | unhover _ pointer => (PointerId.ofNumber? pointer).isSome
  | cancelExcept pointers _ => pointers ≠ ∅
  | pilfer token => (routing.pilfer token).claimed ≠ ∅
  | resolveClaims => routing.allPilfered ≠ ∅
  | _ => False

/-- Whether an operation that prunes leaves a target a pointer that touches its window. -/
def SparesTouch (routing : Routing) (target : Target) (pointer : PointerId) : Operation → Prop
  | cancelExcept pointers token => target.window.token = token ∨ pointer ∉ pointers
  | pilfer token => target.window.token = token ∨ pointer ∉ (routing.pilfer token).claimed
  | resolveClaims => pointer ∈ routing.allPilfered → pointer ∈ target.pilfered
  | _ => True

/-- Whether an operation that prunes leaves a pointer of a device hovering. -/
def SparesHover (device : Number) (pointer : PointerId) : Operation → Prop
  | unhover other number => ¬(device = other ∧ PointerId.ofNumber? number = some pointer)
  | unhoverDevice other => device ≠ other
  | _ => True

/-- A target is what an operation leaves of another one: of its pointers it has those that the
operation spares. -/
structure Leaves (routing : Routing) (operation : Operation) (old new : Target) : Prop where
  window : new.window = old.window
  touching : ∀ {pointer}, pointer ∈ new.touching ↔
    pointer ∈ old.touching ∧ operation.SparesTouch routing old pointer
  hovering : ∀ {device pointer}, pointer ∈ new.hovering.pointers device ↔
    pointer ∈ old.hovering.pointers device ∧ operation.SparesHover device pointer

/-- What an operation that prunes makes of a target before it prunes. -/
def remainder (routing : Routing) : Operation → Target → Target
  | unhover device pointer, target =>
    { target with
      hovering :=
        (PointerId.ofNumber? pointer).elim target.hovering (target.hovering.erase device) }
  | unhoverDevice device, target => target.unhoverDevice device
  | cancelExcept pointers token, target =>
    if target.window.token = token then target else target.giveUp pointers
  | pilfer token, target => target.partake token (routing.pilfer token).claimed
  | resolveClaims, target => target.yield routing.allPilfered
  | _, target => target

variable {operation : Operation} {routing : Routing}

/-- The guards of the six operations differ; what they do once past them does not. -/
theorem routing_next_of_prunes (prunes : operation.Prunes routing) :
    routing.next operation = routing.thin (operation.remainder routing) := by
  cases operation with
  | prune =>
      have same : routing.targets.map (prune.remainder routing) = routing.targets :=
        List.map_id' routing.targets
      rw [Routing.next, apply, Routing.prune_eq, Routing.thin, same]
  | unhover device pointer =>
      obtain ⟨id, named⟩ := Option.isSome_iff_exists.mp prunes
      have erases : (unhover device pointer).remainder routing = fun target =>
          { target with hovering := target.hovering.erase device id } := by
        funext target
        simp only [remainder, named, Option.elim_some]
      rw [Routing.next, apply, Routing.routing_unhover (checkPointer_of_named named), erases,
        Routing.thin]
  | unhoverDevice device => exact Routing.routing_unhoverDevice device
  | cancelExcept pointers token => exact Routing.routing_cancelExcept prunes
  | pilfer token => exact Routing.routing_pilfer_eq prunes
  | resolveClaims => exact Routing.routing_resolveClaims prunes
  | _ => cases prunes

/-- An operation that stops at its guard does nothing at all. -/
theorem prunes_or_next_eq (may : operation.mayPrune = true) :
    operation.Prunes routing ∨ routing.next operation = routing := by
  by_cases prunes : operation.Prunes routing
  · exact .inl prunes
  · right
    cases operation with
    | prune | unhoverDevice => exact absurd trivial prunes
    | unhover device pointer =>
        have unnamed : PointerId.ofNumber? pointer = none := by simpa [Prunes] using prunes
        rw [Routing.next, apply, Routing.unhover, checkPointer_of_unnamed unnamed]
        rfl
    | cancelExcept pointers token =>
        have nothing : pointers.isEmpty = true :=
          PointerSet.isEmpty_iff_eq.mpr (not_not.mp prunes)
        simp [Routing.next, apply, Routing.cancelExcept, nothing]
    | pilfer token => exact Routing.routing_pilfer_of_idle (not_not.mp prunes)
    | resolveClaims =>
        rw [Routing.next, apply, Routing.resolveClaims_of_unclaimed (not_not.mp prunes)]
    | _ => cases may

theorem leaves_remainder (prunes : operation.Prunes routing) (target : Target) :
    operation.Leaves routing target (operation.remainder routing target) := by
  have allTouch : ∀ {pointer}, pointer ∈ target.touching ↔ pointer ∈ target.touching ∧ True := by
    simp
  have allHover : ∀ {device pointer}, pointer ∈ target.hovering.pointers device ↔
      pointer ∈ target.hovering.pointers device ∧ True := by
    simp
  cases operation with
  | prune => exact ⟨rfl, allTouch, allHover⟩
  | unhover other number =>
      obtain ⟨id, named⟩ := Option.isSome_iff_exists.mp prunes
      refine ⟨rfl, allTouch, ?_⟩
      intro device pointer
      simp only [remainder, named, Option.elim_some, SparesHover, Option.some.injEq]
      rw [(target.hovering.thins_erase other id).mem, @eq_comm _ pointer id]
  | unhoverDevice other => exact ⟨rfl, allTouch, (target.hovering.thins_drop other).mem⟩
  | cancelExcept pointers token =>
      by_cases carries : target.window.token = token
      · simp only [remainder, carries, if_true]
        exact ⟨rfl, by simp [SparesTouch, carries], allHover⟩
      · simp only [remainder, carries, if_false]
        exact ⟨rfl, by simp [SparesTouch, carries], allHover⟩
  | pilfer token =>
      refine ⟨Target.window_partake, Target.mem_touching_partake, ?_⟩
      have hovering : (target.partake token (routing.pilfer token).claimed).hovering =
          target.hovering := by
        unfold Target.partake
        split <;> rfl
      intro device pointer
      simp [remainder, hovering, SparesHover]
  | resolveClaims => exact ⟨rfl, Target.mem_touching_yield, allHover⟩
  | _ => cases prunes

/-- What is left of a target is alive just in case a pointer of it has been spared. -/
theorem Leaves.isAlive {old new : Target} (leaves : operation.Leaves routing old new) :
    new.IsAlive ↔ (∃ pointer ∈ old.touching, operation.SparesTouch routing old pointer) ∨
      ∃ device, ∃ pointer ∈ old.hovering.pointers device, operation.SparesHover device pointer := by
  simp only [Target.IsAlive, leaves.touching, leaves.hovering]

theorem mem_next_of_prunes (prunes : operation.Prunes routing) {target : Target} :
    target ∈ (routing.next operation).targets ↔
      (∃ old ∈ routing.targets, operation.remainder routing old = target) ∧ target.IsAlive := by
  rw [routing_next_of_prunes prunes, Routing.thin, List.mem_filter, List.mem_map, Bool.not_eq_true',
    Target.isAlive_iff]

end Operation

namespace Routing

/-- Pruning leaves the living, in every routing that a history leaves. Something touches just in
case the pointers that touch are not none, and something hovers just in case some pointer of some
device is found to hover over a window. After an operation that has pruned, every target is alive
and is what the operation leaves of one that was there, and a target of which the operation spares
any pointer is still there; so the routing is empty just in case nothing touches and nothing hovers.
An operation that may prune and does not changes nothing, and pruning twice is pruning once. -/
theorem pruning_leaves_the_living (history : List Operation) :
    let routing := ({} : Routing).after history
    (routing.isDown = true ↔ routing.touching ≠ ∅) ∧
    (routing.isHovered = true ↔
      ∃ device, ∃ pointer : PointerId, ∃ windows,
        routing.hoveredBy device pointer.number = .ok windows ∧ windows ≠ []) ∧
    (∀ operation : Operation, operation.Prunes routing →
      (∀ new ∈ (routing.next operation).targets, new.IsAlive ∧
        ∃ old ∈ routing.targets, operation.Leaves routing old new) ∧
      ((routing.next operation).isEmpty = true ↔
        (routing.next operation).isDown = false ∧ (routing.next operation).isHovered = false) ∧
      ∀ old ∈ routing.targets,
        ((∃ pointer ∈ old.touching, operation.SparesTouch routing old pointer) ∨
          ∃ device, ∃ pointer ∈ old.hovering.pointers device,
            operation.SparesHover device pointer) →
        ∃ new ∈ (routing.next operation).targets, operation.Leaves routing old new) ∧
    (∀ operation : Operation, operation.mayPrune = true →
      operation.Prunes routing ∨ routing.next operation = routing) ∧
    (routing.next .prune).next .prune = routing.next .prune := by
  intro routing
  have nodup : (routing.targets.map Target.window).Nodup := nodup_windows_after List.nodup_nil
  refine ⟨?_, isHovered_iff_exists_hoveredBy nodup, ?_, fun _ => Operation.prunes_or_next_eq, ?_⟩
  · rw [isDown_eq, Bool.not_eq_true', ← Bool.not_eq_true, PointerSet.isEmpty_iff_eq]
  · intro operation prunes
    refine ⟨?_, ?_, ?_⟩
    · intro new left
      obtain ⟨⟨old, inOld, rfl⟩, alive⟩ := (Operation.mem_next_of_prunes prunes).mp left
      exact ⟨alive, old, inOld, Operation.leaves_remainder prunes old⟩
    · apply isEmpty_iff_of_alive
      intro target left
      exact ((Operation.mem_next_of_prunes prunes).mp left).2
    · intro old inOld spared
      have leaves := Operation.leaves_remainder prunes old
      exact ⟨_, (Operation.mem_next_of_prunes prunes).mpr
        ⟨⟨old, inOld, rfl⟩, leaves.isAlive.mpr spared⟩, leaves⟩
  · simp only [next, Operation.apply, prune_eq, List.filter_filter, Bool.and_self]

/-- The first window is still touched when the only hover over it ends, the second one has nothing
left, and the third one was dead and had not been pruned. -/
example :
    let target (serial : Nat) (touching hovering : List PointerId) : Target :=
      { window := Window.alone serial ""
        touching := .ofList touching
        hovering := hovering.foldl (·.insert 7) ∅ }
    let left := ({ targets := [target 0 [1] [2], target 1 [] [2], target 2 [] []] }
      : Routing).next (.unhover 7 2)
    left.targets.map (·.window.serial) = [0] ∧ left.isHovered = false := by
  decide

end Routing

end PointerRouting
