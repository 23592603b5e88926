/-
Module: PointerRouting.Proofs.Atomicity
Purpose: A violation leaves no trace. Every operation looks at its numbers before it does
  anything, also where it looks at them target by target, so one that breaks a rule is refused as
  a whole; an action of a script is refused as a whole as well, and a script that stops has done
  exactly the actions before the one it stopped at.
Main exports: Outcome.Clean, Operation.clean_apply, Gesture.clean_play,
  Gesture.playAll_of_violation, Router.violations_leave_no_trace
-/
import PointerRouting.Gesture
import PointerRouting.Proofs.Histories
import PointerRouting.Proofs.Samples
import PointerRouting.Router

namespace PointerRouting

/-- A violation, if there is one, is all that an operation on a routing leaves. -/
def Outcome.Clean (outcome : Outcome) (routing : Routing) : Prop :=
  ∀ violation, outcome.violation = some violation → outcome = routing.refuse violation

namespace Outcome

variable {outcome : Outcome} {routing : Routing}

theorem Clean.of_done (done : outcome.violation = none) : outcome.Clean routing := by
  intro violation stopped
  rw [done] at stopped
  cases stopped

theorem clean_refuse (routing : Routing) (violation : Violation) :
    (routing.refuse violation).Clean routing := by
  intro other stopped
  cases stopped
  rfl

/-- What cannot be refused may follow. -/
theorem Clean.andThen {next : Routing → Outcome} (clean : outcome.Clean routing)
    (done : ∀ moved, (next moved).violation = none) : (outcome.andThen next).Clean routing := by
  cases stopped : outcome.violation with
  | none =>
      apply Clean.of_done
      rw [andThen_of_done stopped]
      exact done _
  | some violation =>
      rw [andThen_of_violation stopped]
      exact clean

end Outcome

namespace Routing

variable (routing : Routing)

theorem clean_bind (device source : Number) : (routing.bind device source).Clean routing := by
  unfold bind
  split
  · exact Outcome.clean_refuse _ _
  · exact Outcome.Clean.of_done rfl

/-- Lifting looks at the pointer once for each target, with the same answer: the first target
refuses it or none does. -/
theorem clean_lift (pointer : Number) : (routing.lift pointer).Clean routing := by
  cases valid : checkPointer pointer with
  | error violation =>
      have refused : ∀ target : Target, target.lift pointer = .error violation := by
        intro target
        rw [Target.lift_eq, valid]
        rfl
      rcases routing with ⟨device, source, _ | ⟨target, rest⟩⟩
      · exact Outcome.Clean.of_done rfl
      · rw [lift, sweep_cons_of_error (Target.Edit.atomic_lift pointer) (refused target)]
        exact Outcome.clean_refuse _ _
  | ok id =>
      apply Outcome.Clean.of_done
      rw [lift_of_valid valid]

theorem clean_liftFrom (pointer : Number) (window : Window) :
    (routing.liftFrom pointer window).Clean routing := by
  rw [liftFrom_eq]
  split
  · exact Outcome.Clean.of_done rfl
  · split
    · exact Outcome.clean_refuse _ _
    · exact Outcome.Clean.of_done rfl

theorem clean_hover (window : Window) (device pointer : Number) :
    (routing.hover window device pointer).Clean routing := by
  unfold hover
  split
  · exact Outcome.clean_refuse _ _
  · exact Outcome.clean_refuse _ _
  · split <;> exact Outcome.Clean.of_done rfl

theorem clean_unhover (device pointer : Number) :
    (routing.unhover device pointer).Clean routing := by
  cases valid : checkPointer pointer with
  | error violation =>
      simp only [unhover, valid]
      exact Outcome.clean_refuse _ _
  | ok id =>
      apply Outcome.Clean.of_done
      rw [unhover_of_valid valid]
      rfl

theorem clean_revise (window : Window) (change : Target.Change) :
    (routing.revise window change).Clean routing := by
  rw [revise_eq]
  split
  · exact Outcome.clean_refuse _ _
  · split
    · exact Outcome.clean_refuse _ _
    · exact Outcome.Clean.of_done rfl

variable (token : Token) (pointers : PointerSet)

theorem violation_touch (window : Window) (flags : Mask) (time : Option Number) :
    (routing.touch window flags pointers time).violation = none := by
  unfold touch
  split <;> rfl

theorem violation_removeToken : (routing.removeToken token).violation = none := by
  unfold removeToken
  split <;> rfl

theorem violation_cancelExcept : (routing.cancelExcept pointers token).violation = none := by
  unfold cancelExcept
  split <;> rfl

theorem violation_pilfer : (routing.pilfer token).violation = none := by
  simp only [pilfer]
  split
  · rfl
  · exact violation_cancelExcept _ _ _

theorem violation_resolveClaims : routing.resolveClaims.violation = none := by
  simp only [resolveClaims]
  split <;> rfl

end Routing

/-- Whatever operation breaks a rule is refused as a whole. -/
theorem Operation.clean_apply (operation : Operation) (routing : Routing) :
    (operation.apply routing).Clean routing := by
  cases operation with
  | bind device source => exact routing.clean_bind device source
  | lift pointer => exact routing.clean_lift pointer
  | liftFrom pointer window => exact routing.clean_liftFrom pointer window
  | hover window device pointer => exact routing.clean_hover window device pointer
  | unhover device pointer => exact routing.clean_unhover device pointer
  | revise window change => exact routing.clean_revise window change
  | touch window flags pointers time =>
      exact Outcome.Clean.of_done (routing.violation_touch pointers window flags time)
  | removeToken token => exact Outcome.Clean.of_done (routing.violation_removeToken token)
  | cancelExcept pointers token =>
      exact Outcome.Clean.of_done (routing.violation_cancelExcept token pointers)
  | pilfer token => exact Outcome.Clean.of_done (routing.violation_pilfer token)
  | resolveClaims => exact Outcome.Clean.of_done routing.violation_resolveClaims
  | reset | endHovers | prune | commit | unhoverDevice => exact Outcome.Clean.of_done rfl

/-- Operations of which only the first can be refused are refused as a whole. -/
theorem Operation.clean_runAll {first : Operation} {rest : List Operation}
    (done : ∀ moved, (runAll rest moved).violation = none) (routing : Routing) :
    (runAll (first :: rest) routing).Clean routing :=
  (first.clean_apply routing).andThen done

namespace Gesture

/-- An action of a script is refused as a whole: its pointer is looked at before the first of its
operations, or by it. -/
theorem clean_play (step : Timed) (routing : Routing) : (step.play routing).Clean routing := by
  have nothing : ∀ moved, (Operation.runAll [] moved).violation = none := fun _ => rfl
  obtain ⟨time, action⟩ := step
  cases stands : action.operations time with
  | error violation =>
      rw [Timed.play, stands]
      exact Outcome.clean_refuse _ _
  | ok operations =>
      rw [Timed.play, stands]
      cases action with
      | down window pointer flags =>
          obtain ⟨id, _, rfl⟩ := Action.operations_down_eq_ok_iff.mp stands
          exact Operation.clean_runAll nothing routing
      | slip source destination pointer =>
          obtain ⟨id, _, rfl⟩ := Action.operations_slip_eq_ok_iff.mp stands
          apply Operation.clean_runAll
          intro moved
          simp [Operation.runAll, Operation.apply, Outcome.andThen, Routing.violation_touch]
      | up pointer =>
          cases stands
          apply Operation.clean_runAll
          intro moved
          rfl
      | outside | hoverEnter | hoverExit | pilfer | commit =>
          cases stands
          exact Operation.clean_runAll nothing routing

/-- A script that stops at a violation has left what the actions before that violation left, and
the violation. -/
theorem playAll_of_violation {steps : List Timed} {routing : Routing} {violation : Violation}
    (stopped : (playAll steps routing).violation = some violation) :
    ∃ earlier step later, steps = earlier ++ step :: later ∧
      (playAll earlier routing).violation = none ∧
      step.play (playAll earlier routing).routing =
        (playAll earlier routing).routing.refuse violation ∧
      playAll steps routing = { playAll earlier routing with violation := some violation } := by
  induction steps generalizing routing with
  | nil => cases stopped
  | cons step rest ih =>
      cases here : (step.play routing).violation with
      | some found =>
          have refused := clean_play step routing found here
          have ends : playAll (step :: rest) routing = step.play routing :=
            Outcome.andThen_of_violation here _
          rw [ends, here] at stopped
          cases stopped
          refine ⟨[], step, rest, rfl, rfl, refused, ?_⟩
          rw [ends, refused]
          rfl
      | none =>
          have goesOn : ∀ steps : List Timed, playAll (step :: steps) routing =
              { playAll steps (step.play routing).routing with
                notices := (step.play routing).notices ++
                  (playAll steps (step.play routing).routing).notices } :=
            fun _ => Outcome.andThen_of_done here _
          rw [goesOn] at stopped
          obtain ⟨earlier, last, later, rfl, done, refused, left⟩ := ih stopped
          refine ⟨step :: earlier, last, later, rfl, ?_, ?_, ?_⟩
          · rw [goesOn]
            exact done
          · rw [goesOn]
            exact refused
          · rw [goesOn, goesOn, left]

end Gesture

namespace Router

variable {router : Router}

/-- Refusing reaches neither the routing nor the monitor, and nothing leaves the monitor. -/
theorem perform_of_refused {action : Routing → Outcome} {violation : Violation}
    (refused : action router.routing = router.routing.refuse violation) :
    router.perform action =
      { router, events := [], claimed := ∅, violation := some violation } := by
  simp [perform, refused, Routing.refuse, Monitor.observeAll]

/-- A violation leaves no trace. An operation that breaks a rule, whatever numbers it was given,
leaves the routing as it was, with every target and every hovering device, records nothing and
warns of nothing. A script that breaks one leaves exactly what its actions before that one leave,
events included, and the action at which it stopped has not begun. -/
theorem violations_leave_no_trace (router : Router) :
    (∀ operation violation, (router.step operation).violation = some violation →
      (router.step operation).router = router ∧ (router.step operation).events = []) ∧
    (∀ (gesture : Gesture) violation,
      (router.perform gesture.play).violation = some violation →
        ∃ earlier stopped later, gesture.steps = earlier ++ stopped :: later ∧
          (router.perform (Gesture.playAll earlier)).violation = none ∧
          (router.perform gesture.play).router =
            (router.perform (Gesture.playAll earlier)).router ∧
          (router.perform gesture.play).events =
            (router.perform (Gesture.playAll earlier)).events ∧
          (router.perform (Gesture.playAll earlier)).router.perform stopped.play =
            { router := (router.perform (Gesture.playAll earlier)).router
              events := []
              claimed := ∅
              violation := some violation }) := by
  constructor
  · intro operation violation violates
    have refused := operation.clean_apply router.routing violation violates
    rw [step, perform_of_refused refused]
    exact ⟨rfl, rfl⟩
  · intro gesture violation violates
    obtain ⟨earlier, stopped, later, split, done, refused, left⟩ :=
      Gesture.playAll_of_violation violates
    refine ⟨earlier, stopped, later, split, done, ?_, ?_, perform_of_refused refused⟩
    · simp only [perform, Gesture.play, left]
    · simp only [perform, Gesture.play, left]

/-- A router that records, with a spy that receives pointer 1. -/
def watched : Router :=
  ((make { records := true }).step (.touch .spy .none (.singleton 1) none)).router

/-- Pointer 2 lands in the spy and is about to slip into the app under a number that names no
pointer; then it is lifted. -/
def misspelledSlip : Gesture :=
  [Gesture.Action.down .spy 2 Gesture.landingFlags, .slip .spy .app 32, .up 2].foldl
    Gesture.append (.make none none)

/-- Lifting a pointer that cannot be is refused with the spy in place, a hover of no device adds no
target, and the misspelled slip stops its script between two actions. -/
theorem watched_refuses_bad_numbers :
    ((watched.step (.lift 32)).router = watched ∧ (watched.step (.lift 32)).events = []) ∧
    ((watched.step (.hover .app .nan 0)).router = watched ∧
      (watched.step (.hover .app .nan 0)).events = []) ∧
    ∃ earlier stopped later, misspelledSlip.steps = earlier ++ stopped :: later ∧
      (watched.perform misspelledSlip.play).router =
        (watched.perform (Gesture.playAll earlier)).router := by
  refine ⟨(violations_leave_no_trace watched).1 (.lift 32) (.pointerOutOfRange 32) (by decide),
    (violations_leave_no_trace watched).1 (.hover .app .nan 0) (.deviceNotSafe .nan) (by decide),
    ?_⟩
  obtain ⟨earlier, stopped, later, split, _, same, _⟩ :=
    (violations_leave_no_trace watched).2 misspelledSlip (.pointerOutOfRange 32) (by decide)
  exact ⟨earlier, stopped, later, split, same⟩

end Router

end PointerRouting
