/-
Module: PointerRouting.Proofs.Scripts
Purpose: What scripts leave, as histories. A script that is played, whether or not a violation stops
  it, leaves what some of the operations that its actions stand for leave, carried out one after
  another; so whatever holds along every history holds in every state that a script leads to.
Main exports: Operation.exists_performed, Gesture.exists_performed_play, Gesture.exists_history,
  Gesture.nodup_windows_playAll, Gesture.routing_playAll_concat
-/
import PointerRouting.Gesture
import PointerRouting.Proofs.Histories

namespace PointerRouting

/-- Operations carried out up to a violation leave what the first of them leave as a history. -/
theorem Operation.exists_performed (operations : List Operation) (routing : Routing) :
    ∃ performed, performed <+: operations ∧
      (runAll operations routing).routing = routing.after performed := by
  induction operations generalizing routing with
  | nil => exact ⟨[], List.prefix_refl _, rfl⟩
  | cons operation rest ih =>
      cases ends : (operation.apply routing).violation with
      | some violation =>
          refine ⟨[operation], List.prefix_append [operation] rest, ?_⟩
          rw [runAll, Outcome.andThen_of_violation ends]
          rfl
      | none =>
          obtain ⟨performed, first, left⟩ := ih (routing.next operation)
          refine ⟨operation :: performed, List.cons_prefix_cons.mpr ⟨rfl, first⟩, ?_⟩
          rw [runAll, Outcome.andThen_of_done ends]
          exact left

namespace Gesture

variable (step : Timed) (routing : Routing)

/-- An action leaves what some of the operations that it stands for leave as a history. -/
theorem exists_performed_play :
    ∃ performed : List Operation, (step.play routing).routing = routing.after performed ∧
      ∀ operation ∈ performed, ∃ operations,
        step.action.operations step.time = .ok operations ∧ operation ∈ operations := by
  cases stands : step.action.operations step.time with
  | error violation =>
      refine ⟨[], ?_, by simp⟩
      rw [Timed.play, stands]
      rfl
  | ok operations =>
      obtain ⟨performed, first, left⟩ := Operation.exists_performed operations routing
      refine ⟨performed, ?_, fun operation done => ⟨operations, rfl, first.subset done⟩⟩
      rw [Timed.play, stands]
      exact left

/-- A script leaves what some history leaves. -/
theorem exists_history (steps : List Timed) :
    ∃ history, (playAll steps routing).routing = routing.after history := by
  induction steps generalizing routing with
  | nil => exact ⟨[], rfl⟩
  | cons step rest ih =>
      obtain ⟨performed, left, _⟩ := exists_performed_play step routing
      cases ends : (step.play routing).violation with
      | some violation =>
          refine ⟨performed, ?_⟩
          rw [playAll, Outcome.andThen_of_violation ends, left]
      | none =>
          obtain ⟨history, leftAll⟩ := ih (step.play routing).routing
          refine ⟨performed ++ history, ?_⟩
          rw [playAll, Outcome.andThen_of_done ends, Routing.after_append, ← left]
          exact leftAll

/-- No script gives a window a second target. -/
theorem nodup_windows_playAll (steps : List Timed)
    (nodup : (routing.targets.map Target.window).Nodup) :
    ((playAll steps routing).routing.targets.map Target.window).Nodup := by
  obtain ⟨history, left⟩ := exists_history routing steps
  rw [left]
  exact Routing.nodup_windows_after nodup

/-- An action at the end of a script is played after the rest, if the rest is played to its end. -/
theorem routing_playAll_concat {steps : List Timed}
    (done : (playAll steps routing).violation = none) :
    (playAll (steps ++ [step]) routing).routing =
      (step.play (playAll steps routing).routing).routing := by
  rw [playAll_append, Outcome.andThen_of_done done, playAll]
  cases ends : (step.play (playAll steps routing).routing).violation with
  | some violation => rw [Outcome.andThen_of_violation ends]
  | none =>
      rw [Outcome.andThen_of_done ends]
      rfl

end Gesture

end PointerRouting
