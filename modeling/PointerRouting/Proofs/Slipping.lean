/-
Module: PointerRouting.Proofs.Slipping
Purpose: What a slip and the commit after it leave. The window a pointer slips into stays, as the
  foreground target of a touch that is delivered as it is. The window it slips out of goes, unless
  a pointer has slipped into it, and nothing been committed, since: an exit takes the as-is mode
  only, and commit keeps what was entered.
Main exports: Routing.find?_commit, Routing.entered_of_next, Gesture.Action.enters,
  Gesture.entered_of_playAll, Gesture.slip_back_stays, Gesture.slipping_hands_over
-/
import Mathlib.Data.List.DropRight
import PointerRouting.Proofs.GestureEnd
import PointerRouting.Proofs.Landings
import PointerRouting.Proofs.Scripts

namespace PointerRouting

/-- Whether an operation lands in a window with the mode of a slippery entry. -/
def Operation.enters (window : Window) : Operation → Bool
  | touch target flags _ _ => target = window ∧ flags.carries .asSlipperyEnter
  | _ => false

namespace Routing

variable {routing : Routing}

/-- Committing settles a window's target if it is dispatched to directly, and removes it if not. -/
theorem find?_commit (nodup : (routing.targets.map Target.window).Nodup) (window : Window) :
    (routing.next .commit).find? window =
      ((routing.find? window).filter Target.isDirect).map Target.settle := by
  apply Option.ext
  intro target
  rw [find?_eq_some_iff (nodup_windows_next nodup), Option.map_eq_some_iff]
  simp only [Option.filter_eq_some_iff, find?_eq_some_iff nodup]
  constructor
  · rintro ⟨left, rfl⟩
    obtain ⟨old, inTargets, direct, rfl⟩ := mem_next_commit.mp left
    exact ⟨old, ⟨⟨inTargets, rfl⟩, direct⟩, rfl⟩
  · rintro ⟨old, ⟨⟨inTargets, rfl⟩, direct⟩, rfl⟩
    exact ⟨mem_next_commit.mpr ⟨old, inTargets, direct, rfl⟩, rfl⟩

/-- After a commit no target carries the mode of a slippery entry. -/
theorem not_entered_commit {target : Target} (left : target ∈ (routing.next .commit).targets) :
    target.flags.carries .asSlipperyEnter = false := by
  obtain ⟨old, _, _, rfl⟩ := mem_next_commit.mp left
  simp [Target.carries_settle]

/-- A target carries the mode of a slippery entry after one of the routing's own operations if it
did before or if the operation enters its window. -/
theorem entered_of_next {operation : Operation} (own : operation.isOwn = true) {target : Target}
    (inTargets : target ∈ (routing.next operation).targets)
    (entered : target.flags.carries .asSlipperyEnter = true) :
    (∃ old ∈ routing.targets, old.window = target.window ∧
        old.flags.carries .asSlipperyEnter = true) ∨
      operation.enters target.window = true := by
  rcases mem_next inTargets with ⟨old, inOld, alters⟩ | adds
  · have permits := alters.permits own
    rcases permits.flags with same | rfl | ⟨flags, pointers, time, rfl⟩
    · exact .inl ⟨old, inOld, permits.window.symm, same ▸ entered⟩
    · rw [not_entered_commit inTargets] at entered
      cases entered
    · rcases alters with rfl | ⟨_, rfl⟩
      · exact .inl ⟨target, inOld, rfl, entered⟩
      · rw [Target.carries_merge _ _ _ _ (by decide), Bool.or_eq_true] at entered
        rcases entered with before | lands
        · exact .inl ⟨old, inOld, rfl, before⟩
        · exact .inr (decide_eq_true ⟨rfl, lands⟩)
  · cases operation with
    | touch window flags pointers time =>
        obtain ⟨_, rfl⟩ := adds
        exact .inr (decide_eq_true ⟨rfl, entered⟩)
    | hover window device pointer =>
        obtain ⟨_, id, _, rfl⟩ := adds
        have unentered := Mask.carries_none .asSlipperyEnter
        rw [Target.hover, unentered] at entered
        cases entered
    | _ => cases adds

/-- Along a history of the routing's own operations, a target comes to carry the mode of a slippery
entry only where its window is entered. -/
theorem entered_of_after {history : List Operation}
    (own : ∀ operation ∈ history, operation.isOwn = true) {target : Target}
    (inTargets : target ∈ (routing.after history).targets)
    (entered : target.flags.carries .asSlipperyEnter = true) :
    (∃ old ∈ routing.targets, old.window = target.window ∧
        old.flags.carries .asSlipperyEnter = true) ∨
      ∃ operation ∈ history, operation.enters target.window = true := by
  induction history generalizing routing with
  | nil => exact .inl ⟨target, inTargets, rfl, entered⟩
  | cons operation history ih =>
      obtain ⟨ownFirst, ownRest⟩ := List.forall_mem_cons.mp own
      rcases ih ownRest inTargets with ⟨between, inBetween, same, enteredThen⟩ | later
      · rw [← same]
        rcases entered_of_next ownFirst inBetween enteredThen with before | enters
        · exact .inl before
        · exact .inr ⟨operation, List.mem_cons_self, enters⟩
      · obtain ⟨other, listed, enters⟩ := later
        exact .inr ⟨other, List.mem_cons_of_mem _ listed, enters⟩

end Routing

namespace Gesture

/-- Whether an action makes a window one that a pointer has slipped into: by a slip, or by a landing
that says so. -/
def Action.enters (window : Window) : Action → Bool
  | down target _ flags => target = window ∧ flags.carries .asSlipperyEnter
  | slip _ destination _ => destination = window
  | _ => false

/-- The operations that an action stands for are the routing's own, and enter no window that the
action does not enter. -/
theorem Action.of_mem_operations {action : Action} {time : Number} {operations : List Operation}
    (stands : action.operations time = .ok operations) {operation : Operation}
    (listed : operation ∈ operations) :
    operation.isOwn = true ∧
      ∀ window, operation.enters window = true → action.enters window = true := by
  cases action with
  | down target pointer flags =>
      obtain ⟨id, _, rfl⟩ := operations_down_eq_ok_iff.mp stands
      obtain rfl := List.mem_singleton.mp listed
      exact ⟨rfl, fun _ enters => enters⟩
  | slip source destination pointer =>
      obtain ⟨id, _, rfl⟩ := operations_slip_eq_ok_iff.mp stands
      rcases List.mem_pair.mp listed with rfl | rfl
      · exact ⟨rfl, by simp [Operation.enters]⟩
      · exact ⟨rfl, by simp [Operation.enters, enters]⟩
  | outside target =>
      cases stands
      obtain rfl := List.mem_singleton.mp listed
      exact ⟨rfl, by simp [Operation.enters]⟩
  | hoverEnter | hoverExit | pilfer | commit =>
      cases stands
      obtain rfl := List.mem_singleton.mp listed
      exact ⟨rfl, fun _ enters => enters⟩
  | up pointer =>
      cases stands
      rcases List.mem_pair.mp listed with rfl | rfl
      · exact ⟨rfl, fun _ enters => enters⟩
      · exact ⟨rfl, fun _ enters => enters⟩

/-- An action leaves a target with the mode of a slippery entry only if it was there before or the
action enters the window. -/
theorem entered_of_play {step : Timed} {routing : Routing} {target : Target}
    (inTargets : target ∈ (step.play routing).routing.targets)
    (entered : target.flags.carries .asSlipperyEnter = true) :
    (∃ old ∈ routing.targets, old.window = target.window ∧
        old.flags.carries .asSlipperyEnter = true) ∨
      step.action.enters target.window = true := by
  obtain ⟨performed, left, stand⟩ := exists_performed_play step routing
  rw [left] at inTargets
  have own : ∀ operation ∈ performed, operation.isOwn = true := by
    intro operation done
    obtain ⟨operations, stands, listed⟩ := stand operation done
    exact (Action.of_mem_operations stands listed).1
  rcases Routing.entered_of_after own inTargets entered with before | ⟨operation, done, enters⟩
  · exact .inl before
  · obtain ⟨operations, stands, listed⟩ := stand operation done
    exact .inr ((Action.of_mem_operations stands listed).2 _ enters)

/-- A script that is played to its end leaves a target with the mode of a slippery entry only if it
has entered the window since it last committed. -/
theorem entered_of_playAll {steps : List Timed} (done : (playAll steps {}).violation = none)
    {target : Target} (inTargets : target ∈ (playAll steps {}).routing.targets)
    (entered : target.flags.carries .asSlipperyEnter = true) :
    ∃ step ∈ steps.rtakeWhile fun step => step.action ≠ .commit,
      step.action.enters target.window = true := by
  -- The induction is from the end of the script, where a commit makes a new start.
  induction steps using List.reverseRecOn generalizing target with
  | nil => cases inTargets
  | append_singleton steps step ih =>
      cases first : (playAll steps {}).violation with
      | some violation =>
          rw [playAll_append, Outcome.andThen_of_violation first, first] at done
          cases done
      | none =>
          rw [routing_playAll_concat step {} first] at inTargets
          by_cases commits : step.action = .commit
          · have settled : (step.play (playAll steps {}).routing).routing =
                (playAll steps {}).routing.next .commit := by
              rw [Timed.play, commits]
              rfl
            rw [settled] at inTargets
            rw [Routing.not_entered_commit inTargets] at entered
            cases entered
          · rw [List.rtakeWhile_concat_pos _ _ _ (by simpa using commits)]
            rcases entered_of_play inTargets entered with ⟨old, inOld, same, enteredThen⟩ | enters
            · obtain ⟨earlier, since, enters⟩ := ih first inOld enteredThen
              exact ⟨earlier, List.mem_append_left _ since, same ▸ enters⟩
            · exact ⟨step, by simp, enters⟩

/-- The script has not entered a window since it last committed, so its target does not carry the
mode of a slippery entry. -/
theorem share_of_unentered {steps : List Timed} (done : (playAll steps {}).violation = none)
    {window : Window}
    (unentered : ∀ step ∈ steps.rtakeWhile fun step => step.action ≠ .commit,
      step.action.enters window = false) :
    ((playAll steps {}).routing.share window).flags.carries .asSlipperyEnter = false := by
  cases isFound : (playAll steps {}).routing.find? window with
  | none => rw [Routing.share_of_absent isFound, Mask.carries_none]
  | some target =>
      obtain ⟨inTargets, rfl⟩ := Routing.window_of_find? isFound
      rw [Routing.share_of_found isFound, ← Bool.not_eq_true]
      intro entered
      obtain ⟨step, since, enters⟩ := entered_of_playAll done inTargets entered
      rw [unentered step since] at enters
      cases enters

/-- How a pointer lands in the window that it slips out of. -/
def slipOut (pointer : PointerId) : Landing :=
  { flags := DispatchFlag.mask [.asSlipperyExit], pointers := .singleton pointer }

/-- How it lands in the window that it slips into. -/
def slipIn (pointer : PointerId) (time : Number) : Landing :=
  { flags := DispatchFlag.mask [.asSlipperyEnter, .foreground]
    pointers := .singleton pointer
    time := some time }

section

variable (source destination : Window) (pointer : PointerId) (slipTime commitTime : Number)
  (routing : Routing)

/-- The routing after a slip. -/
def slipped : Routing :=
  (routing.next ((slipOut pointer).operation source)).next
    ((slipIn pointer slipTime).operation destination)

/-- A slip and the commit after it, of a pointer that can be, are not refused. -/
theorem playAll_slip_commit :
    let outcome := playAll [⟨slipTime, .slip source destination pointer.number⟩,
      ⟨commitTime, .commit⟩] routing
    outcome.violation = none ∧
      outcome.routing = (slipped source destination pointer slipTime routing).next .commit := by
  have stands : Action.operations slipTime (.slip source destination pointer.number) =
      .ok [(slipOut pointer).operation source,
        (slipIn pointer slipTime).operation destination] := by
    rw [Action.operations, checkPointer_number]
    rfl
  have touches : ∀ operation ∈ [(slipOut pointer).operation source,
      (slipIn pointer slipTime).operation destination], operation.Succeeds := by
    simpa using ⟨fun routing => routing.violation_touch _ _ _ _,
      fun routing => routing.violation_touch _ _ _ _⟩
  obtain ⟨done, left⟩ := Operation.runAll_of_succeeds touches routing
  simp only [playAll, Timed.play, stands]
  rw [Outcome.andThen_of_done done, left]
  exact ⟨rfl, rfl⟩

/-- The window that a pointer slips out of keeps the mode of a slippery entry, if it has it, and no
other that would let it stay. -/
theorem isDirect_slipOut :
    (routing.landed source (slipOut pointer)).isDirect =
      (routing.share source).flags.carries .asSlipperyEnter := by
  have exits : (slipOut pointer).exits = true := by
    simp [slipOut, Landing.exits]
  -- The as-is mode is taken from a target that is there, and a new target does not get it.
  have noAsIs : (routing.landed source (slipOut pointer)).flags.carries .asIs = false := by
    rw [← Bool.not_eq_true, Routing.carries_asIs_landed, exits]
    simp [slipOut]
  rw [Target.isDirect_eq, noAsIs, Bool.false_or, Routing.carries_landed (by decide)]
  simp [slipOut]

/-- The window that a pointer slips into is dispatched to directly. -/
theorem isDirect_slipIn :
    (routing.landed destination (slipIn pointer slipTime)).isDirect = true := by
  have enters : (slipIn pointer slipTime).flags.carries .asSlipperyEnter = true := by
    simp [slipIn]
  have entered : (routing.landed destination (slipIn pointer slipTime)).flags.carries
      .asSlipperyEnter = true := by
    rw [Routing.carries_landed (by decide), enters, Bool.or_true]
  rw [Target.isDirect_eq, entered, Bool.or_true]

variable {routing}

theorem find?_source_of_slip (nodup : (routing.targets.map Target.window).Nodup)
    (apart : source ≠ destination) :
    ((slipped source destination pointer slipTime routing).next .commit).find? source =
      if (routing.share source).flags.carries .asSlipperyEnter = true then
        some (routing.landed source (slipOut pointer)).settle
      else none := by
  rw [slipped,
    Routing.find?_commit (Routing.nodup_windows_next (Routing.nodup_windows_next nodup)),
    Routing.find?_next_landing_of_ne apart, Routing.find?_next_landing, Option.filter_some,
    isDirect_slipOut]
  split <;> rfl

theorem find?_destination_of_slip (nodup : (routing.targets.map Target.window).Nodup) :
    ((slipped source destination pointer slipTime routing).next .commit).find? destination =
      some ((routing.next ((slipOut pointer).operation source)).landed destination
        (slipIn pointer slipTime)).settle := by
  rw [slipped,
    Routing.find?_commit (Routing.nodup_windows_next (Routing.nodup_windows_next nodup)),
    Routing.find?_next_landing, Option.filter_some, isDirect_slipIn]
  rfl

end

/-- A pointer slips from the app into the spy, at 0. -/
def appIntoSpy : Gesture := (make none none).append (.slip .app .spy 0)

/-- That a slip and the commit after it always leave the window that the pointer slipped out of
without a target is wrong: the pointer may have slipped into it just before. -/
theorem slip_back_stays :
    ¬∀ (gesture : Gesture) (source destination : Window) (pointer : PointerId)
      (slipTime commitTime : Number), source ≠ destination →
        let moved := (playAll [⟨slipTime, .slip source destination pointer.number⟩,
          ⟨commitTime, .commit⟩] (gesture.play {}).routing).routing
        moved.find? source = none ∧
          ∃ entered, moved.find? destination = some entered ∧ pointer ∈ entered.touching ∧
            entered.flags.carries .foreground = true ∧
            entered.flags.word &&& Dispatch.modeBits = DispatchFlag.asIs.bit := by
  intro leaves
  have left := (leaves appIntoSpy .spy .app 0 1 2 (by decide)).1
  exact absurd left (by decide)

/-- A slip hands a pointer over. In every state that a script can lead to, a slip of a pointer that
can be and the commit after it are not refused, and then the window that the pointer slipped into
receives it, is in the foreground and has the as-is mode as its only mode. The window that the pointer
slipped out of takes no part any more, unless it still carried the mode of a slippery entry; in that
case it stays, receives the pointer as well and has the as-is mode as its only mode. It does not carry
that mode if the script has been played to its end and has not entered the window since it last
committed. -/
theorem slipping_hands_over (gesture : Gesture) {source destination : Window}
    (apart : source ≠ destination) (pointer : PointerId) (slipTime commitTime : Number) :
    let before := (gesture.play {}).routing
    let outcome := playAll [⟨slipTime, .slip source destination pointer.number⟩,
      ⟨commitTime, .commit⟩] before
    outcome.violation = none ∧
    (∃ entered, outcome.routing.find? destination = some entered ∧
      pointer ∈ entered.touching ∧ entered.flags.carries .foreground = true ∧
      entered.flags.word &&& Dispatch.modeBits = DispatchFlag.asIs.bit) ∧
    (outcome.routing.find? source = none ↔
      (before.share source).flags.carries .asSlipperyEnter = false) ∧
    (∀ left, outcome.routing.find? source = some left →
      pointer ∈ left.touching ∧ left.flags.word &&& Dispatch.modeBits = DispatchFlag.asIs.bit) ∧
    ((gesture.play {}).violation = none →
      (∀ step ∈ gesture.steps.rtakeWhile fun step => step.action ≠ .commit,
        step.action.enters source = false) →
      outcome.routing.find? source = none) := by
  intro before outcome
  obtain ⟨done, left⟩ : outcome.violation = none ∧ outcome.routing = _ :=
    playAll_slip_commit source destination pointer slipTime commitTime before
  have nodup : (before.targets.map Target.window).Nodup :=
    nodup_windows_playAll {} gesture.steps (by simp)
  have atSource := find?_source_of_slip source destination pointer slipTime nodup apart
  have atDestination := find?_destination_of_slip source destination pointer slipTime nodup
  rw [← left] at atSource atDestination
  have gone : outcome.routing.find? source = none ↔
      (before.share source).flags.carries .asSlipperyEnter = false := by
    rw [atSource]
    simp
  refine ⟨done, ⟨_, atDestination, ?_, ?_, Target.modes_settle _⟩, gone, ?_, ?_⟩
  · exact Routing.mem_touching_landed (PointerSet.mem_singleton.mpr rfl)
  · rw [Target.carries_settle, Routing.carries_landed (by decide)]
    simp [slipIn]
  · intro stays found
    rw [atSource] at found
    split at found
    · cases found
      exact ⟨Routing.mem_touching_landed (PointerSet.mem_singleton.mpr rfl),
        Target.modes_settle _⟩
    · cases found
  · intro toItsEnd unentered
    exact gone.mpr (share_of_unentered toItsEnd unentered)

/-- The pointer that has slipped into the spy slips back. The app receives it again; the spy stays,
as nothing has been committed in between, and with a commit in between it would go. -/
theorem spy_goes_after_commit :
    let back (time : Number) : List Timed :=
      [⟨time, .slip .spy .app (PointerId.number 0)⟩, ⟨time, .commit⟩]
    let soon := (playAll (back 1) (appIntoSpy.play {}).routing).routing
    let later := (playAll (back 2) ((appIntoSpy.append .commit).play {}).routing).routing
    (∃ entered, soon.find? .app = some entered ∧ 0 ∈ entered.touching) ∧
      soon.find? .spy ≠ none ∧ later.find? .spy = none := by
  have apart : Window.spy ≠ .app := by decide
  obtain ⟨_, ⟨entered, found, touched, _⟩, gone, _⟩ := slipping_hands_over appIntoSpy apart 0 1 1
  obtain ⟨_, _, _, _, leaves⟩ := slipping_hands_over (appIntoSpy.append .commit) apart 0 2 2
  refine ⟨⟨entered, found, touched⟩, ?_, leaves (by decide) (by decide)⟩
  rw [Ne, gone]
  decide

end Gesture

end PointerRouting
