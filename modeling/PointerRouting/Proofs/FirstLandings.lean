/-
Module: PointerRouting.Proofs.FirstLandings
Purpose: Times in gestures. A script gives its actions times at an even pace, for as long as these
  stay below 2^53. When it has been played, the time of each target is that of the first action, of
  those since the target was made, by which a pointer comes down in its window or slips into it; no
  other action gives a target a time.
Main exports: Gesture.wholeMilliseconds, Gesture.script, Gesture.Action.landsIn,
  Gesture.TakesPartSince, Routing.downTime?_touch, Gesture.downTime?_play, Gesture.downTime?_playAll,
  Gesture.times_of_gestures
-/
import PointerRouting.Proofs.Atomicity
import PointerRouting.Proofs.ExactNumbers
import PointerRouting.Proofs.Landings
import PointerRouting.Proofs.PointerAlgebra
import PointerRouting.Proofs.Scripts
import PointerRouting.Proofs.Writers

namespace PointerRouting

namespace Routing

variable {routing : Routing} {operation : Operation} {window : Window}

theorem downTime?_eq_share (routing : Routing) (window : Window) :
    routing.downTime? window = (routing.share window).downTime := by
  cases isFound : routing.find? window with
  | none => rw [downTime?, isFound, share_of_absent isFound, Option.bind_none]
  | some target => rw [downTime?, isFound, share_of_found isFound, Option.bind_some]

/-- A touch gives its time to the window that it is addressed to, unless that has one. -/
theorem downTime?_touch (target : Window) (flags : Mask) (pointers : PointerSet)
    (time : Option Number) :
    (routing.next (.touch target flags pointers time)).downTime? window =
      (routing.downTime? window).or (if target = window then time else none) := by
  let landing : Landing := { flags, pointers, time }
  have touch : Operation.touch target flags pointers time = landing.operation target := rfl
  rw [touch]
  by_cases here : target = window
  · subst here
    obtain ⟨flags, landed⟩ := exists_landed_eq routing target landing
    rw [downTime?, find?_next_landing, Option.bind_some, landed, downTime?_eq_share, if_pos rfl]
  · rw [downTime?, find?_next_landing_of_ne (Ne.symm here), ← downTime?, if_neg here,
      Option.or_none]

/-- An operation that touches no window leaves the time of every window that takes part after it. -/
theorem downTime?_of_untouched (own : operation.isOwn = true)
    (untouched : ∀ target flags pointers time, operation ≠ .touch target flags pointers time)
    (nodup : (routing.targets.map Target.window).Nodup)
    (present : (routing.next operation).find? window ≠ none) :
    (routing.next operation).downTime? window = routing.downTime? window := by
  obtain ⟨new, isFound⟩ := Option.ne_none_iff_exists'.mp present
  obtain ⟨inTargets, rfl⟩ := window_of_find? isFound
  rw [downTime?, isFound, Option.bind_some]
  rcases mem_next inTargets with ⟨old, inOld, alters⟩ | adds
  · have permits := alters.permits own
    have was : routing.find? new.window = some old :=
      (find?_eq_some_iff nodup).mpr ⟨inOld, permits.window.symm⟩
    rw [downTime?, was, Option.bind_some]
    rcases permits.downTime with same | ⟨_, flags, pointers, time, isTouch, _⟩
    · exact same
    · exact absurd isTouch (untouched _ _ _ _)
  · rw [downTime?, adds.find?_eq_none, Option.bind_none]
    cases known : new.downTime with
    | none => rfl
    | some time =>
        obtain ⟨flags, pointers, isTouch⟩ := adds.eq_touch_of_downTime known
        exact absurd isTouch (untouched _ _ _ _)

/-- What takes part after an operation that adds no target took part before it. -/
theorem present_of_next (adds : operation.enters? = none)
    (present : (routing.next operation).find? window ≠ none) : routing.find? window ≠ none := by
  obtain ⟨new, isFound⟩ := Option.ne_none_iff_exists'.mp present
  obtain ⟨inTargets, rfl⟩ := window_of_find? isFound
  rcases mem_next inTargets with ⟨old, inOld, alters⟩ | isNew
  · rw [alters.bounds.window, ← mem_windows_iff]
    exact List.mem_map_of_mem inOld
  · rcases isNew.touch_or_hover with ⟨_, _, _, rfl⟩ | ⟨_, _, rfl⟩ <;> cases adds

end Routing

/-- Operations that are all carried out leave what they leave as a history. -/
theorem Operation.routing_runAll_of_done {operations : List Operation} {routing : Routing}
    (done : (runAll operations routing).violation = none) :
    (runAll operations routing).routing = routing.after operations := by
  induction operations generalizing routing with
  | nil => rfl
  | cons operation rest ih =>
      rw [runAll, Outcome.violation_andThen_eq_none_iff] at done
      rw [runAll, Outcome.andThen_of_done done.1]
      exact ih done.2

namespace Gesture

/-- A time as a count of whole milliseconds; the fallback stands in for one that is missing, negative
or not finite. -/
def wholeMilliseconds (fallback : Nat) : Option Number → Nat
  | some (.finite value) => if 0 ≤ value then ⌊value⌋.toNat else fallback
  | _ => fallback

theorem wholeTime_eq (fallback : Nat) (time : Option Number) :
    wholeTime (.ofInt fallback) time = .ofInt (wholeMilliseconds fallback time) := by
  rcases time with _ | _ | _ | value
  · rfl
  · rfl
  · rfl
  · by_cases nonneg : 0 ≤ value
    · have wholePart : (⌊value⌋.toNat : Int) = ⌊value⌋ :=
        Int.toNat_of_nonneg (Int.floor_nonneg.mpr nonneg)
      simp [wholeTime, wholeMilliseconds, nonneg, wholePart, Number.isFinite, Number.truncate,
        Number.truncateValue_eq, Number.below]
    · simp [wholeTime, wholeMilliseconds, nonneg, Number.isFinite, Number.below]

/-- A script written action by action. -/
def script (start pace : Option Number) (actions : List Action) : Gesture :=
  actions.foldl append (make start pace)

section

variable {start pace : Option Number} {actions : List Action}

theorem script_concat (start pace : Option Number) (actions : List Action) (action : Action) :
    script start pace (actions ++ [action]) = (script start pace actions).append action := by
  rw [script, List.foldl_concat]
  rfl

theorem pace_script (start pace : Option Number) (actions : List Action) :
    (script start pace actions).pace = wholeTime 1 pace := by
  induction actions using List.reverseRecOn with
  | nil => rfl
  | append_singleton actions action ih =>
      rw [script_concat]
      exact ih

/-- A script holds the actions that were written, in order. -/
theorem actions_script (start pace : Option Number) (actions : List Action) :
    (script start pace actions).steps.map Timed.action = actions := by
  induction actions using List.reverseRecOn with
  | nil => rfl
  | append_singleton actions action ih =>
      rw [script_concat, append, List.map_append, ih, List.map_singleton]

theorem length_steps_script (start pace : Option Number) (actions : List Action) :
    (script start pace actions).steps.length = actions.length := by
  rw [← List.length_map Timed.action, actions_script]

/-- The next action comes after as many paces as there are actions already. -/
theorem nextTime_script
    (small : wholeMilliseconds 0 start + actions.length * wholeMilliseconds 1 pace < 2 ^ 53) :
    (script start pace actions).nextTime =
      .ofInt (wholeMilliseconds 0 start + actions.length * wholeMilliseconds 1 pace : Nat) := by
  induction actions using List.reverseRecOn with
  | nil =>
      rw [List.length_nil, Nat.zero_mul, Nat.add_zero]
      exact wholeTime_eq 0 start
  | append_singleton actions action ih =>
      rw [List.length_append, List.length_singleton, Nat.succ_mul, ← Nat.add_assoc] at small ⊢
      have paces : wholeTime 1 pace = .ofInt (wholeMilliseconds 1 pace) := wholeTime_eq 1 pace
      rw [script_concat, append, ih (by omega), pace_script, paces, Number.add_ofInt]
      · push_cast
        rfl
      · rw [abs_lt]
        omega

/-- An action has the time that was next when it was written. -/
theorem time_of_listed {index : Nat} {step : Timed}
    (listed : (script start pace actions).steps[index]? = some step) :
    step.time = (script start pace (actions.take index)).nextTime := by
  induction actions using List.reverseRecOn with
  | nil => cases listed
  | append_singleton actions action ih =>
      rw [script_concat, append] at listed
      rcases Nat.lt_or_ge index actions.length with before | last
      · rw [List.getElem?_append_left (by rwa [length_steps_script])] at listed
        rw [ih listed, List.take_append_of_le_length before.le]
      · have bound := (List.getElem?_eq_some_iff.mp listed).1
        rw [List.length_append, List.length_singleton, length_steps_script] at bound
        obtain rfl : index = actions.length := by omega
        rw [← length_steps_script start pace actions, List.getElem?_concat_length] at listed
        cases listed
        rw [List.take_left]

end

/-- Whether an action brings a pointer down in a window: by a landing there or by a slip into it. -/
def Action.landsIn (window : Window) : Action → Bool
  | down target _ _ => target = window
  | slip _ destination _ => destination = window
  | _ => false

/-- The time that an action has for a window. -/
def Timed.timeFor (window : Window) (step : Timed) : Option Number :=
  if step.action.landsIn window then some step.time else none

theorem Timed.timeFor_eq (window : Window) (step : Timed) :
    step.timeFor window =
      ([step].find? fun step => step.action.landsIn window).map Timed.time := by
  cases lands : step.action.landsIn window <;> simp [timeFor, lands]

variable {step : Timed} {steps : List Timed} {routing : Routing} {window : Window}

/-- An action that is carried out gives its time to the window that it lands in, unless that has
one, and leaves the times of all others that take part after it. -/
theorem downTime?_play (done : (step.play routing).violation = none)
    (nodup : (routing.targets.map Target.window).Nodup)
    (present : (step.play routing).routing.find? window ≠ none) :
    (step.play routing).routing.downTime? window =
      (routing.downTime? window).or (step.timeFor window) := by
  obtain ⟨time, action⟩ := step
  cases stands : action.operations time with
  | error violation =>
      rw [Timed.play, stands] at done
      cases done
  | ok operations =>
      rw [Timed.play, stands] at done present ⊢
      simp only [Operation.routing_runAll_of_done done] at present ⊢
      -- An action that stands for one operation, and that no touch, changes no time.
      have untouched {operation : Operation} (own : operation.isOwn = true)
          (other : ∀ target flags pointers time, operation ≠ .touch target flags pointers time)
          (left : operations = [operation]) (lands : action.landsIn window = false) :
          (routing.after operations).downTime? window =
            (routing.downTime? window).or (Timed.timeFor window ⟨time, action⟩) := by
        subst left
        rw [Timed.timeFor, lands, if_neg Bool.false_ne_true, Option.or_none]
        exact Routing.downTime?_of_untouched own other nodup present
      cases action with
      | down target pointer flags =>
          obtain ⟨id, _, rfl⟩ := Action.operations_down_eq_ok_iff.mp stands
          simp [Routing.downTime?_touch, Timed.timeFor, Action.landsIn]
      | outside target =>
          cases stands
          simp [Routing.downTime?_touch, Timed.timeFor, Action.landsIn]
      | slip source destination pointer =>
          obtain ⟨id, _, rfl⟩ := Action.operations_slip_eq_ok_iff.mp stands
          simp [Routing.downTime?_touch, Timed.timeFor, Action.landsIn]
      | hoverEnter | hoverExit | pilfer | commit =>
          cases stands
          exact untouched rfl (by simp) rfl rfl
      | up pointer =>
          cases stands
          have lifted := Routing.present_of_next rfl present
          calc (routing.after [.lift pointer, .prune]).downTime? window
              = (routing.next (.lift pointer)).downTime? window :=
                Routing.downTime?_of_untouched rfl (by simp) (Routing.nodup_windows_next nodup)
                  present
            _ = routing.downTime? window :=
                Routing.downTime?_of_untouched rfl (by simp) nodup lifted
            _ = (routing.downTime? window).or (Timed.timeFor window ⟨time, .up pointer⟩) :=
                (Option.or_none).symm

/-- A window has had a target since the earlier actions of a script: it had none when they had been
played, and has had one after each of the later ones. -/
structure TakesPartSince (earlier later : List Timed) (window : Window) : Prop where
  absent : (playAll earlier {}).routing.find? window = none
  present : ∀ first, first <+: later → first ≠ [] →
    (playAll (earlier ++ first) {}).routing.find? window ≠ none

namespace TakesPartSince

variable {earlier later : List Timed}

/-- The target is made by an action. -/
theorem of_made (absent : (playAll steps {}).routing.find? window = none)
    (present : (playAll (steps ++ [step]) {}).routing.find? window ≠ none) :
    TakesPartSince steps [step] window where
  absent := absent
  present first isFirst nonempty := by
    have whole : first = [step] := by
      rcases List.prefix_cons_iff.mp isFirst with rfl | ⟨rest, rfl, nothing⟩
      · exact absurd rfl nonempty
      · rw [List.prefix_nil.mp nothing]
    rw [whole]
    exact present

/-- An action leaves the target where it is. -/
theorem concat (since : TakesPartSince earlier later window)
    (present : (playAll (earlier ++ later ++ [step]) {}).routing.find? window ≠ none) :
    TakesPartSince earlier (later ++ [step]) window where
  absent := since.absent
  present first isFirst nonempty := by
    rcases List.prefix_concat_iff.mp isFirst with rfl | before
    · rw [← List.append_assoc]
      exact present
    · exact since.present first before nonempty

end TakesPartSince

/-- When a script has been played to its end, each window that takes part has the time of the first
action, since it came to take part, by which a pointer came down in it. -/
theorem downTime?_playAll (done : (playAll steps {}).violation = none)
    (present : (playAll steps {}).routing.find? window ≠ none) :
    ∃ earlier later, steps = earlier ++ later ∧ TakesPartSince earlier later window ∧
      (playAll steps {}).routing.downTime? window =
        (later.find? fun step => step.action.landsIn window).map Timed.time := by
  -- The induction is from the end of the script: the last action makes the target, or finds it.
  induction steps using List.reverseRecOn with
  | nil => exact absurd rfl present
  | append_singleton steps step ih =>
      rw [playAll_append, Outcome.violation_andThen_eq_none_iff, playAll,
        Outcome.violation_andThen_eq_none_iff] at done
      obtain ⟨doneBefore, doneNow, _⟩ := done
      have left := routing_playAll_concat step {} doneBefore
      have nodup := nodup_windows_playAll {} steps (by simp)
      have times := downTime?_play doneNow nodup (left ▸ present)
      rw [← left] at times
      by_cases before : (playAll steps {}).routing.find? window = none
      · refine ⟨steps, [step], rfl, .of_made before present, ?_⟩
        rw [times, Routing.downTime?, before, Option.bind_none, Option.none_or, Timed.timeFor_eq]
      · obtain ⟨earlier, later, rfl, since, time⟩ := ih doneBefore before
        refine ⟨earlier, later ++ [step], List.append_assoc .., since.concat present, ?_⟩
        rw [times, time, List.find?_append, Option.map_or, Timed.timeFor_eq]

/-- What is played of a script: all of it, or the actions before one that is refused. -/
theorem exists_played (steps : List Timed) (routing : Routing) :
    ∃ played rest, steps = played ++ rest ∧
      (playAll played routing).violation = none ∧
      (playAll played routing).routing = (playAll steps routing).routing ∧
      ((playAll steps routing).violation = none → rest = []) ∧
      ∀ violation, (playAll steps routing).violation = some violation →
        ∃ stopped later, rest = stopped :: later ∧
          stopped.play (playAll steps routing).routing =
            (playAll steps routing).routing.refuse violation := by
  cases ends : (playAll steps routing).violation with
  | none => exact ⟨steps, [], (List.append_nil _).symm, ends, rfl, fun _ => rfl, nofun⟩
  | some violation =>
      obtain ⟨earlier, stopped, later, split, done, refused, left⟩ := playAll_of_violation ends
      have same : (playAll steps routing).routing = (playAll earlier routing).routing := by
        rw [left]
      refine ⟨earlier, stopped :: later, split, done, same.symm, nofun, ?_⟩
      intro other isOther
      cases isOther
      exact ⟨stopped, later, rfl, same ▸ refused⟩

/-- The times of a gesture. The actions of a script have times at an even pace from its start, for as
long as these stay below 2^53; the start is zero and the pace is one millisecond, unless they are
given as finite numbers that are not negative, and then their fractions are dropped. When the script
is played on a fresh routing, to its end or up to an action that is refused, the time of each target
is the time of the first action, since the window came to take part, by which a pointer came down in
the window or slipped into it, and it has none if there was no such action. -/
theorem times_of_gestures (start pace : Option Number) (actions : List Action) :
    let gesture := script start pace actions
    let outcome := gesture.play {}
    gesture.steps.map Timed.action = actions ∧
    (∀ index step, gesture.steps[index]? = some step →
      wholeMilliseconds 0 start + index * wholeMilliseconds 1 pace < 2 ^ 53 →
      step.time =
        .ofInt (wholeMilliseconds 0 start + index * wholeMilliseconds 1 pace : Nat)) ∧
    ∃ played rest, gesture.steps = played ++ rest ∧
      (outcome.violation = none → rest = []) ∧
      (∀ violation, outcome.violation = some violation →
        ∃ stopped later, rest = stopped :: later ∧
          stopped.play outcome.routing = outcome.routing.refuse violation) ∧
      ∀ target ∈ outcome.routing.targets, ∃ earlier later,
        played = earlier ++ later ∧ TakesPartSince earlier later target.window ∧
          target.downTime =
            (later.find? fun step => step.action.landsIn target.window).map Timed.time := by
  intro gesture outcome
  refine ⟨actions_script start pace actions, ?_, ?_⟩
  · intro index step listed small
    have inSteps := (List.getElem?_eq_some_iff.mp listed).1
    rw [length_steps_script] at inSteps
    have written : (actions.take index).length = index := List.length_take_of_le inSteps.le
    rw [time_of_listed listed, nextTime_script (by rwa [written]), written]
  · obtain ⟨played, rest, split, done, left, whole, stops⟩ := exists_played gesture.steps {}
    refine ⟨played, rest, split, whole, stops, ?_⟩
    intro target inTargets
    have inPlayed : target ∈ (playAll played {}).routing.targets := left ▸ inTargets
    have nodup := nodup_windows_playAll {} played (by simp)
    have isFound := (Routing.find?_eq_some_iff nodup).mpr ⟨inPlayed, rfl⟩
    obtain ⟨earlier, later, whole, since, time⟩ :=
      downTime?_playAll done (by rw [isFound]; exact Option.some_ne_none target)
    refine ⟨earlier, later, whole, since, ?_⟩
    rw [← time, Routing.downTime?, isFound, Option.bind_some]

/-- The spy is touched and let go of, hovered over and touched again, and the pointer slips on into
the app, which has watched from outside. -/
def spyReturns : List Action :=
  [.down .spy 0 landingFlags, .up 0, .hoverEnter .spy 7 1, .outside .app,
    .down .spy 2 landingFlags, .slip .spy .app 2]

/-- From 10.7 on at a pace of 2.5 the fifth action comes at 18, and that is the time of the spy: it was
out after the landing at 10, and neither the hover at 14 nor the slip out of it gives it a time. -/
theorem spy_has_second_landing :
    let gesture := script (some (.finite (107 / 10))) (some (.finite (5 / 2))) spyReturns
    (∀ step, gesture.steps[4]? = some step → step.time = .ofInt 18) ∧
    ∃ earlier later, gesture.steps = earlier ++ later ∧ TakesPartSince earlier later .spy ∧
      (later.find? fun step => step.action.landsIn .spy).map Timed.time = some (.ofInt 18) := by
  intro gesture
  obtain ⟨_, paced, played, rest, split, whole, _, times⟩ :=
    times_of_gestures (some (.finite (107 / 10))) (some (.finite (5 / 2))) spyReturns
  have start : wholeMilliseconds 0 (some (.finite (107 / 10))) = 10 := by decide +kernel
  have pace : wholeMilliseconds 1 (some (.finite (5 / 2))) = 2 := by decide +kernel
  rw [start, pace] at paced
  refine ⟨fun step listed => paced 4 step listed (by decide), ?_⟩
  rw [whole (by decide +kernel), List.append_nil] at split
  have takesPart : (gesture.play {}).routing.share .spy ∈ (gesture.play {}).routing.targets := by
    decide +kernel
  have time : ((gesture.play {}).routing.share .spy).downTime = some (.ofInt 18) := by
    decide +kernel
  obtain ⟨earlier, later, isPlayed, since, isFirst⟩ := times _ takesPart
  exact ⟨earlier, later, split.trans isPlayed, since, isFirst.symm.trans time⟩

end Gesture

end PointerRouting
