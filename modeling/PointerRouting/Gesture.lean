/-
Module: PointerRouting.Gesture
Purpose: Scripts of gestures. A script is written action by action, each at its time, and then
  played on a routing as the operations a dispatcher would issue. Playing does not use a script
  up. An invalid pointer in a script is found when it is played; the actions before it stay done.
Main exports: Gesture.Action, Gesture, Gesture.make, Gesture.append, Gesture.Action.operations,
  Gesture.play
-/
import PointerRouting.Number.Rounding
import PointerRouting.Operation

namespace PointerRouting

namespace Gesture

/-- What can happen in a gesture. -/
inductive Action where
  /-- A pointer lands in a window. -/
  | down (window : Window) (pointer : Number) (flags : Mask)
  /-- A window watches from outside: it gets no pointer and no time. -/
  | outside (window : Window)
  /-- A pointer slips from one window into another. -/
  | slip (source destination : Window) (pointer : Number)
  /-- A pointer comes to hover over a window. -/
  | hoverEnter (window : Window) (device pointer : Number)
  /-- A hovering pointer leaves. -/
  | hoverExit (device pointer : Number)
  /-- A connection claims what its windows touch. -/
  | pilfer (token : Token)
  /-- The event is delivered: dispatch becomes direct. -/
  | commit
  /-- A pointer is lifted. -/
  | up (pointer : Number)
deriving DecidableEq

/-- The published name of an action. -/
def Action.kind : Action → String
  | .down .. => "down"
  | .outside .. => "outside"
  | .slip .. => "slip"
  | .hoverEnter .. => "hoverEnter"
  | .hoverExit .. => "hoverExit"
  | .pilfer .. => "pilfer"
  | .commit => "commit"
  | .up .. => "up"

/-- An action at its time. -/
structure Timed where
  time : Number
  action : Action
deriving DecidableEq

/-- The dispatch of a landing that does not name one: the foreground target, as it is. -/
def landingFlags : Mask := DispatchFlag.mask [.foreground, .asIs]

/-- A time in whole milliseconds; the fallback stands in for one that is missing, negative or not
finite. -/
def wholeTime (fallback : Number) : Option Number → Number
  | some time => if time.isFinite ∧ ¬time.below 0 then time.truncate else fallback
  | none => fallback

end Gesture

/-- A script, and the time of the action that comes next. -/
structure Gesture where
  nextTime : Number
  pace : Number
  steps : List Gesture.Timed := []
deriving DecidableEq

namespace Gesture

/-- An empty script that starts at zero and takes one millisecond for each action, unless it is
told otherwise. -/
def make (start pace : Option Number) : Gesture :=
  { nextTime := wholeTime 0 start, pace := wholeTime 1 pace }

/-- The script with an action added at the end. -/
def append (gesture : Gesture) (action : Action) : Gesture :=
  { gesture with
    nextTime := gesture.nextTime.add gesture.pace
    steps := gesture.steps ++ [{ time := gesture.nextTime, action }] }

/-- The operations that an action at a time stands for, in order. Its pointers are looked at
first where a landing needs them as a set. -/
def Action.operations (time : Number) : Action → Except Violation (List Operation)
  | .down window pointer flags => do
    let pointer ← checkPointer pointer
    return [.touch window flags (.singleton pointer) (some time)]
  | .outside window => return [.touch window (DispatchFlag.mask [.asOutside]) ∅ none]
  | .slip source destination pointer => do
    let pointer ← checkPointer pointer
    return [.touch source (DispatchFlag.mask [.asSlipperyExit]) (.singleton pointer) none,
      .touch destination (DispatchFlag.mask [.asSlipperyEnter, .foreground])
        (.singleton pointer) (some time)]
  | .hoverEnter window device pointer => return [.hover window device pointer]
  | .hoverExit device pointer => return [.unhover device pointer]
  | .pilfer token => return [.pilfer token]
  | .commit => return [.commit]
  | .up pointer => return [.lift pointer, .prune]

section

variable {time pointer : Number} {operations : List Operation}

/-- A landing stands for a touch with its pointer, if that can be a pointer. -/
theorem Action.operations_down_eq_ok_iff {window : Window} {flags : Mask} :
    (down window pointer flags).operations time = .ok operations ↔
      ∃ id, checkPointer pointer = .ok id ∧
        operations = [.touch window flags (.singleton id) (some time)] := by
  cases valid : checkPointer pointer with
  | error violation => simp [Action.operations, valid, bind, Except.bind]
  | ok id => simp [Action.operations, valid, bind, Except.bind, pure, Except.pure, eq_comm]

/-- A slip stands for two touches with its pointer, if that can be a pointer; the second has the
time. -/
theorem Action.operations_slip_eq_ok_iff {source destination : Window} :
    (slip source destination pointer).operations time = .ok operations ↔
      ∃ id, checkPointer pointer = .ok id ∧
        operations =
          [.touch source (DispatchFlag.mask [.asSlipperyExit]) (.singleton id) none,
            .touch destination (DispatchFlag.mask [.asSlipperyEnter, .foreground])
              (.singleton id) (some time)] := by
  cases valid : checkPointer pointer with
  | error violation => simp [Action.operations, valid, bind, Except.bind]
  | ok id => simp [Action.operations, valid, bind, Except.bind, pure, Except.pure, eq_comm]

end

/-- Play one action on a routing. -/
def Timed.play (step : Timed) (routing : Routing) : Outcome :=
  match step.action.operations step.time with
  | .error violation => routing.refuse violation
  | .ok operations => Operation.runAll operations routing

/-- Play actions one after another, up to the first violation. -/
def playAll : List Timed → Routing → Outcome
  | [], routing => { routing }
  | step :: rest, routing => (step.play routing).andThen (playAll rest)

/-- Play a script on a routing. -/
def play (gesture : Gesture) (routing : Routing) : Outcome := playAll gesture.steps routing

/-- Actions played at one time or at two come to the same. -/
theorem playAll_append (first second : List Timed) (routing : Routing) :
    playAll (first ++ second) routing = (playAll first routing).andThen (playAll second) := by
  induction first generalizing routing with
  | nil => simp [playAll]
  | cons step rest ih =>
    simp only [List.cons_append, playAll, Outcome.andThen_assoc]
    congr 1
    funext moved
    exact ih moved

end Gesture

end PointerRouting
