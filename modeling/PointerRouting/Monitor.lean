/-
Module: PointerRouting.Monitor
Purpose: What becomes of notices. Plain notices are recorded if somebody records; concerns are
  raised in developer mode only, once for each issue, and then they are recorded and warned
  about. A monitor remembers which issues it has raised, for as long as it lives.
Main exports: Monitor.Options, Monitor, Event, Monitor.observe, Monitor.observeAll
-/
import PointerRouting.Notice

namespace PointerRouting

/-- What leaves a monitor. -/
inductive Event where
  /-- A line for the journal. -/
  | record (category : Category) (severity : Severity) (message : String)
  /-- A warning for whoever listens. -/
  | warning (text : String)
deriving DecidableEq

/-- Which of a monitor's outlets are connected. -/
structure Monitor.Options where
  /-- Somebody records. -/
  records : Bool := false
  /-- Somebody listens to warnings. -/
  warns : Bool := false
  /-- Concerns are raised. -/
  devMode : Bool := false
deriving DecidableEq

/-- A monitor with the issues it has raised. -/
structure Monitor where
  options : Monitor.Options := {}
  raised : List Issue := []
deriving DecidableEq

namespace Monitor

/-- The line a notice makes in the journal, if somebody records. -/
def recordOf (monitor : Monitor) (notice : Notice) : List Event :=
  if monitor.options.records then [.record notice.category notice.severity notice.message]
  else []

/-- The warning a concern makes, if somebody listens. -/
def warningOf (monitor : Monitor) (notice : Notice) : List Event :=
  if monitor.options.warns then
    [.warning ("[touchroute][" ++ notice.category.text ++ "] " ++ notice.message)]
  else []

/-- Take a notice in. -/
def observe (monitor : Monitor) (notice : Notice) : Monitor × List Event :=
  match notice.issue? with
  | none => (monitor, monitor.recordOf notice)
  | some issue =>
    if monitor.options.devMode ∧ issue ∉ monitor.raised then
      ({ monitor with raised := issue :: monitor.raised },
        monitor.recordOf notice ++ monitor.warningOf notice)
    else (monitor, [])

/-- Take notices in, one after another. -/
def observeAll (monitor : Monitor) : List Notice → Monitor × List Event
  | [] => (monitor, [])
  | notice :: rest =>
    let (observed, events) := monitor.observe notice
    let (last, more) := observed.observeAll rest
    (last, events ++ more)

@[simp] theorem options_observe (monitor : Monitor) (notice : Notice) :
    (monitor.observe notice).1.options = monitor.options := by
  unfold observe
  split
  · rfl
  · split <;> rfl

/-- A monitor keeps its options. -/
@[simp] theorem options_observeAll (monitor : Monitor) (notices : List Notice) :
    (monitor.observeAll notices).1.options = monitor.options := by
  induction notices generalizing monitor with
  | nil => rfl
  | cons notice rest ih => simp [observeAll, ih]

end Monitor

end PointerRouting
