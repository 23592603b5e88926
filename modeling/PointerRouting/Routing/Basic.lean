/-
Module: PointerRouting.Routing.Basic
Purpose: The routing of one device: which windows currently receive its pointers. Windows are
  matched by handle, never by token; targets stand in the order in which they were added, and
  every removal keeps that order. An operation leaves an outcome: the routing after it, the
  notices it gave, and the violation that stopped it, if one did.
Main exports: Routing, Outcome, Outcome.andThen, updateFirst, sweep, Routing.prune, Routing.text
-/
import PointerRouting.Compaction
import PointerRouting.InputSource
import PointerRouting.Notice
import PointerRouting.Target

namespace PointerRouting

/-- The device of a routing that has not been bound to one. -/
def unboundDevice : Int := -1

/-- The routing of one device. -/
structure Routing where
  device : Int := unboundDevice
  /-- The word of the sources that the device's events come from. -/
  source : BitVec 32 := 0
  targets : List Target := []
deriving DecidableEq

instance : Inhabited Routing := ⟨{}⟩

/-- What an operation leaves behind. A violation ends it; what it had done by then stays done. -/
structure Outcome where
  routing : Routing
  notices : List Notice := []
  /-- The pointers that were claimed; claiming alone gives any. -/
  claimed : PointerSet := ∅
  violation : Option Violation := none

namespace Outcome

/-- Go on with another operation, unless a violation has ended this one. -/
def andThen (first : Outcome) (next : Routing → Outcome) : Outcome :=
  match first.violation with
  | some _ => first
  | none =>
    let second := next first.routing
    { second with notices := first.notices ++ second.notices }

/-- Nothing follows a violation. -/
theorem andThen_of_violation {first : Outcome} {violation : Violation}
    (stopped : first.violation = some violation) (next : Routing → Outcome) :
    first.andThen next = first := by
  simp [andThen, stopped]

/-- Without a violation the next operation decides, and its notices come last. -/
theorem andThen_of_done {first : Outcome} (done : first.violation = none)
    (next : Routing → Outcome) :
    first.andThen next =
      { next first.routing with notices := first.notices ++ (next first.routing).notices } := by
  simp [andThen, done]

/-- Both operations are done just in case neither stops at a violation. -/
theorem violation_andThen_eq_none_iff {first : Outcome} {next : Routing → Outcome} :
    (first.andThen next).violation = none ↔
      first.violation = none ∧ (next first.routing).violation = none := by
  cases stopped : first.violation with
  | some violation => simp [andThen_of_violation stopped, stopped]
  | none => simp [andThen_of_done stopped]

/-- An operation that has done nothing leaves all to the next one. -/
@[simp] theorem andThen_start (routing : Routing) (next : Routing → Outcome) :
    ({ routing } : Outcome).andThen next = next routing := by
  simp [andThen]

/-- Operations may be grouped in any way. -/
theorem andThen_assoc (first : Outcome) (second third : Routing → Outcome) :
    (first.andThen second).andThen third =
      first.andThen fun routing => (second routing).andThen third := by
  cases stopped : first.violation with
  | some violation => simp [andThen_of_violation stopped]
  | none =>
    rw [andThen_of_done stopped, andThen_of_done stopped]
    cases later : (second first.routing).violation with
    | some violation => simp [andThen, later]
    | none => simp [andThen, later]

end Outcome

/-- Change the first target of a window, in its place. -/
def updateFirst (window : Window) (change : Target → Target) : List Target → List Target
  | [] => []
  | target :: rest =>
    if target.window = window then change target :: rest
    else target :: updateFirst window change rest

/-- Edit targets one after another. The first violation ends the pass: the targets before it are
edited, it is as its edit has left it, and the ones after it are as they were. -/
def sweep (edit : Target.Edit) : List Target → List Target × Option Violation
  | [] => ([], none)
  | target :: rest =>
    match edit target with
    | .error violation left => (left :: rest, some violation)
    | .ok _ edited =>
      let (editedRest, violation) := sweep edit rest
      (edited :: editedRest, violation)

@[simp] theorem length_updateFirst (window : Window) (change : Target → Target)
    (targets : List Target) : (updateFirst window change targets).length = targets.length := by
  induction targets with
  | nil => rfl
  | cons target rest ih => by_cases found : target.window = window <;> simp [updateFirst, found, ih]

@[simp] theorem updateFirst_id (window : Window) (targets : List Target) :
    updateFirst window id targets = targets := by
  induction targets with
  | nil => rfl
  | cons target rest ih => by_cases found : target.window = window <;> simp [updateFirst, found, ih]

/-- Of two changes that keep the window, the second is made to what the first leaves. -/
theorem updateFirst_updateFirst {window : Window} {first : Target → Target}
    (keeps : ∀ target, (first target).window = target.window) (second : Target → Target)
    (targets : List Target) :
    updateFirst window second (updateFirst window first targets) =
      updateFirst window (fun target => second (first target)) targets := by
  induction targets with
  | nil => rfl
  | cons target rest ih =>
    by_cases found : target.window = window <;> simp [updateFirst, found, keeps, ih]

/-- What is found after a change that keeps the window is what was found, changed. -/
theorem find?_updateFirst {window : Window} {change : Target → Target}
    (keeps : ∀ target, (change target).window = target.window) (targets : List Target) :
    (updateFirst window change targets).find? (fun target => target.window = window) =
      (targets.find? fun target => target.window = window).map change := by
  induction targets with
  | nil => rfl
  | cons target rest ih =>
    by_cases found : target.window = window
    · simp [updateFirst, found, keeps]
    · simpa [updateFirst, found] using ih

/-- Changing the first target of a window is putting what becomes of it in its place. -/
theorem updateFirst_of_find? {window : Window} {target : Target} {targets : List Target}
    (found : targets.find? (fun other => other.window = window) = some target)
    (change : Target → Target) :
    updateFirst window (fun _ => change target) targets = updateFirst window change targets := by
  induction targets with
  | nil => rfl
  | cons other rest ih =>
    by_cases same : other.window = window
    · rw [List.find?_cons_of_pos (by simpa using same)] at found
      rw [updateFirst, updateFirst, if_pos same, if_pos same, Option.some.inj found]
    · rw [List.find?_cons_of_neg (by simpa using same)] at found
      rw [updateFirst, updateFirst, if_neg same, if_neg same, ih found]

/-- Putting the first target of a window where it is changes nothing. -/
theorem updateFirst_eq_self {window : Window} {target : Target} {targets : List Target}
    (found : targets.find? (fun other => other.window = window) = some target) :
    updateFirst window (fun _ => target) targets = targets :=
  (updateFirst_of_find? found id).trans (updateFirst_id window targets)

/-- The first target of a window that has just joined is the last one. -/
theorem updateFirst_append_of_absent {targets : List Target} (target : Target)
    (absent : targets.find? (fun other => other.window = target.window) = none)
    (change : Target → Target) :
    updateFirst target.window change (targets ++ [target]) = targets ++ [change target] := by
  induction targets with
  | nil => simp [updateFirst]
  | cons other rest ih =>
    have apart : other.window ≠ target.window := by simpa using List.find?_eq_none.mp absent other
    rw [List.find?_cons_of_neg (by simpa using apart)] at absent
    rw [List.cons_append, updateFirst, if_neg apart, ih absent, List.cons_append]

variable {edit : Target.Edit}

theorem sweep_cons_of_ok {target edited : Target} (done : edit.result target = .ok edited)
    (rest : List Target) :
    sweep edit (target :: rest) = (edited :: (sweep edit rest).1, (sweep edit rest).2) := by
  unfold Target.Edit.result at done
  rw [sweep]
  cases outcome : edit target <;> simp_all

/-- Where the first violation comes, the pass ends. An edit that has written nothing by then leaves
its target and the others as they were. -/
theorem sweep_cons_of_error (atomic : edit.Atomic) {target : Target} {violation : Violation}
    (stopped : edit.result target = .error violation) (rest : List Target) :
    sweep edit (target :: rest) = (target :: rest, some violation) := by
  obtain ⟨left, stops⟩ := Target.Edit.result_eq_error_iff.mp stopped
  rw [sweep, stops, atomic _ _ _ stops]

/-- An edit that nothing stops reaches every target. -/
theorem sweep_of_ok {edited : Target → Target} {targets : List Target}
    (succeeds : ∀ target ∈ targets, edit.result target = .ok (edited target)) :
    sweep edit targets = (targets.map edited, none) := by
  induction targets with
  | nil => rfl
  | cons target rest ih =>
    rw [sweep_cons_of_ok (succeeds target List.mem_cons_self),
      ih fun other member => succeeds other (List.mem_cons_of_mem _ member)]
    rfl

namespace Routing

/-- The target of a window, the first if there are several. -/
def find? (routing : Routing) (window : Window) : Option Target :=
  routing.targets.find? fun target => target.window = window

/-- Take the dead targets out, with a notice for each. -/
def prune (routing : Routing) (reason : PruneReason) : Outcome :=
  let (targets, dead) := compact (fun target => !target.isDead) id routing.targets
  { routing := { routing with targets }
    notices := dead.map fun target => .pruned target.window reason }

/-- A window that has a target is found, and it is that window's. -/
theorem window_of_find? {routing : Routing} {window : Window} {target : Target}
    (found : routing.find? window = some target) :
    target ∈ routing.targets ∧ target.window = window := by
  refine ⟨List.mem_of_find?_eq_some found, ?_⟩
  simpa using List.find?_some found

/-- A window is not found exactly when no target is its. -/
theorem find?_eq_none_iff {routing : Routing} {window : Window} :
    routing.find? window = none ↔ ∀ target ∈ routing.targets, target.window ≠ window := by
  simp [find?]

theorem prune_eq (routing : Routing) (reason : PruneReason) :
    routing.prune reason =
      { routing := { routing with targets := routing.targets.filter fun target => !target.isDead }
        notices := (routing.targets.filter Target.isDead).map fun target =>
          .pruned target.window reason } := by
  simp [prune, compact_eq]

/-- The text of a routing: its device and source, then each target on a numbered line. -/
def text (routing : Routing) : String :=
  let heading := "deviceId=" ++ Number.intText routing.device ++ ", source=" ++
    InputSource.text routing.source ++ "\n"
  if routing.targets.isEmpty then heading ++ "  Windows: <none>\n"
  else
    heading ++ "  Windows:\n" ++
      joined "" (routing.targets.mapIdx fun index target =>
        "    " ++ Number.intText index ++ " : " ++ target.text)

end Routing

end PointerRouting
