/-
Module: PointerRouting.Proofs.Runs
Purpose: Routers along histories. Of the notices that a step gives, a monitor passes on the plain
  ones always and a concern once for each issue; what leaves the monitor and what it remembers is
  determined by the notices it passes on. The routing inside never depends on the monitor.
Main exports: Monitor.passes, Monitor.passed, Monitor.announce, Monitor.events_observeAll,
  Monitor.mem_raised_observeAll, Router.after, Router.events, Router.heard,
  Router.routing_after, Router.events_eq_flatMap_heard
-/
import PointerRouting.Proofs.Histories
import PointerRouting.Router

namespace PointerRouting

namespace Monitor

/-- Whether a monitor passes a notice on: a plain one always, a concern in developer mode unless
its issue has been raised. -/
def passes (monitor : Monitor) (notice : Notice) : Bool :=
  notice.issue?.all fun issue => monitor.options.devMode ∧ issue ∉ monitor.raised

/-- The notices that a monitor passes on when it takes them in one after another. -/
def passed (monitor : Monitor) : List Notice → List Notice
  | [] => []
  | notice :: rest =>
    (if monitor.passes notice then [notice] else []) ++ (monitor.observe notice).1.passed rest

/-- What leaves a monitor for a notice that it passes on. -/
def announce (options : Options) (notice : Notice) : List Event :=
  let monitor : Monitor := { options }
  monitor.recordOf notice ++
    if notice.issue?.isSome then monitor.warningOf notice else []

variable (monitor : Monitor) (notice : Notice) (notices : List Notice)

theorem events_observe :
    (monitor.observe notice).2 =
      if monitor.passes notice then announce monitor.options notice else [] := by
  cases about : notice.issue? with
  | none => simp [observe, passes, announce, recordOf, about]
  | some issue =>
      by_cases raises : monitor.options.devMode ∧ issue ∉ monitor.raised
      · simp [observe, passes, announce, recordOf, warningOf, about, raises]
      · simp [observe, passes, about, raises]

/-- What leaves a monitor is announced notice by notice. -/
theorem events_observeAll :
    (monitor.observeAll notices).2 =
      (monitor.passed notices).flatMap (announce monitor.options) := by
  induction notices generalizing monitor with
  | nil => rfl
  | cons notice rest ih =>
      rw [observeAll, passed, List.flatMap_append]
      simp only [ih, events_observe, options_observe]
      split <;> simp

theorem mem_raised_observe {issue : Issue} :
    issue ∈ (monitor.observe notice).1.raised ↔
      issue ∈ monitor.raised ∨ monitor.passes notice ∧ notice.issue? = some issue := by
  cases about : notice.issue? with
  | none => simp [observe, about]
  | some own =>
      by_cases raises : monitor.options.devMode ∧ own ∉ monitor.raised
      · simp [observe, passes, about, raises, or_comm, eq_comm]
      · simp [observe, passes, about, raises]

/-- A monitor has raised what it had raised and the issues of the notices it passed on. -/
theorem mem_raised_observeAll {issue : Issue} :
    issue ∈ (monitor.observeAll notices).1.raised ↔
      issue ∈ monitor.raised ∨ issue ∈ (monitor.passed notices).filterMap Notice.issue? := by
  induction notices generalizing monitor with
  | nil => simp [observeAll, passed]
  | cons notice rest ih =>
      rw [observeAll, passed, List.filterMap_append]
      simp only [ih, mem_raised_observe, List.mem_append]
      split <;> simp_all [or_assoc]

end Monitor

namespace Router

/-- The router after an operation. -/
def next (router : Router) (operation : Operation) : Router := (router.step operation).router

/-- The router after a history. -/
def after (router : Router) (history : List Operation) : Router := history.foldl next router

/-- The events that leave a router along a history. -/
def events (router : Router) : List Operation → List Event
  | [] => []
  | operation :: rest => (router.step operation).events ++ (router.next operation).events rest

/-- The notices that a router passes on along a history. -/
def heard (router : Router) : List Operation → List Notice
  | [] => []
  | operation :: rest =>
    router.monitor.passed (operation.apply router.routing).notices ++
      (router.next operation).heard rest

variable (router : Router) (operation : Operation) (history : List Operation)

@[simp] theorem after_nil : router.after [] = router := rfl

@[simp] theorem after_cons :
    router.after (operation :: history) = (router.next operation).after history := rfl

@[simp] theorem after_append (first second : List Operation) :
    router.after (first ++ second) = (router.after first).after second := by
  simp [after]

@[simp] theorem routing_next : (router.next operation).routing = router.routing.next operation :=
  rfl

/-- A routing under observation goes the way it goes alone. -/
@[simp] theorem routing_after : (router.after history).routing = router.routing.after history := by
  induction history generalizing router with
  | nil => rfl
  | cons operation history ih => simp [ih]

@[simp] theorem options_next : (router.next operation).monitor.options = router.monitor.options :=
  Monitor.options_observeAll _ _

@[simp] theorem options_after : (router.after history).monitor.options = router.monitor.options := by
  induction history generalizing router with
  | nil => rfl
  | cons operation history ih => simp [ih]

/-- What leaves a router along a history is announced notice by notice. -/
theorem events_eq_flatMap_heard :
    router.events history =
      (router.heard history).flatMap (Monitor.announce router.monitor.options) := by
  induction history generalizing router with
  | nil => rfl
  | cons operation history ih =>
      have step : (router.step operation).events =
          (router.monitor.passed (operation.apply router.routing).notices).flatMap
            (Monitor.announce router.monitor.options) :=
        Monitor.events_observeAll _ _
      rw [events, heard, List.flatMap_append, step, ih, options_next]

/-- The issues that a router has raised along a history are those of the notices it passed on. -/
theorem mem_raised_after {issue : Issue} :
    issue ∈ (router.after history).monitor.raised ↔
      issue ∈ router.monitor.raised ∨ issue ∈ (router.heard history).filterMap Notice.issue? := by
  induction history generalizing router with
  | nil => simp [heard]
  | cons operation history ih =>
      have step : issue ∈ (router.next operation).monitor.raised ↔ _ :=
        Monitor.mem_raised_observeAll _ _
      rw [after_cons, ih, step, heard, List.filterMap_append, List.mem_append, or_assoc]

end Router

end PointerRouting
