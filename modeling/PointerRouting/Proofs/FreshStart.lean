/-
Module: PointerRouting.Proofs.FreshStart
Purpose: What a reset leaves of the past. The routing starts afresh; the monitor still remembers
  which issues it has raised, and that memory does nothing but keep concerns about these issues
  from being raised again.
Main exports: Monitor.Ages, Monitor.Ages.passed, Router.Ages, Router.Ages.heard,
  Router.reset_starts_afresh
-/
import PointerRouting.Proofs.Runs
import PointerRouting.Proofs.Samples

namespace PointerRouting

/-- Whether a notice is about none of the issues. Plain notices are about no issue at all. -/
def Notice.isNewsAfter (past : List Issue) (notice : Notice) : Bool :=
  notice.issue?.all fun issue => issue ∉ past

/-- Whether an event warns, as a line of the journal or to whoever listens. -/
def Event.warns : Event → Bool
  | .record _ severity _ => severity = .warn
  | .warning _ => true

namespace Monitor

/-- An aged monitor has raised the issues of a past life besides those that a fresh one has. -/
structure Ages (past : List Issue) (aged fresh : Monitor) : Prop where
  options : aged.options = fresh.options
  raised : ∀ issue, issue ∈ aged.raised ↔ issue ∈ fresh.raised ∨ issue ∈ past

variable {past : List Issue} {aged fresh : Monitor}

/-- The aged monitor passes on what the fresh one does, concerns about the past excepted. -/
theorem Ages.passes (ages : Ages past aged fresh) (notice : Notice) :
    aged.passes notice = (fresh.passes notice && notice.isNewsAfter past) := by
  cases about : notice.issue? with
  | none => simp [Monitor.passes, Notice.isNewsAfter, about]
  | some issue =>
      have raised := ages.raised issue
      rw [Bool.eq_iff_iff]
      simp only [Monitor.passes, Notice.isNewsAfter, about, Option.all_some, ages.options,
        Bool.and_eq_true, decide_eq_true_eq]
      tauto

theorem Ages.observe (ages : Ages past aged fresh) (notice : Notice) :
    Ages past (aged.observe notice).1 (fresh.observe notice).1 where
  options := by simp [ages.options]
  raised issue := by
    -- An issue of the past counts as raised with the aged monitor, whoever raises it again.
    have news : notice.issue? = some issue →
        (notice.isNewsAfter past = true ↔ issue ∉ past) := by
      intro about
      simp [Notice.isNewsAfter, about]
    rw [mem_raised_observe, mem_raised_observe, ages.passes, ages.raised, Bool.and_eq_true]
    tauto

theorem Ages.observeAll (ages : Ages past aged fresh) (notices : List Notice) :
    Ages past (aged.observeAll notices).1 (fresh.observeAll notices).1 := by
  induction notices generalizing aged fresh with
  | nil => exact ages
  | cons notice rest ih => exact ih (ages.observe notice)

theorem Ages.passed (ages : Ages past aged fresh) (notices : List Notice) :
    aged.passed notices = (fresh.passed notices).filter (Notice.isNewsAfter past) := by
  induction notices generalizing aged fresh with
  | nil => rfl
  | cons notice rest ih =>
      rw [Monitor.passed, Monitor.passed, List.filter_append, ih (ages.observe notice),
        ages.passes]
      congr 1
      cases fresh.passes notice <;> cases news : notice.isNewsAfter past <;> simp [news]

/-- What a monitor announces of a concern warns, and nothing else does. -/
theorem warns_of_mem_announce {options : Options} {notice : Notice} {event : Event}
    (announced : event ∈ announce options notice) :
    event.warns = notice.issue?.isSome := by
  have severe : notice.severity = .warn ↔ notice.issue?.isSome = true :=
    Notice.severity_eq_warn_iff
  cases about : notice.issue? with
  | none =>
      rw [about] at severe
      simp only [announce, recordOf, about] at announced
      split at announced <;> simp_all [Event.warns]
  | some issue =>
      rw [about] at severe
      simp only [announce, recordOf, warningOf, about] at announced
      rcases List.mem_append.mp announced with recorded | warned
      · split at recorded <;> simp_all [Event.warns]
      · split at warned <;> simp_all [Event.warns]

/-- Plain notices are announced alike, whatever concerns are left out. -/
theorem plain_announcements {options : Options} (past : List Issue) (notices : List Notice) :
    ((notices.filter (Notice.isNewsAfter past)).flatMap (announce options)).filter
        (fun event => !event.warns) =
      (notices.flatMap (announce options)).filter fun event => !event.warns := by
  induction notices with
  | nil => rfl
  | cons notice rest ih =>
      rw [List.filter_cons, List.flatMap_cons, List.filter_append, ← ih]
      cases news : notice.isNewsAfter past with
      | true => simp
      | false =>
          have concern : notice.issue?.isSome = true := by
            cases about : notice.issue? with
            | none => simp [Notice.isNewsAfter, about] at news
            | some => rfl
          have silent : (announce options notice).filter (fun event => !event.warns) = [] := by
            rw [List.filter_eq_nil_iff]
            intro event announced
            simp [warns_of_mem_announce announced, concern]
          simp [silent]

end Monitor

namespace Router

/-- An aged router routes like a fresh one, and its monitor has a past. -/
structure Ages (past : List Issue) (aged fresh : Router) : Prop where
  routing : aged.routing = fresh.routing
  monitor : aged.monitor.Ages past fresh.monitor

variable {past : List Issue} {aged fresh : Router}

theorem Ages.next (ages : Ages past aged fresh) (operation : Operation) :
    Ages past (aged.next operation) (fresh.next operation) where
  routing := by rw [routing_next, routing_next, ages.routing]
  monitor := by
    have notices := ages.monitor.observeAll (operation.apply fresh.routing).notices
    rw [← ages.routing] at notices
    simpa only [Router.next, step, perform, ages.routing] using notices

theorem Ages.after (ages : Ages past aged fresh) (history : List Operation) :
    Ages past (aged.after history) (fresh.after history) := by
  induction history generalizing aged fresh with
  | nil => exact ages
  | cons operation history ih => exact ih (ages.next operation)

theorem Ages.heard (ages : Ages past aged fresh) (history : List Operation) :
    aged.heard history = (fresh.heard history).filter (Notice.isNewsAfter past) := by
  induction history generalizing aged fresh with
  | nil => rfl
  | cons operation history ih =>
      rw [Router.heard, Router.heard, List.filter_append, ih (ages.next operation), ages.routing,
        ages.monitor.passed]

/-- After a past and a reset, a router ages from one that is made anew. -/
theorem ages_reset (options : Monitor.Options) (past : List Operation) :
    Ages (((make options).heard past).filterMap Notice.issue?)
      (((make options).after past).next .reset) (make options) where
  routing := rfl
  monitor :=
    { options := by rw [options_next, options_after]
      raised := by
        intro issue
        -- The notice of a reset is plain, so the monitor is the one that the past has left.
        change issue ∈ ((make options).after past).monitor.raised ↔ _
        exact mem_raised_after _ _ }

/-- A reset is a fresh start, whatever was done before it. Whatever history follows, the routing is
the one that a new router with the same options comes to, so every target, every answer and the
text are the same; every operation gives the same claim and the same violation, and the same plain
events leave. Of what the new router announces along the history, everything leaves the old one
too, in order, except concerns about issues that it had raised before the reset. -/
theorem reset_starts_afresh (options : Monitor.Options) (past : List Operation) :
    (∀ history operation,
      let aged := (((make options).after past).next .reset).after history
      let fresh := (make options).after history
      aged.routing = fresh.routing ∧
      (aged.step operation).router.routing = (fresh.step operation).router.routing ∧
      (aged.step operation).claimed = (fresh.step operation).claimed ∧
      (aged.step operation).violation = (fresh.step operation).violation ∧
      ((aged.step operation).events.filter fun event => !event.warns) =
        (fresh.step operation).events.filter fun event => !event.warns) ∧
    (∀ history,
      (make options).events history =
        ((make options).heard history).flatMap (Monitor.announce options) ∧
      (((make options).after past).next .reset).events history =
        (((make options).heard history).filter (Notice.isNewsAfter
          (((make options).heard past).filterMap Notice.issue?))).flatMap
            (Monitor.announce options)) := by
  have ages := ages_reset options past
  constructor
  · intro history operation aged fresh
    have still : Ages _ aged fresh := ages.after history
    have same := still.routing
    refine ⟨same, by simp [step, perform, same], by simp [step, perform, same],
      by simp [step, perform, same], ?_⟩
    change (aged.monitor.observeAll (operation.apply aged.routing).notices).2.filter _ =
      (fresh.monitor.observeAll (operation.apply fresh.routing).notices).2.filter _
    rw [Monitor.events_observeAll, Monitor.events_observeAll, same, still.monitor.passed,
      still.monitor.options]
    exact Monitor.plain_announcements _ _
  · intro history
    rw [events_eq_flatMap_heard, events_eq_flatMap_heard, ages.heard, ages.monitor.options]
    exact ⟨rfl, rfl⟩

/-- A connection that touches nothing claims twice, with a reset in between, and another one claims
after it: only the other one's concern is new. -/
example :
    let router := make { devMode := true, warns := true }
    ((((router.after [.pilfer Window.spy.token]).next .reset).heard
      [.pilfer Window.spy.token, .pilfer Window.app.token]).map Notice.issue?) =
        [some (.idleClaim Window.app.token)] := by
  decide

end Router

end PointerRouting
