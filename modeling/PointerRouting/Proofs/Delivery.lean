/-
Module: PointerRouting.Proofs.Delivery
Purpose: Sessions and routers go side by side. A router hands the notices of an operation to its
  monitor when the operation is over, and the monitor remembers issues; a session reports while it
  works, and remembers the keys and the connections that it has warned about. What is sent by a
  router is delivered by a session, in the same order, so what is true of a router's events is true
  of what the outlets of a session get.
Main exports: Outlets.deliver, Outlets.options, Session.Remembers, Session.Delivers,
  Session.Beside, Session.reply_of_beside, Session.sessions_deliver
-/
import PointerRouting.Proofs.Diagnostics
import PointerRouting.Proofs.RoutingTexts
import PointerRouting.Proofs.Runs

namespace PointerRouting

variable {World : Type}

namespace Outlets

/-- Bring an event to the outlet it is for. -/
def deliver (outlets : Outlets World) (world : World) : Event → World
  | .record category severity message =>
    match outlets.trace with
    | some trace => trace category severity message world
    | none => world
  | .warning text =>
    match outlets.warn with
    | some warn => warn text world
    | none => world

/-- The options of a monitor that has these outlets. -/
def options (outlets : Outlets World) : Monitor.Options :=
  { records := outlets.trace.isSome
    warns := outlets.warn.isSome
    devMode := outlets.devMode }

end Outlets

namespace Session

/-- Different pointers are warned about under different keys. -/
theorem issueKey_overlapKey_inj {category : Category} {first second : PointerSet} :
    issueKey category (overlapKey first) = issueKey category (overlapKey second) ↔
      first = second := by
  refine ⟨fun same => ?_, fun same => same ▸ rfl⟩
  have texts : Number.intText first.bits.toNat = Number.intText second.bits.toNat := by
    simpa [issueKey, overlapKey, ← String.toList_inj] using same
  have words := BitVec.eq_of_toNat_eq (Int.ofNat.inj (Number.intText_inj texts))
  cases first
  cases second
  exact congrArg PointerSet.mk words

/-- Whether a session has warned about an issue. -/
def HasWarned (session : Session World) : Issue → Prop
  | .overlap pointers => issueKey .pilfer (overlapKey pointers) ∈ session.warnedIssues
  | .idleClaim token => token ∈ session.warnedTokens

instance (session : Session World) : DecidablePred session.HasWarned := fun issue =>
  match issue with
  | .overlap pointers =>
    inferInstanceAs (Decidable (issueKey .pilfer (overlapKey pointers) ∈ session.warnedIssues))
  | .idleClaim token => inferInstanceAs (Decidable (token ∈ session.warnedTokens))

/-- The session with a warning about an issue to remember. -/
def remember (session : Session World) (issue : Issue) : Session World :=
  { session with
    warnedIssues :=
      match issue with
      | .overlap pointers => issueKey .pilfer (overlapKey pointers) :: session.warnedIssues
      | .idleClaim _ => session.warnedIssues
    warnedTokens :=
      match issue with
      | .overlap _ => session.warnedTokens
      | .idleClaim token => token :: session.warnedTokens }

/-- The session with events brought to its outlets. -/
def delivered (session : Session World) (events : List Event) : Session World :=
  { session with world := events.foldl session.outlets.deliver session.world }

theorem delivered_append (session : Session World) (first second : List Event) :
    session.delivered (first ++ second) = (session.delivered first).delivered second := by
  simp only [delivered, List.foldl_append]

theorem hasWarned_delivered (session : Session World) (events : List Event) (issue : Issue) :
    (session.delivered events).HasWarned issue ↔ session.HasWarned issue := by
  cases issue <;> rfl

theorem hasWarned_withRouting (session : Session World) (routing : Routing) (issue : Issue) :
    (session.withRouting routing).HasWarned issue ↔ session.HasWarned issue := by
  cases issue <;> rfl

theorem hasWarned_remember (session : Session World) (issue other : Issue) :
    (session.remember issue).HasWarned other ↔ other = issue ∨ session.HasWarned other := by
  cases issue <;> cases other <;> simp [remember, HasWarned, issueKey_overlapKey_inj]

/-- What a concern comes to: in developer mode, a warning if it is the first about its issue. -/
theorem tell_of_issue {notice : Notice} {issue : Issue} (about : notice.issue? = some issue)
    (session : Session World) :
    session.tell notice =
      if session.outlets.devMode ∧ ¬session.HasWarned issue then
        (session.remember issue).warned notice.category notice.message
      else session := by
  cases notice with
  | overlappingClaims pointers =>
      cases about
      change (if !session.outlets.devMode then session
        else if session.HasWarned (.overlap pointers) then session
        else (session.remember (.overlap pointers)).warned _ _) = _
      cases session.outlets.devMode <;> by_cases known : session.HasWarned (.overlap pointers) <;>
        simp [known, Notice.category]
  | idleClaim token device =>
      cases about
      rfl
  | _ => cases about

variable {session : Session World} {monitor : Monitor}

/-- A session remembers what a monitor does, and has the outlets that the monitor has. -/
structure Remembers (session : Session World) (monitor : Monitor) : Prop where
  options : monitor.options = session.outlets.options
  warned : ∀ issue, session.HasWarned issue ↔ issue ∈ monitor.raised

/-- A line is delivered as the record of a notice is. -/
theorem recorded_of_remembers (remembers : session.Remembers monitor) (notice : Notice) :
    session.recorded notice.category notice.severity notice.message =
      session.delivered (monitor.recordOf notice) := by
  rw [recorded, Monitor.recordOf, remembers.options, Outlets.options]
  cases connected : session.outlets.trace <;> simp [Outlets.deliver, connected, delivered]

/-- A warning is delivered as the record and the warning of a concern are. -/
theorem warned_of_remembers (remembers : session.Remembers monitor) {notice : Notice}
    (warns : notice.severity = .warn) :
    session.warned notice.category notice.message =
      session.delivered (monitor.recordOf notice ++ monitor.warningOf notice) := by
  have recorded := recorded_of_remembers remembers notice
  rw [warns] at recorded
  rw [warned, recorded, delivered_append, Monitor.warningOf, remembers.options, Outlets.options]
  cases connected : session.outlets.warn <;> simp [Outlets.deliver, connected, delivered]

/-- What a session comes to while a monitor sends events: it remembers what the monitor does then,
and has brought the events to its outlets, in their order. -/
structure Delivers (session moved : Session World) (observed : Monitor) (events : List Event) :
    Prop where
  outlets : moved.outlets = session.outlets
  world : moved.world = events.foldl session.outlets.deliver session.world
  remembers : moved.Remembers observed

theorem Delivers.trans {moved last : Session World} {observed after : Monitor}
    {first second : List Event} (before : session.Delivers moved observed first)
    (later : moved.Delivers last after second) :
    session.Delivers last after (first ++ second) where
  outlets := later.outlets.trans before.outlets
  world := by rw [later.world, before.world, before.outlets, List.foldl_append]
  remembers := later.remembers

theorem delivers_delivered (remembers : session.Remembers monitor) (events : List Event) :
    session.Delivers (session.delivered events) monitor events where
  outlets := rfl
  world := rfl
  remembers := ⟨remembers.options, fun issue => (hasWarned_delivered ..).trans
    (remembers.warned issue)⟩

/-- Telling a notice comes to what a monitor makes of it. -/
theorem delivers_tell (remembers : session.Remembers monitor) (notice : Notice) :
    session.Delivers (session.tell notice) (monitor.observe notice).1
      (monitor.observe notice).2 := by
  cases about : notice.issue? with
  | none =>
      rw [tell_of_plain about, recorded_of_remembers remembers, Monitor.observe, about]
      exact delivers_delivered remembers _
  | some issue =>
      rw [tell_of_issue about]
      by_cases fresh : session.outlets.devMode ∧ ¬session.HasWarned issue
      · have raises : monitor.options.devMode ∧ issue ∉ monitor.raised := by
          rw [remembers.options, ← remembers.warned]
          exact fresh
        have remembered : (session.remember issue).Remembers
            { monitor with raised := issue :: monitor.raised } :=
          { options := remembers.options
            warned := fun other => by
              rw [hasWarned_remember, remembers.warned, List.mem_cons] }
        have warns : notice.severity = .warn := Notice.severity_eq_warn_iff.mpr (by simp [about])
        simp only [Monitor.observe, about, if_pos fresh, if_pos raises,
          warned_of_remembers remembered warns]
        have warned := delivers_delivered remembered
          (monitor.recordOf notice ++ monitor.warningOf notice)
        exact ⟨warned.outlets, warned.world, warned.remembers⟩
      · have silent : ¬(monitor.options.devMode ∧ issue ∉ monitor.raised) := by
          rw [remembers.options, ← remembers.warned]
          exact fresh
        simp only [Monitor.observe, about, if_neg fresh, if_neg silent]
        exact delivers_delivered remembers []

/-- Telling notices comes to what a monitor makes of them. -/
theorem delivers_tellAll (remembers : session.Remembers monitor) (notices : List Notice) :
    session.Delivers (session.tellAll notices) (monitor.observeAll notices).1
      (monitor.observeAll notices).2 := by
  induction notices generalizing session monitor with
  | nil => exact delivers_delivered remembers []
  | cons notice rest ih =>
      have told := delivers_tell remembers notice
      exact told.trans (ih told.remembers)

variable {router : Router}

/-- A session beside a router: what is routed is the same, and so is what has been warned about. -/
structure Beside (session : Session World) (router : Router) : Prop where
  routing : session.routing = router.routing
  remembers : session.Remembers router.monitor

theorem beside_start (outlets : Outlets World) (world : World) :
    (start outlets world).Beside (Router.make outlets.options) where
  routing := rfl
  remembers := ⟨rfl, fun issue => by cases issue <;> simp [start, HasWarned, Router.make]⟩

/-- What an operation leaves of a session delivers what a router sends. -/
theorem delivers_left (beside : session.Beside router) (operation : Operation) :
    session.Delivers (session.left (operation.apply session.routing))
      (router.next operation).monitor (router.step operation).events := by
  let outcome := operation.apply router.routing
  have routed : (session.withRouting outcome.routing).Remembers router.monitor :=
    ⟨beside.remembers.options, fun issue =>
      (hasWarned_withRouting ..).trans (beside.remembers.warned issue)⟩
  have told := delivers_tellAll routed outcome.notices
  rw [beside.routing]
  exact ⟨told.outlets, told.world, told.remembers⟩

/-- Side by side, a session and a router stay side by side along calls, and the session delivers
what the router sends. A query is no step of the router. -/
theorem delivers_after (beside : session.Beside router) (calls : List Call) :
    session.Delivers (session.after calls)
      (router.after (calls.filterMap Call.operation?)).monitor
      (router.events (calls.filterMap Call.operation?)) := by
  induction calls generalizing session router with
  | nil => exact delivers_delivered beside.remembers []
  | cons call calls ih =>
      cases call with
      | query query =>
          rw [after, call_query]
          exact ih beside
      | operation operation =>
          have stepped := delivers_left beside operation
          have moved : (session.left (operation.apply session.routing)).Beside
              (router.next operation) :=
            ⟨by rw [routing_left, beside.routing]; rfl, stepped.remembers⟩
          rw [after, call_operation]
          exact stepped.trans (ih moved)

theorem beside_after (beside : session.Beside router) (calls : List Call) :
    (session.after calls).Beside (router.after (calls.filterMap Call.operation?)) where
  routing := by rw [routing_after, Router.routing_after, beside.routing]
  remembers := (delivers_after beside calls).remembers

/-- A session does or refuses an operation as a router beside it does. -/
theorem reply_of_beside (beside : session.Beside router) (operation : Operation) :
    (session.call (.operation operation)).2 =
      match (router.step operation).violation with
      | none => .done (router.step operation).claimed
      | some violation => .refused violation := by
  rw [call_operation, beside.routing]
  rfl

/-- What the outlets of a session get along calls is what a router with these outlets sends along
the operations among them, in the same order; and whatever has been called before, the session does
or refuses an operation as the router does. -/
theorem sessions_deliver (outlets : Outlets World) (world : World) (calls : List Call)
    (operation : Operation) :
    ((start outlets world).after calls).world =
      ((Router.make outlets.options).events (calls.filterMap Call.operation?)).foldl
        outlets.deliver world ∧
    (((start outlets world).after calls).call (.operation operation)).2 =
      let step :=
        ((Router.make outlets.options).after (calls.filterMap Call.operation?)).step operation
      match step.violation with
      | none => .done step.claimed
      | some violation => .refused violation :=
  have beside := beside_start outlets world
  ⟨(delivers_after beside calls).world, reply_of_beside (beside_after beside calls) operation⟩

end Session

end PointerRouting
