/-
Module: PointerRouting.Proofs.Diagnostics
Purpose: Diagnostics report and never steer. Two sessions that receive the same calls show their
  caller the same, whatever is connected to either. They may record and warn where the other one is
  silent, halfway through a pilfer, a settlement or a slippery exit, and come to remember other
  warnings; none of these branches leads to another routing.
Main exports: Surroundings.outlets, Session.Call, Session.call, Session.sights, Session.sights_congr,
  Session.routing_after, Session.diagnostics_never_steer
-/
import PointerRouting.Journal
import PointerRouting.Proofs.Histories
import PointerRouting.Proofs.Samples
import PointerRouting.Proofs.SessionSteps

namespace PointerRouting

/-- Surroundings with a journal and somebody who hears warnings. -/
structure Surroundings where
  journal : Journal
  heard : List String := []

namespace Surroundings

/-- Outlets to the journal, to whoever hears warnings, to both or to neither. -/
def outlets (records warns devMode : Bool) : Outlets Surroundings where
  trace :=
    if records then some fun category severity message around =>
      { around with journal := around.journal.record category severity message }
    else none
  warn :=
    if warns then some fun text around => { around with heard := around.heard ++ [text] }
    else none
  devMode

/-- Surroundings with an empty journal, of the capacity and the least severity asked for. -/
def make (capacity : Option Number) (minSeverity : Option Severity) : Surroundings :=
  { journal := .make capacity minSeverity }

end Surroundings

namespace Session

/-- What a caller can ask for: an operation or an answer. -/
inductive Call where
  | operation (operation : Operation)
  | query (query : Query)

/-- What a caller gets for a call. -/
inductive Reply where
  /-- The operation is done; only claiming claims any pointers. -/
  | done (claimed : PointerSet)
  | answer (answer : Answer)
  | refused (violation : Violation)
deriving DecidableEq

/-- What a caller can see of a session when a call has returned: the reply, the routing with every
target and each of its fields, and the text of the routing. -/
structure Sight where
  reply : Reply
  routing : Routing
  text : String
deriving DecidableEq

/-- The operation that a call asks for, if it asks for one. -/
def Call.operation? : Call → Option Operation
  | .operation asked => some asked
  | .query _ => none

variable {World : Type}

/-- Take a call. A session that refuses it stays as it has come to be by then. -/
def call (session : Session World) : Call → Session World × Reply
  | .operation operation =>
    match perform operation session with
    | .ok claimed moved => (moved, .done claimed)
    | .error violation moved => (moved, .refused violation)
  | .query query =>
    match ask query session with
    | .ok answer moved => (moved, .answer answer)
    | .error violation moved => (moved, .refused violation)

/-- The session after calls. -/
def after (session : Session World) : List Call → Session World
  | [] => session
  | call :: rest => (session.call call).1.after rest

/-- What a caller sees, call by call. -/
def sights (session : Session World) : List Call → List Sight
  | [] => []
  | call :: rest =>
    let (moved, reply) := session.call call
    { reply, routing := moved.routing, text := moved.routing.text } :: moved.sights rest

theorem call_operation (session : Session World) (operation : Operation) :
    session.call (.operation operation) =
      (session.left (operation.apply session.routing),
        match (operation.apply session.routing).violation with
        | none => .done (operation.apply session.routing).claimed
        | some violation => .refused violation) := by
  rw [call, perform_eq, conclude]
  cases (operation.apply session.routing).violation <;> rfl

theorem call_query (session : Session World) (query : Query) :
    session.call (.query query) =
      (session,
        match query.ask session.routing with
        | .ok answer => .answer answer
        | .error violation => .refused violation) := by
  rw [call, ask_eq]
  cases query.ask session.routing <;> rfl

section

variable {Left Right : Type} {left : Session Left} {right : Session Right}

/-- One call takes sessions whose routings agree to sessions whose routings agree. What is
connected to them, and what they have recorded and warned about, may differ before and after. -/
theorem routing_call_congr (same : left.routing = right.routing) (call : Call) :
    (left.call call).1.routing = (right.call call).1.routing := by
  cases call with
  | operation operation =>
      rw [call_operation, call_operation, routing_left, routing_left, same]
  | query query => rw [call_query, call_query, same]

/-- A reply depends on the routing only. -/
theorem reply_call_congr (same : left.routing = right.routing) (call : Call) :
    (left.call call).2 = (right.call call).2 := by
  cases call with
  | operation operation => rw [call_operation, call_operation, same]
  | query query => rw [call_query, call_query, same]

/-- Sessions whose routings agree show the same from then on. -/
theorem sights_congr (same : left.routing = right.routing) (calls : List Call) :
    left.sights calls = right.sights calls := by
  induction calls generalizing left right with
  | nil => rfl
  | cons call calls ih =>
      have moved := routing_call_congr same call
      simp only [sights, reply_call_congr same call, moved, ih moved]

end

/-- A session's routing is what the operations alone make of it. -/
theorem routing_after (session : Session World) (calls : List Call) :
    (session.after calls).routing =
      session.routing.after (calls.filterMap Call.operation?) := by
  induction calls generalizing session with
  | nil => rfl
  | cons call calls ih =>
      rw [after, ih]
      cases call with
      | operation operation =>
          rw [call_operation, routing_left]
          rfl
      | query query => rw [call_query]; rfl

/-- Diagnostics never steer. Whatever two sessions are connected to as they start, be it a trace
(such as a journal of any capacity and any least severity) or none, a listener or none, developer
mode or not, the same calls get the same replies and violations from both, one by one, and leave
the same targets, with the same fields and in the same text, after each of them: those that the
operations leave where nothing watches. -/
theorem diagnostics_never_steer {Left Right : Type} (left : Outlets Left) (right : Outlets Right)
    (here : Left) (there : Right) (calls : List Call) :
    (start left here).sights calls = (start right there).sights calls ∧
    ((start left here).after calls).routing =
      ({} : Routing).after (calls.filterMap Call.operation?) := by
  have same : (start left here).routing = (start right there).routing := rfl
  exact ⟨sights_congr same calls, routing_after _ calls⟩

/-- The spy is touched and slips out, the app pilfers without being touched, and then both claim
the spy's pointer. -/
def talkativeCalls : List Call :=
  [.operation (.touch .spy (DispatchFlag.mask [.asIs]) (.singleton 1) none),
    .operation (.touch .spy (DispatchFlag.mask [.asSlipperyExit]) ∅ none),
    .operation (.pilfer Window.app.token),
    .operation (.touch .app .none (.singleton 2) none),
    .operation (.revise .spy (.claim (.singleton 1))),
    .operation (.revise .app (.claim (.singleton 1))), .operation .resolveClaims, .query .isDown]

/-- What is left of the surroundings of a session that has taken the talkative calls. -/
def afterTalk (records warns devMode : Bool) : Surroundings :=
  let session := start (Surroundings.outlets records warns devMode) (.make (some 2) none)
  (session.after talkativeCalls).world

/-- In developer mode two warnings are heard and a journal for two lines overflows; where nothing
is connected nothing is heard. -/
example :
    (afterTalk true true true).heard.length = 2 ∧
      (afterTalk true true true).journal.stats.dropped = 3 ∧
      (afterTalk false false false).heard.length = 0 := by
  decide

end Session

end PointerRouting
