/-
Module: PointerRouting.Journal
Purpose: A bounded journal of routing decisions. It keeps the newest entries and counts all of
  them: what was accepted, what its least severity turned away, and what made room for newer
  entries. Entry ids go on counting across a clearing, so an id names one entry for good.
Main exports: Journal, Journal.make, Journal.record, Journal.query, Journal.stats, Journal.clear
-/
import PointerRouting.Notice
import PointerRouting.Ring

namespace PointerRouting

namespace Journal

/-- The capacity of a journal that does not ask for one. -/
def defaultCapacity : Nat := 256

/-- The greatest capacity of a journal. -/
def maxCapacity : Nat := 65536

/-- The capacity a journal gets: what it asks for, up to the greatest one, if that is a positive
integer. -/
def capacityFor (asked : Option Number) : Nat :=
  match asked.bind Number.toInt? with
  | some capacity => if 1 ≤ capacity then min capacity.toNat maxCapacity else defaultCapacity
  | none => defaultCapacity

theorem capacityFor_pos (asked : Option Number) : 0 < capacityFor asked := by
  unfold capacityFor
  split
  · split
    · simp only [maxCapacity]; omega
    · decide
  · decide

/-- One line of a journal. -/
structure Entry where
  id : Nat
  category : Category
  severity : Severity
  message : String
deriving DecidableEq

/-- What a journal is asked for: entries of a category, of at least a severity, and only the
newest so many of them. -/
structure Request where
  category : Option Category := none
  minSeverity : Severity := .trace
  limit : Option Number := none

/-- The counts of a journal. -/
structure Stats where
  capacity : Nat
  stored : Nat
  totalRecorded : Nat
  dropped : Nat
  filtered : Nat
  warnCount : Nat
deriving DecidableEq

end Journal

/-- A journal. -/
structure Journal where
  minSeverity : Severity
  /-- The id of the next entry. -/
  nextId : Nat := 1
  /-- How many entries were accepted. -/
  totalRecorded : Nat := 0
  /-- How many entries made room for newer ones. -/
  dropped : Nat := 0
  /-- How many entries were turned away. -/
  filtered : Nat := 0
  /-- How many warnings were accepted. -/
  warnings : Nat := 0
  entries : Ring Journal.Entry

namespace Journal

/-- An empty journal. -/
def make (capacity : Option Number) (minSeverity : Option Severity) : Journal :=
  { minSeverity := minSeverity.getD .trace
    entries := .empty (capacityFor capacity) (capacityFor_pos capacity) }

/-- Record an entry, or count it as turned away if it matters too little. -/
def record (journal : Journal) (category : Category) (severity : Severity) (message : String) :
    Journal :=
  if severity.rank < journal.minSeverity.rank then
    { journal with filtered := journal.filtered + 1 }
  else
    let dropped := if journal.entries.isFull then journal.dropped + 1 else journal.dropped
    let warnings := if severity = .warn then journal.warnings + 1 else journal.warnings
    { journal with
      nextId := journal.nextId + 1
      totalRecorded := journal.totalRecorded + 1
      dropped
      warnings
      entries := journal.entries.push { id := journal.nextId, category, severity, message } }

/-- Whether an entry is asked for. -/
def Request.accepts (request : Request) (entry : Entry) : Bool :=
  (request.category = none ∨ request.category = some entry.category) ∧
    request.minSeverity.rank ≤ entry.severity.rank

/-- The newest items of a list, as many as the limit says. A limit that is no count, or that
leaves nothing out, is none. -/
def newest {α : Type} (limit : Option Number) (items : List α) : List α :=
  match limit.bind Number.toInt? with
  | some count =>
    if 0 ≤ count ∧ count < items.length then items.drop (items.length - count.toNat) else items
  | none => items

/-- The stored entries that are asked for, oldest first. -/
def query (journal : Journal) (request : Request) : List Entry :=
  newest request.limit (journal.entries.toList.filter request.accepts)

/-- The counts of a journal. -/
def stats (journal : Journal) : Stats :=
  { capacity := journal.entries.capacity
    stored := journal.entries.size
    totalRecorded := journal.totalRecorded
    dropped := journal.dropped
    filtered := journal.filtered
    warnCount := journal.warnings }

/-- Forget the stored entries. The counts go on. -/
def clear (journal : Journal) : Journal := { journal with entries := journal.entries.clear }

end Journal

end PointerRouting
