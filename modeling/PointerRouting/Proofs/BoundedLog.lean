/-
Module: PointerRouting.Proofs.BoundedLog
Purpose: A journal answers like a log that never forgets, read through a bound. The log lists
  every accepted line under its number; clearings say from where on it is read, and the capacity
  says how far back. A ring that was filled, wrapped and cleared in any order holds just that
  stretch of the log, and a query filters it and cuts it to its newest entries.
Main exports: Journal.Call, Journal.after, Journal.log, Journal.sinceCleared,
  Journal.candidates, Journal.Reflects, Journal.reflects_after,
  Journal.answers_from_bounded_log
-/
import Mathlib.Data.List.DropRight
import PointerRouting.Journal

namespace PointerRouting

/-- Keeping the newest items of a list and then one item more keeps the newest items of all. -/
theorem rtake_rtake_concat {α : Type} (items : List α) (item : α) {count : Nat}
    (positive : 0 < count) :
    (items.rtake count ++ [item]).rtake count = (items ++ [item]).rtake count := by
  obtain ⟨fewer, rfl⟩ := Nat.exists_eq_succ_of_ne_zero positive.ne'
  have nested : (items.rtake (fewer + 1)).rtake fewer = items.rtake fewer := by
    simp only [List.rtake, List.drop_drop, List.length_drop]
    congr 1
    omega
  rw [List.rtake_concat_succ, List.rtake_concat_succ, nested]

/-- Pushing appends an item and keeps as many of the newest ones as there is place for. -/
theorem Ring.toList_push_eq_rtake {α : Type} (ring : Ring α) (item : α) :
    (ring.push item).toList = (ring.toList ++ [item]).rtake ring.capacity := by
  rw [toList_push, List.rtake]
  simp

namespace Journal

/-- What a caller records. -/
structure Line where
  category : Category
  severity : Severity
  message : String
deriving DecidableEq

/-- The entry of a line under a number. -/
def Line.entry (line : Line) (id : Nat) : Entry :=
  { id, category := line.category, severity := line.severity, message := line.message }

/-- What changes a journal. -/
inductive Call where
  | record (line : Line)
  | clear
deriving DecidableEq

/-- Carry out a call. -/
def Call.run : Call → Journal → Journal
  | record line, journal => journal.record line.category line.severity line.message
  | clear, journal => journal.clear

/-- The journal after some calls. -/
def after (journal : Journal) (calls : List Call) : Journal :=
  calls.foldl (fun journal call => call.run journal) journal

@[simp] theorem after_nil (journal : Journal) : journal.after [] = journal := rfl

@[simp] theorem after_concat (journal : Journal) (calls : List Call) (call : Call) :
    journal.after (calls ++ [call]) = call.run (journal.after calls) := by
  simp [after]

/-- The line that a call contributes: what is recorded with the least severity at least. -/
def Call.accepted? (least : Severity) : Call → Option Line
  | record line => if least.rank ≤ line.severity.rank then some line else none
  | clear => none

/-- Every line that calls contribute, whatever was cleared in between. -/
def lines (least : Severity) (calls : List Call) : List Line :=
  calls.filterMap (Call.accepted? least)

/-- The log without bound: every accepted line, numbered from one. -/
def log (least : Severity) (calls : List Call) : List Entry :=
  (lines least calls).mapIdx fun place line => line.entry (place + 1)

/-- The calls up to the last clearing. -/
def untilCleared (calls : List Call) : List Call := calls.rdropWhile fun call => call ≠ .clear

/-- The part of the log that was written since the last clearing. -/
def sinceCleared (least : Severity) (calls : List Call) : List Entry :=
  (log least calls).drop (lines least (untilCleared calls)).length

/-- What is asked for among the newest entries since the last clearing, as many as there is
place for. -/
def candidates (capacity : Nat) (least : Severity) (calls : List Call) (request : Request) :
    List Entry :=
  ((sinceCleared least calls).rtake capacity).filter fun entry =>
    request.category.all (fun category => entry.category = category) ∧
      request.minSeverity.rank ≤ entry.severity.rank

variable {journal : Journal} {capacity : Nat} {least : Severity} {calls : List Call}

@[simp] theorem length_log : (log least calls).length = (lines least calls).length := by
  simp [log]

theorem lines_concat_record {line : Line} (enough : least.rank ≤ line.severity.rank) :
    lines least (calls ++ [.record line]) = lines least calls ++ [line] := by
  simp [lines, Call.accepted?, enough]

theorem lines_concat_refused {line : Line} (little : line.severity.rank < least.rank) :
    lines least (calls ++ [.record line]) = lines least calls := by
  simp [lines, Call.accepted?, little]

theorem lines_concat_clear : lines least (calls ++ [.clear]) = lines least calls := by
  simp [lines, Call.accepted?]

@[simp] theorem untilCleared_concat_record {line : Line} :
    untilCleared (calls ++ [.record line]) = untilCleared calls := by
  simp [untilCleared]

@[simp] theorem untilCleared_concat_clear :
    untilCleared (calls ++ [.clear]) = calls ++ [.clear] := by
  simp [untilCleared]

/-- What was accepted up to the last clearing is a part of what was accepted. -/
theorem length_lines_untilCleared_le :
    (lines least (untilCleared calls)).length ≤ (lines least calls).length :=
  ((List.rdropWhile_prefix _ _).sublist.filterMap _).length_le

/-- An accepted line extends what was written since the last clearing, under the next number of
all. -/
theorem sinceCleared_concat_record {line : Line} (enough : least.rank ≤ line.severity.rank) :
    sinceCleared least (calls ++ [.record line]) =
      sinceCleared least calls ++ [line.entry ((lines least calls).length + 1)] := by
  have extended : log least (calls ++ [.record line]) =
      log least calls ++ [line.entry ((lines least calls).length + 1)] := by
    simp [log, lines_concat_record enough]
  -- The new entry lies behind the last clearing, so dropping what was cleared leaves it.
  have inside : (lines least (untilCleared calls)).length ≤ (log least calls).length := by
    rw [length_log]
    exact length_lines_untilCleared_le
  rw [sinceCleared, extended, untilCleared_concat_record,
    List.drop_append_of_le_length inside]
  rfl

theorem sinceCleared_concat_refused {line : Line} (little : line.severity.rank < least.rank) :
    sinceCleared least (calls ++ [.record line]) = sinceCleared least calls := by
  simp [sinceCleared, log, lines_concat_refused little]

/-- Nothing was written since a clearing that comes last. -/
theorem sinceCleared_concat_clear : sinceCleared least (calls ++ [.clear]) = [] := by
  simp [sinceCleared, List.drop_eq_nil_iff]

/-- A journal reflects the log of some calls: it holds the newest entries since the last clearing
and goes on counting where the log ends. -/
structure Reflects (journal : Journal) (capacity : Nat) (least : Severity) (calls : List Call) :
    Prop where
  room : journal.entries.capacity = capacity
  threshold : journal.minSeverity = least
  numbered : journal.nextId = (lines least calls).length + 1
  held : journal.entries.toList = (sinceCleared least calls).rtake capacity

theorem reflects_make (capacity : Option Number) (least : Option Severity) :
    Reflects (make capacity least) (capacityFor capacity) (least.getD .trace) [] where
  room := rfl
  threshold := rfl
  numbered := rfl
  held := (List.rtake_nil _).symm

/-- An accepted line goes into the ring and into the log, and the bound takes the same entry from
both. -/
theorem Reflects.record {line : Line} (reflects : Reflects journal capacity least calls)
    (enough : least.rank ≤ line.severity.rank) :
    Reflects (journal.record line.category line.severity line.message) capacity least
      (calls ++ [.record line]) := by
  have kept : ¬line.severity.rank < journal.minSeverity.rank := by
    rw [reflects.threshold]
    omega
  have positive : 0 < capacity := reflects.room ▸ journal.entries.capacity_pos
  unfold Journal.record
  rw [if_neg kept]
  exact
    { room := by rw [Ring.capacity_push, reflects.room]
      threshold := reflects.threshold
      numbered := by
        rw [lines_concat_record enough, List.length_append, List.length_singleton,
          ← reflects.numbered]
      held := by
        -- The ring cuts what it held already cut, the log cuts itself anew.
        rw [Ring.toList_push_eq_rtake, reflects.held, reflects.room,
          rtake_rtake_concat _ _ positive, sinceCleared_concat_record enough,
          ← reflects.numbered]
        rfl }

/-- A line that matters too little changes neither the ring nor the log. -/
theorem Reflects.refuse {line : Line} (reflects : Reflects journal capacity least calls)
    (little : line.severity.rank < least.rank) :
    Reflects (journal.record line.category line.severity line.message) capacity least
      (calls ++ [.record line]) := by
  unfold Journal.record
  rw [if_pos (reflects.threshold ▸ little)]
  exact
    { room := reflects.room
      threshold := reflects.threshold
      numbered := by rw [lines_concat_refused little, ← reflects.numbered]
      held := by rw [sinceCleared_concat_refused little, ← reflects.held] }

/-- A clearing empties the ring, wherever it had turned to, and leaves the numbers to go on. -/
theorem Reflects.clear (reflects : Reflects journal capacity least calls) :
    Reflects journal.clear capacity least (calls ++ [.clear]) where
  room := reflects.room
  threshold := reflects.threshold
  numbered := by
    rw [lines_concat_clear, ← reflects.numbered]
    rfl
  held := by
    rw [sinceCleared_concat_clear, List.rtake_nil]
    exact Ring.toList_clear _

/-- Whatever is called, a journal that reflects a log goes on reflecting it. -/
theorem Reflects.run (reflects : Reflects journal capacity least calls) (call : Call) :
    Reflects (call.run journal) capacity least (calls ++ [call]) := by
  cases call with
  | record line =>
      rcases Nat.lt_or_ge line.severity.rank least.rank with little | enough
      · exact reflects.refuse little
      · exact reflects.record enough
  | clear => exact reflects.clear

/-- A journal reflects the log of its calls. -/
theorem reflects_after (capacity : Option Number) (least : Option Severity)
    (calls : List Call) :
    Reflects ((make capacity least).after calls) (capacityFor capacity) (least.getD .trace)
      calls := by
  induction calls using List.reverseRecOn with
  | nil => exact reflects_make capacity least
  | append_singleton calls call ih =>
      rw [after_concat]
      exact ih.run call

/-- The matching entries that a journal holds are the candidates of the log. -/
theorem Reflects.filter_accepts (reflects : Reflects journal capacity least calls)
    (request : Request) :
    journal.entries.toList.filter request.accepts = candidates capacity least calls request := by
  rw [reflects.held, candidates]
  congr 1
  funext entry
  cases asked : request.category with
  | none => simp [Request.accepts, asked]
  | some category => simp [Request.accepts, asked, eq_comm]

/-- A limit below the number of the items leaves the newest of them. -/
theorem newest_of_lt {α : Type} {items : List α} {count : Nat} (below : count < items.length) :
    newest (some (.ofInt count)) items = items.rtake count := by
  have inside : (0 : Int) ≤ count ∧ (count : Int) < items.length := by omega
  simp [newest, inside, List.rtake]

/-- Any other limit leaves all of them. -/
theorem newest_of_le {α : Type} {items : List α} {limit : Option Number}
    (beyond : ∀ count : Nat, limit = some (.ofInt count) → items.length ≤ count) :
    newest limit items = items := by
  unfold newest
  split
  case h_1 asked isInt =>
      obtain ⟨number, rfl, whole⟩ := Option.bind_eq_some_iff.mp isInt
      rw [Number.toInt?_eq_some_iff] at whole
      apply if_neg
      rintro ⟨natural, below⟩
      obtain ⟨count, rfl⟩ := Int.eq_ofNat_of_zero_le natural
      have := beyond count (by rw [whole])
      omega
  case h_2 => rfl

/-- A positive integer is granted up to the greatest capacity. -/
theorem capacityFor_of_pos {size : Nat} (positive : 1 ≤ size) :
    capacityFor (some (.ofInt size)) = min size maxCapacity := by
  have granted : (1 : Int) ≤ size := by omega
  simp [capacityFor, granted]

/-- Whatever else is asked for is not granted. -/
theorem capacityFor_of_not_pos {asked : Option Number}
    (unfit : ∀ size : Nat, asked = some (.ofInt size) → size < 1) :
    capacityFor asked = defaultCapacity := by
  unfold capacityFor
  split
  case h_1 capacity isInt =>
      obtain ⟨number, rfl, whole⟩ := Option.bind_eq_some_iff.mp isInt
      rw [Number.toInt?_eq_some_iff] at whole
      apply if_neg
      intro positive
      obtain ⟨size, rfl⟩ := Int.eq_ofNat_of_zero_le (by omega : 0 ≤ capacity)
      have := unfit size (by rw [whole])
      omega
  case h_2 => rfl

/-- The number of a log's entry is the place of its line among all accepted lines. -/
theorem line_of_mem_log {entry : Entry} (listed : entry ∈ log least calls) :
    1 ≤ entry.id ∧ ∃ line, (lines least calls)[entry.id - 1]? = some line ∧
      entry = line.entry entry.id := by
  obtain ⟨place, inside, rfl⟩ := List.mem_mapIdx.mp listed
  exact ⟨Nat.le_add_left 1 place, (lines least calls)[place], List.getElem?_eq_getElem inside, rfl⟩

/-- Whatever a query may answer stands in the log. -/
theorem candidates_sublist (capacity : Nat) (least : Severity) (calls : List Call)
    (request : Request) :
    (candidates capacity least calls request).Sublist (log least calls) :=
  List.filter_sublist.trans ((List.drop_sublist _ _).trans (List.drop_sublist _ _))

theorem newest_sublist {α : Type} (limit : Option Number) (items : List α) :
    (newest limit items).Sublist items := by
  unfold newest
  split
  · split
    · exact List.drop_sublist _ _
    · exact List.Sublist.refl _
  · exact List.Sublist.refl _

/-- A journal answers from a bounded log, for every configuration, all calls and all requests: with
the entries that match among the newest ones since the last clearing, as many as its capacity
allows, oldest first, and of these with the newest ones if the limit is a count that leaves some
out. An entry is numbered by the place of its line among all that were ever accepted. The capacity
is the one asked for up to 65536, or 256 where that is no positive integer. -/
theorem answers_from_bounded_log (asked : Option Number) (least : Option Severity)
    (calls : List Call) (request : Request) :
    (∀ count : Nat, request.limit = some (.ofInt count) →
      count < (candidates (capacityFor asked) (least.getD .trace) calls request).length →
        ((make asked least).after calls).query request =
          (candidates (capacityFor asked) (least.getD .trace) calls request).rtake count) ∧
    ((∀ count : Nat, request.limit = some (.ofInt count) →
      (candidates (capacityFor asked) (least.getD .trace) calls request).length ≤ count) →
        ((make asked least).after calls).query request =
          candidates (capacityFor asked) (least.getD .trace) calls request) ∧
    (∀ entry ∈ ((make asked least).after calls).query request, 1 ≤ entry.id ∧
      ∃ line, (lines (least.getD .trace) calls)[entry.id - 1]? = some line ∧
        entry = line.entry entry.id) ∧
    ((make asked least).after calls).stats.capacity = capacityFor asked ∧
    (∀ size : Nat, 1 ≤ size → asked = some (.ofInt size) →
      capacityFor asked = min size 65536) ∧
    ((∀ size : Nat, asked = some (.ofInt size) → size < 1) → capacityFor asked = 256) := by
  have reflects := reflects_after asked least calls
  have answer : ((make asked least).after calls).query request =
      newest request.limit (candidates (capacityFor asked) (least.getD .trace) calls request) := by
    rw [query, reflects.filter_accepts]
  refine ⟨?_, ?_, ?_, reflects.room, ?_, capacityFor_of_not_pos⟩
  · intro count limited below
    rw [answer, limited, newest_of_lt below]
  · intro beyond
    rw [answer, newest_of_le beyond]
  · intro entry answered
    rw [answer] at answered
    apply line_of_mem_log
    exact (candidates_sublist _ _ _ _).subset ((newest_sublist _ _).subset answered)
  · rintro size positive rfl
    exact capacityFor_of_pos positive

/-- Calls that fill a journal, clear it in the middle of a lap and take it round once more. A
journal that wants information at least turns the second line away. -/
def lappedCalls : List Call :=
  [.record ⟨.window, .info, "added"⟩, .record ⟨.hover, .trace, "moved"⟩,
    .record ⟨.state, .warn, "reset"⟩, .record ⟨.window, .info, "removed"⟩, .clear,
    .record ⟨.pilfer, .info, "claimed"⟩, .record ⟨.window, .warn, "added"⟩,
    .record ⟨.pointer, .info, "cancelled"⟩, .record ⟨.window, .info, "removed"⟩]

/-- A journal with place for two entries answers a request for the newest one with the seventh line
that it accepted, and a request for window entries without limit likewise. -/
theorem lapped_journal_answers :
    ((make (some 2) (some .info)).after lappedCalls).query { limit := some 1 } =
      [{ id := 7, category := .window, severity := .info, message := "removed" }] ∧
    ((make (some 2) (some .info)).after lappedCalls).query { category := some .window } =
      [{ id := 7, category := .window, severity := .info, message := "removed" }] :=
  ⟨(answers_from_bounded_log (some 2) (some .info) lappedCalls { limit := some 1 }).1 1 rfl
      (by decide),
    (answers_from_bounded_log (some 2) (some .info) lappedCalls { category := some .window }).2.1
      (by simp)⟩

end Journal

end PointerRouting
