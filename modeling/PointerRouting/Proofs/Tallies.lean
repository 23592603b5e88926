/-
Module: PointerRouting.Proofs.Tallies
Purpose: The counts of a journal add up. What was accepted is still held, or made room for a newer
  entry, or was held when the journal was cleared; what was not accepted was turned away. Clearing
  empties the ring alone, so a stretch between clearings starts with all the room there is, and it
  drops what it records beyond that.
Main exports: Journal.stretches, Journal.numbers, Journal.forgotten, Journal.run_induction,
  Journal.continues_after, Journal.dropped_after, Journal.totalRecorded_after_balances,
  Journal.numbers_eq_range', Journal.counts_add_up
-/
import Mathlib.Algebra.GroupWithZero.Nat
import PointerRouting.Proofs.BoundedLog

namespace PointerRouting

/-- What was pushed last is the newest item, however little the ring holds. -/
theorem Ring.getLast?_toList_push {α : Type} (ring : Ring α) (item : α) :
    (ring.push item).toList.getLast? = some item := by
  obtain ⟨fewer, room⟩ := Nat.exists_eq_succ_of_ne_zero ring.capacity_pos.ne'
  rw [toList_push_eq_rtake, room, List.rtake_concat_succ, List.getLast?_concat]

namespace Journal

/-- Whether a call records a line. -/
def Call.isRecord : Call → Bool
  | record _ => true
  | clear => false

/-- Whether a call records a line that matters too little. -/
def Call.isRefused (least : Severity) : Call → Bool
  | record line => line.severity.rank < least.rank
  | clear => false

/-- The number that a call gives to the line it records, as the newest entry shows it, unless the
line is turned away. -/
def Call.number? (journal : Journal) (call : Call) : Option Nat :=
  if (call.accepted? journal.minSeverity).isSome then
    ((call.run journal).query {}).getLast?.map Entry.id
  else none

/-- The numbers that calls give, one after the other. -/
def numbers : Journal → List Call → List Nat
  | _, [] => []
  | journal, call :: calls => (call.number? journal).toList ++ numbers (call.run journal) calls

/-- How many entries were held whenever one of the calls cleared the journal, all together. -/
def forgotten : Journal → List Call → Nat
  | _, [] => 0
  | journal, .record line :: calls => forgotten (Call.run (.record line) journal) calls
  | journal, .clear :: calls => journal.stats.stored + forgotten journal.clear calls

/-- The calls between the clearings. -/
def stretches (calls : List Call) : List (List Call) := calls.splitOnP fun call => call = .clear

variable {journal : Journal} {line : Line} {calls : List Call}

/-- Induction along calls. A line that is recorded goes in or is turned away, as the threshold
says, and clearing is the third thing that can happen to a journal. -/
@[elab_as_elim]
theorem run_induction {motive : Journal → List Call → Prop}
    (nil : ∀ journal, motive journal [])
    (record : ∀ journal line calls, journal.minSeverity.rank ≤ line.severity.rank →
      motive (Call.run (.record line) journal) calls → motive journal (.record line :: calls))
    (refuse : ∀ journal line calls, line.severity.rank < journal.minSeverity.rank →
      motive (Call.run (.record line) journal) calls → motive journal (.record line :: calls))
    (clear : ∀ journal calls, motive journal.clear calls → motive journal (.clear :: calls))
    (journal : Journal) (calls : List Call) : motive journal calls := by
  induction calls generalizing journal with
  | nil => exact nil journal
  | cons call calls ih =>
      cases call with
      | record line =>
          rcases Nat.lt_or_ge line.severity.rank journal.minSeverity.rank with little | enough
          · exact refuse journal line calls little (ih _)
          · exact record journal line calls enough (ih _)
      | clear => exact clear journal calls (ih _)

@[simp] theorem after_cons (journal : Journal) (call : Call) (calls : List Call) :
    journal.after (call :: calls) = (call.run journal).after calls := rfl

@[simp] theorem run_clear (journal : Journal) : Call.run .clear journal = journal.clear := rfl

@[simp] theorem minSeverity_run_record (journal : Journal) (line : Line) :
    (Call.run (.record line) journal).minSeverity = journal.minSeverity := by
  simp only [Call.run, Journal.record]
  split <;> rfl

@[simp] theorem minSeverity_clear (journal : Journal) :
    journal.clear.minSeverity = journal.minSeverity := rfl

/-- Clearing empties the ring and leaves every count. -/
@[simp] theorem stats_clear (journal : Journal) :
    journal.clear.stats = { journal.stats with stored := 0 } := rfl

/-- A line that is turned away is counted as such, and nothing else happens. -/
theorem stats_refuse (little : line.severity.rank < journal.minSeverity.rank) :
    (Call.run (.record line) journal).stats =
      { journal.stats with filtered := journal.stats.filtered + 1 } := by
  simp only [Call.run, Journal.record, if_pos little]
  rfl

/-- A line that goes in takes a place if there is one, and otherwise that of an entry that is
counted as dropped. -/
theorem stats_record (enough : journal.minSeverity.rank ≤ line.severity.rank) :
    (Call.run (.record line) journal).stats =
      { journal.stats with
        stored := min journal.stats.capacity (journal.stats.stored + 1)
        totalRecorded := journal.stats.totalRecorded + 1
        dropped := journal.stats.dropped + (journal.stats.stored + 1 - journal.stats.capacity)
        warnCount := journal.stats.warnCount + if line.severity = .warn then 1 else 0 } := by
  have inside := journal.entries.size_le_capacity
  have lost : (if journal.entries.isFull then journal.dropped + 1 else journal.dropped) =
      journal.dropped + (journal.entries.size + 1 - journal.entries.capacity) := by
    simp only [Ring.isFull_iff]
    split <;> omega
  have warned : (if line.severity = .warn then journal.warnings + 1 else journal.warnings) =
      journal.warnings + if line.severity = .warn then 1 else 0 := by
    split <;> rfl
  simp only [Call.run, Journal.record, if_neg enough.not_gt, stats, Ring.capacity_push,
    Ring.size_push, lost, warned]

theorem stored_le_capacity (journal : Journal) :
    journal.stats.stored ≤ journal.stats.capacity := journal.entries.size_le_capacity

/-- A request for everything is answered with all entries that are held. -/
@[simp] theorem query_default (journal : Journal) :
    journal.query {} = journal.entries.toList := by
  have everything : ({} : Request).accepts = fun _ => true := by
    funext entry
    simp [Request.accepts, Severity.rank]
  simp [query, everything, newest]

@[simp] theorem lines_nil {least : Severity} : lines least [] = [] := rfl

theorem lines_cons_record {least : Severity} (enough : least.rank ≤ line.severity.rank) :
    lines least (.record line :: calls) = line :: lines least calls :=
  List.filterMap_cons_some (by simp [Call.accepted?, enough])

theorem lines_cons_refused {least : Severity} (little : line.severity.rank < least.rank) :
    lines least (.record line :: calls) = lines least calls :=
  List.filterMap_cons_none (by simp [Call.accepted?, little])

@[simp] theorem lines_cons_clear {least : Severity} :
    lines least (.clear :: calls) = lines least calls := List.filterMap_cons_none rfl

/-- Each recorded line is accepted or turned away. -/
theorem length_lines_add_countP (least : Severity) (calls : List Call) :
    (lines least calls).length + calls.countP (Call.isRefused least) =
      calls.countP Call.isRecord := by
  induction calls with
  | nil => rfl
  | cons call calls ih =>
      cases call with
      | record line =>
          rcases Nat.lt_or_ge line.severity.rank least.rank with little | enough
          · simp only [lines_cons_refused little, List.countP_cons, Call.isRefused, little,
              Call.isRecord, decide_true]
            omega
          · simp only [lines_cons_record enough, List.countP_cons, Call.isRefused, enough.not_gt,
              Call.isRecord, decide_false, List.length_cons]
            simp
            omega
      | clear => simpa [Call.isRefused, Call.isRecord] using ih

/-- Counts that go on across calls: what the calls contribute is added to what had been counted. -/
structure Stats.Continues (before : Stats) (least : Severity) (calls : List Call)
    (later : Stats) : Prop where
  capacity : later.capacity = before.capacity
  totalRecorded : later.totalRecorded = before.totalRecorded + (lines least calls).length
  filtered : later.filtered = before.filtered + calls.countP (Call.isRefused least)
  warnCount :
    later.warnCount =
      before.warnCount + (lines least calls).countP fun line => line.severity = .warn

/-- No call starts a count over, a clearing as little as another. -/
theorem continues_after (journal : Journal) (calls : List Call) :
    journal.stats.Continues journal.minSeverity calls (journal.after calls).stats := by
  induction journal, calls using run_induction with
  | nil journal => exact ⟨rfl, rfl, rfl, rfl⟩
  | record journal line calls enough ih =>
      simp only [minSeverity_run_record, stats_record enough] at ih
      exact
        { capacity := ih.capacity
          totalRecorded := by
            simp [ih.totalRecorded, lines_cons_record enough]
            omega
          filtered := by simp [ih.filtered, Call.isRefused, enough.not_gt]
          warnCount := by
            simp [ih.warnCount, lines_cons_record enough, List.countP_cons]
            omega }
  | refuse journal line calls little ih =>
      simp only [minSeverity_run_record, stats_refuse little] at ih
      exact
        { capacity := ih.capacity
          totalRecorded := by simp [ih.totalRecorded, lines_cons_refused little]
          filtered := by
            simp [ih.filtered, Call.isRefused, little]
            omega
          warnCount := by simp [ih.warnCount, lines_cons_refused little] }
  | clear journal calls ih =>
      simp only [minSeverity_clear, stats_clear] at ih
      exact
        { capacity := ih.capacity
          totalRecorded := by simp [ih.totalRecorded]
          filtered := by simp [ih.filtered, Call.isRefused]
          warnCount := by simp [ih.warnCount] }

@[simp] theorem stretches_cons_clear : stretches (.clear :: calls) = [] :: stretches calls := by
  simp [stretches, List.splitOnP_cons_eq_if_modifyHead]

@[simp] theorem stretches_cons_record :
    stretches (.record line :: calls) = (stretches calls).modifyHead (.record line :: ·) := by
  simp [stretches, List.splitOnP_cons_eq_if_modifyHead]

/-- The stretch under way finds the ring as the journal stands, so what is held counts with what it
records. Each later one finds the ring empty. -/
theorem dropped_after (journal : Journal) (calls : List Call) :
    ∃ first later, stretches calls = first :: later ∧
      (journal.after calls).stats.dropped =
        journal.stats.dropped +
          (journal.stats.stored + (lines journal.minSeverity first).length -
            journal.stats.capacity) +
          (later.map fun stretch =>
            (lines journal.minSeverity stretch).length - journal.stats.capacity).sum := by
  induction journal, calls using run_induction with
  | nil journal =>
      have inside := journal.stored_le_capacity
      exact ⟨[], [], rfl, by simp; omega⟩
  | record journal line calls enough ih =>
      have inside := journal.stored_le_capacity
      obtain ⟨first, later, split, counted⟩ := ih
      -- The line is held already when the rest of its stretch begins, unless the ring was full.
      refine ⟨.record line :: first, later, by simp [split], ?_⟩
      simp only [stats_record enough, minSeverity_run_record] at counted
      rw [after_cons, counted, lines_cons_record enough, List.length_cons]
      omega
  | refuse journal line calls little ih =>
      obtain ⟨first, later, split, counted⟩ := ih
      refine ⟨.record line :: first, later, by simp [split], ?_⟩
      simp only [stats_refuse little, minSeverity_run_record] at counted
      rw [after_cons, counted, lines_cons_refused little]
  | clear journal calls ih =>
      have inside := journal.stored_le_capacity
      obtain ⟨first, later, split, counted⟩ := ih
      -- What is held fits, so a stretch that ends here drops nothing more.
      refine ⟨[], first :: later, by simp [split], ?_⟩
      simp only [stats_clear, minSeverity_clear] at counted
      rw [after_cons, run_clear, counted, List.map_cons, List.sum_cons, lines_nil,
        List.length_nil]
      omega

/-- Whatever is called, what a journal accepts goes into its ring, and what leaves the ring is
dropped or forgotten. -/
theorem totalRecorded_after_balances (journal : Journal) (calls : List Call) :
    (journal.after calls).stats.totalRecorded + journal.stats.stored + journal.stats.dropped =
      journal.stats.totalRecorded + (journal.after calls).stats.stored +
        (journal.after calls).stats.dropped + forgotten journal calls := by
  induction journal, calls using run_induction with
  | nil journal => simp [forgotten]
  | record journal line calls enough ih =>
      have inside := journal.stored_le_capacity
      simp only [stats_record enough] at ih
      simp only [after_cons, forgotten]
      omega
  | refuse journal line calls little ih =>
      simp only [stats_refuse little] at ih
      exact ih
  | clear journal calls ih =>
      simp only [stats_clear] at ih
      simp only [after_cons, run_clear, forgotten]
      omega

/-- A line that goes in gets the next number. -/
theorem number?_record (enough : journal.minSeverity.rank ≤ line.severity.rank) :
    (Call.record line).number? journal = some journal.nextId := by
  simp [Call.number?, Call.accepted?, enough, Call.run, Journal.record, enough.not_gt,
    Ring.getLast?_toList_push]

/-- Neither a line that is turned away nor a clearing gets one. -/
theorem number?_refuse (little : line.severity.rank < journal.minSeverity.rank) :
    (Call.record line).number? journal = none := by
  simp [Call.number?, Call.accepted?, little.not_ge]

/-- The number that comes next is one higher when a line has gone in. -/
theorem nextId_record (enough : journal.minSeverity.rank ≤ line.severity.rank) :
    (Call.run (.record line) journal).nextId = journal.nextId + 1 := by
  simp [Call.run, Journal.record, enough.not_gt]

/-- A line that is turned away uses no number up. -/
theorem nextId_refuse (little : line.severity.rank < journal.minSeverity.rank) :
    (Call.run (.record line) journal).nextId = journal.nextId := by
  simp [Call.run, Journal.record, little]

/-- A clearing goes on where the numbers were. -/
@[simp] theorem nextId_clear (journal : Journal) : journal.clear.nextId = journal.nextId := rfl

@[simp] theorem number?_clear : Call.clear.number? journal = none := rfl

/-- Numbers are given in turn, whatever is turned away or cleared in between. -/
theorem numbers_eq_range' (journal : Journal) (calls : List Call) :
    numbers journal calls =
      List.range' journal.nextId (lines journal.minSeverity calls).length := by
  induction journal, calls using run_induction with
  | nil journal => rfl
  | record journal line calls enough ih =>
      rw [numbers, number?_record enough, ih, nextId_record enough, lines_cons_record enough]
      simp [List.range'_succ]
  | refuse journal line calls little ih =>
      simp [numbers, number?_refuse little, ih, nextId_refuse little, lines_cons_refused little]
  | clear journal calls ih =>
      simp [numbers, ih]

variable (asked : Option Number) (least : Option Severity)

@[simp] theorem minSeverity_make : (make asked least).minSeverity = least.getD .trace := rfl

@[simp] theorem stats_make :
    (make asked least).stats =
      { capacity := capacityFor asked, stored := 0, totalRecorded := 0, dropped := 0,
        filtered := 0, warnCount := 0 } := rfl

/-- The counts of a journal add up, for every configuration and all calls. What was accepted was
numbered from one on and counted, so the total is the last number given; what was turned away was
counted as such, and the two are what was recorded; the warnings are those of the accepted lines.
What is stored is what a request for everything is answered with, and it is within the capacity.
Between two clearings just the lines accepted beyond the capacity make a journal drop entries. Hence
every accepted line is stored, was dropped, or was forgotten in a clearing. -/
theorem counts_add_up (calls : List Call) :
    let journal := (make asked least).after calls
    let accepted := lines (least.getD .trace)
    journal.stats.totalRecorded = (accepted calls).length ∧
    numbers (make asked least) calls = List.range' 1 journal.stats.totalRecorded ∧
    (numbers (make asked least) calls).getLast?.getD 0 = journal.stats.totalRecorded ∧
    journal.stats.filtered = calls.countP (Call.isRefused (least.getD .trace)) ∧
    journal.stats.totalRecorded + journal.stats.filtered = calls.countP Call.isRecord ∧
    journal.stats.warnCount = (accepted calls).countP (fun line => line.severity = .warn) ∧
    journal.stats.stored = (journal.query {}).length ∧
    journal.stats.capacity = capacityFor asked ∧
    journal.stats.stored ≤ capacityFor asked ∧
    journal.stats.dropped =
      ((stretches calls).map fun stretch =>
        (accepted stretch).length - capacityFor asked).sum ∧
    journal.stats.totalRecorded =
      journal.stats.stored + journal.stats.dropped + forgotten (make asked least) calls := by
  intro journal accepted
  have continues := continues_after (make asked least) calls
  simp only [stats_make, minSeverity_make] at continues
  have total : journal.stats.totalRecorded = (accepted calls).length := by
    simpa using continues.totalRecorded
  have numbered :
      numbers (make asked least) calls = List.range' 1 journal.stats.totalRecorded := by
    rw [numbers_eq_range', total]
    rfl
  have filtered : journal.stats.filtered = calls.countP (Call.isRefused (least.getD .trace)) := by
    simpa using continues.filtered
  have capacity : journal.stats.capacity = capacityFor asked := continues.capacity
  refine ⟨total, numbered, ?last, filtered, ?recorded, ?warned, ?stored, capacity, ?inside,
    ?dropped, ?balance⟩
  case last =>
      rw [numbered, List.getLast?_range']
      split <;> simp; omega
  case recorded => rw [total, filtered, length_lines_add_countP]
  case warned => simpa using continues.warnCount
  case stored =>
      rw [query_default, Ring.length_toList]
      rfl
  case inside => exact capacity ▸ journal.stored_le_capacity
  case dropped =>
      obtain ⟨first, later, split, counted⟩ := dropped_after (make asked least) calls
      simpa [journal, accepted, split] using counted
  case balance => simpa using totalRecorded_after_balances (make asked least) calls

/-- With place for two, a journal that wants information at least drops an entry of each stretch. -/
example :
    ((make (some 2) (some .info)).after
      [.record ⟨.state, .info, "made"⟩, .record ⟨.hover, .trace, "moved"⟩,
        .record ⟨.state, .warn, "reset"⟩, .record ⟨.window, .info, "added"⟩, .clear,
        .record ⟨.window, .info, "removed"⟩, .record ⟨.pilfer, .info, "claimed"⟩,
        .record ⟨.state, .warn, "reset"⟩]).stats =
      { capacity := 2, stored := 2, totalRecorded := 6, dropped := 2, filtered := 1,
        warnCount := 2 } := by decide

end Journal

end PointerRouting
