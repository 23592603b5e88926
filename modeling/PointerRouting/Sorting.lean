/-
Module: PointerRouting.Sorting
Purpose: A stable sort by merging runs. Its result is fixed even for a comparison that leaves some
  items unordered, because it is fixed which items are compared. Runs are taken from the list as
  they come, short ones are filled up, and neighbours are merged so that lengths stay balanced.
  Under a strict weak order the result is in order.
Main exports: Sorting.sort, Sorting.sort_perm, Sorting.inOrder_sort
-/
import PointerRouting.Sorting.MergeOrder
import PointerRouting.Sorting.Run

namespace PointerRouting.Sorting

variable {α : Type} (precedes : α → α → Bool)

/-- A list below this length is sorted as one run. -/
def shortList : Nat := 64

/-- The least length of a run in a list of so many items: the length is halved until the list is
short, and one is added if anything was lost. -/
def leastRun (count : Nat) (lost : Nat) : Nat :=
  if count < shortList then count + lost
  else leastRun (count / 2) (if count % 2 = 0 then lost else 1)
termination_by count
decreasing_by
  simp only [shortList] at *
  omega

/-- The run at the head of a list, filled up with the items after it to the least length, and
what follows. -/
def nextRun (least : Nat) (items : List α) : List α × List α :=
  let (run, remaining) := leadingRun precedes items
  let missing := least - run.length
  (placeAll precedes (remaining.take missing) run, remaining.drop missing)

/-- Whether a run is longer than the two after it together. Runs are listed latest first. -/
def isBalanced : List (List α) → Bool
  | latest :: middle :: earlier :: _ => latest.length + middle.length < earlier.length
  | _ => true

/-- Whether runs have to be merged before the next one is taken. -/
def needsMerge (latest middle : List α) (rest : List (List α)) : Bool :=
  !isBalanced (latest :: middle :: rest) || !isBalanced (middle :: rest) ||
    middle.length ≤ latest.length

/-- Merge the last run but one with its shorter neighbour, with the latest run if they are equally
long. -/
def mergeOnce (patience : Nat) : List (List α) → List (List α) × Nat
  | latest :: middle :: earlier :: rest =>
    if earlier.length < latest.length then
      let (merged, patience) := mergeRuns precedes patience earlier middle
      (latest :: merged :: rest, patience)
    else
      let (merged, patience) := mergeRuns precedes patience middle latest
      (merged :: earlier :: rest, patience)
  | [latest, middle] =>
    let (merged, patience) := mergeRuns precedes patience middle latest
    ([merged], patience)
  | runs => (runs, patience)

/-- One run fewer is left, if there were two. -/
theorem length_mergeOnce (patience : Nat) (latest middle : List α) (rest : List (List α)) :
    (mergeOnce precedes patience (latest :: middle :: rest)).1.length = rest.length + 1 := by
  cases rest with
  | nil => rfl
  | cons earlier rest => simp only [mergeOnce]; split <;> simp

/-- Merge while runs have to be merged. -/
def collapse (patience : Nat) (runs : List (List α)) : List (List α) × Nat :=
  match runs with
  | latest :: middle :: rest =>
    if needsMerge latest middle rest then
      let merged := mergeOnce precedes patience (latest :: middle :: rest)
      collapse merged.2 merged.1
    else (latest :: middle :: rest, patience)
  | short => (short, patience)
termination_by runs.length
decreasing_by
  rw [length_mergeOnce]
  simp

/-- Merge until one run is left. -/
def mergeAll (patience : Nat) : List (List α) → List α
  | [] => []
  | [run] => run
  | latest :: middle :: rest =>
    let merged := mergeOnce precedes patience (latest :: middle :: rest)
    mergeAll merged.2 merged.1
termination_by runs => runs.length
decreasing_by
  rw [length_mergeOnce]
  simp

/-- The next run and what follows it are the items. -/
theorem nextRun_perm (least : Nat) (items : List α) :
    ((nextRun precedes least items).1 ++ (nextRun precedes least items).2).Perm items := by
  simp only [nextRun]
  refine ((placeAll_perm ..).append_right _).trans ?_
  rw [List.append_assoc, List.take_append_drop]
  exact leadingRun_perm precedes items

/-- The next run of a list with items has items. -/
theorem length_nextRun (least : Nat) (item : α) (items : List α) :
    (nextRun precedes least (item :: items)).2.length < (item :: items).length := by
  have run : 0 < (leadingRun precedes (item :: items)).1.length := by
    match items with
    | [] => simp [leadingRun]
    | second :: rest => simp only [leadingRun]; split <;> simp
  have whole := (leadingRun_perm precedes (item :: items)).length_eq
  simp only [nextRun, List.length_drop, List.length_append] at *
  omega

/-- Take runs from a list and merge, then merge what is left. -/
def sortRuns (least patience : Nat) (runs : List (List α)) : List α → List α
  | [] => mergeAll precedes patience runs
  | item :: items =>
    let next := nextRun precedes least (item :: items)
    let collapsed := collapse precedes patience (next.1 :: runs)
    sortRuns least collapsed.2 collapsed.1 next.2
termination_by items => items.length
decreasing_by exact length_nextRun ..

/-- Sort a list. -/
def sort (items : List α) : List α :=
  sortRuns precedes (leastRun items.length 0) longStretch [] items

theorem mergeOnce_perm (patience : Nat) (runs : List (List α)) :
    (mergeOnce precedes patience runs).1.reverse.flatten.Perm runs.reverse.flatten := by
  unfold mergeOnce
  split
  · split
    · simpa using ((mergeRuns_perm precedes ..).append_right _).append_left _
    · simpa using ((mergeRuns_perm precedes ..).append_left _).append_left _
  · simpa using mergeRuns_perm precedes ..
  · exact .refl _

theorem collapse_perm (patience : Nat) (runs : List (List α)) :
    (collapse precedes patience runs).1.reverse.flatten.Perm runs.reverse.flatten := by
  fun_induction collapse precedes patience runs with
  | case1 _ _ _ _ _ _ ih => exact ih.trans (mergeOnce_perm ..)
  | case2 => exact .refl _
  | case3 => exact .refl _

theorem mergeAll_perm (patience : Nat) (runs : List (List α)) :
    (mergeAll precedes patience runs).Perm runs.reverse.flatten := by
  fun_induction mergeAll precedes patience runs with
  | case1 => exact .refl _
  | case2 => simp
  | case3 _ _ _ _ _ ih => exact ih.trans (mergeOnce_perm ..)

theorem sortRuns_perm (least patience : Nat) (runs : List (List α)) (items : List α) :
    (sortRuns precedes least patience runs items).Perm (runs.reverse.flatten ++ items) := by
  fun_induction sortRuns precedes least patience runs items with
  | case1 => simpa using mergeAll_perm ..
  | case2 patience runs item items next collapsed ih =>
    refine ih.trans (((collapse_perm ..).append_right _).trans ?_)
    simpa using (nextRun_perm precedes least (item :: items)).append_left runs.reverse.flatten

/-- Sorting keeps every item as often as it occurs. -/
theorem sort_perm (items : List α) : (sort precedes items).Perm items := by
  exact sortRuns_perm precedes (leastRun items.length 0) longStretch [] items

variable {precedes} {among : α → Prop}

/-- Runs that are in order, and whose items are among those that the order is about. -/
def RunsInOrder (precedes : α → α → Bool) (among : α → Prop) (runs : List (List α)) : Prop :=
  ∀ run ∈ runs, InOrder precedes run ∧ ∀ item ∈ run, among item

theorem runsInOrder_mergeOnce (order : StrictWeak precedes among) (patience : Nat)
    {runs : List (List α)} (inOrder : RunsInOrder precedes among runs) :
    RunsInOrder precedes among (mergeOnce precedes patience runs).1 := by
  have merged : ∀ {left right : List α}, left ∈ runs → right ∈ runs →
      InOrder precedes (mergeRuns precedes patience left right).1 ∧
        ∀ item ∈ (mergeRuns precedes patience left right).1, among item := by
    intro left right inLeft inRight
    have all : ∀ item ∈ left ++ right, among item := fun item member =>
      (List.mem_append.mp member).elim ((inOrder left inLeft).2 item)
        ((inOrder right inRight).2 item)
    exact ⟨inOrder_mergeRuns order patience all (inOrder left inLeft).1 (inOrder right inRight).1,
      fun item member => all item ((mergeRuns_perm ..).mem_iff.mp member)⟩
  unfold mergeOnce
  split
  · split
    · intro run member
      simp only [List.mem_cons] at member
      rcases member with rfl | rfl | later
      · exact inOrder _ (by simp)
      · exact merged (by simp) (by simp)
      · exact inOrder run (by simp [later])
    · intro run member
      simp only [List.mem_cons] at member
      rcases member with rfl | rfl | later
      · exact merged (by simp) (by simp)
      · exact inOrder _ (by simp)
      · exact inOrder run (by simp [later])
  · intro run member
    rw [List.mem_singleton.mp member]
    exact merged (by simp) (by simp)
  · exact inOrder

theorem runsInOrder_collapse (order : StrictWeak precedes among) (patience : Nat)
    {runs : List (List α)} (inOrder : RunsInOrder precedes among runs) :
    RunsInOrder precedes among (collapse precedes patience runs).1 := by
  fun_induction collapse precedes patience runs with
  | case1 _ _ _ _ _ _ ih => exact ih (runsInOrder_mergeOnce order _ inOrder)
  | case2 => exact inOrder
  | case3 => exact inOrder

theorem inOrder_mergeAll (order : StrictWeak precedes among) (patience : Nat)
    {runs : List (List α)} (inOrder : RunsInOrder precedes among runs) :
    InOrder precedes (mergeAll precedes patience runs) := by
  fun_induction mergeAll precedes patience runs with
  | case1 => exact .nil
  | case2 => exact (inOrder _ List.mem_cons_self).1
  | case3 _ _ _ _ _ ih => exact ih (runsInOrder_mergeOnce order _ inOrder)

theorem inOrder_nextRun (order : StrictWeak precedes among) (least : Nat) {items : List α}
    (all : ∀ item ∈ items, among item) : InOrder precedes (nextRun precedes least items).1 := by
  refine inOrder_placeAll order (fun item member => ?_) (inOrder_leadingRun order all)
  refine all item ((leadingRun_perm precedes items).mem_iff.mp ?_)
  exact (List.mem_append.mp member).elim (List.mem_append_left _) fun later =>
    List.mem_append_right _ (List.mem_of_mem_take later)

theorem inOrder_sortRuns (order : StrictWeak precedes among) (least patience : Nat)
    {runs : List (List α)} {items : List α} (inOrder : RunsInOrder precedes among runs)
    (all : ∀ item ∈ items, among item) :
    InOrder precedes (sortRuns precedes least patience runs items) := by
  fun_induction sortRuns precedes least patience runs items with
  | case1 => exact inOrder_mergeAll order _ inOrder
  | case2 patience runs item items next collapsed ih =>
    have amongParts : ∀ other ∈ next.1 ++ next.2, among other := fun other member =>
      all other ((nextRun_perm ..).mem_iff.mp member)
    refine ih (runsInOrder_collapse order _ fun run member => ?_) fun other member =>
      amongParts other (List.mem_append_right _ member)
    rcases List.mem_cons.mp member with rfl | older
    · exact ⟨inOrder_nextRun order least all, fun other member =>
        amongParts other (List.mem_append_left _ member)⟩
    · exact inOrder run older

/-- Under an order that is strict and weak among the items, the sorted list is in order. -/
theorem inOrder_sort (order : StrictWeak precedes among) {items : List α}
    (all : ∀ item ∈ items, among item) : InOrder precedes (sort precedes items) :=
  inOrder_sortRuns order (leastRun items.length 0) longStretch (by simp [RunsInOrder]) all

end PointerRouting.Sorting
