/-
Module: PointerRouting.Sorting.Run
Purpose: Runs, the stretches of a list that are in order already. The run at the head of a list is
  taken as it stands, turned round if it descends; single items are placed into a run by
  bisection.
Main exports: Sorting.leadingRun, Sorting.place, Sorting.placeAll, Sorting.leadingRun_perm,
  Sorting.place_perm, Sorting.inOrder_leadingRun, Sorting.inOrder_place
-/
import PointerRouting.Sorting.Order

namespace PointerRouting.Sorting

variable {α : Type} (precedes : α → α → Bool)

/-- Split a list where its items stop to continue the one before them. -/
def splitRun (continues : α → α → Bool) (previous : α) : List α → List α × List α
  | [] => ([], [])
  | item :: rest =>
    if continues previous item then
      let (run, remaining) := splitRun continues item rest
      (item :: run, remaining)
    else ([], item :: rest)

/-- The run at the head of a list in ascending order, and what follows it. The first two items
decide whether the run ascends or strictly descends. -/
def leadingRun : List α → List α × List α
  | first :: second :: rest =>
    let descending := precedes second first
    let (run, remaining) :=
      splitRun (fun previous item => precedes item previous == descending) first (second :: rest)
    (if descending then (first :: run).reverse else first :: run, remaining)
  | short => (short, [])

/-- Place an item by bisection: before the middle item if it precedes it, after it otherwise. -/
def place (item : α) (sorted : List α) : List α :=
  match _split : sorted.drop (sorted.length / 2) with
  | [] => [item]
  | middle :: upper =>
    let lower := sorted.take (sorted.length / 2)
    if precedes item middle then place item lower ++ middle :: upper
    else lower ++ middle :: place item upper
termination_by sorted.length
decreasing_by
  all_goals
    have := congrArg List.length _split
    simp only [List.length_drop, List.length_cons, List.length_take] at *
    omega

/-- Place items into a run one after another. -/
def placeAll (items run : List α) : List α :=
  items.foldl (fun run item => place precedes item run) run

theorem splitRun_append (continues : α → α → Bool) (previous : α) (items : List α) :
    (splitRun continues previous items).1 ++ (splitRun continues previous items).2 = items := by
  induction items generalizing previous with
  | nil => rfl
  | cons item rest ih =>
    by_cases h : continues previous item <;> simp [splitRun, h, ih]

theorem leadingRun_perm (items : List α) :
    ((leadingRun precedes items).1 ++ (leadingRun precedes items).2).Perm items := by
  match items with
  | [] => exact .refl _
  | [_] => exact .refl _
  | first :: second :: rest =>
    have split := splitRun_append
      (fun previous item => precedes item previous == precedes second first) first (second :: rest)
    simp only [leadingRun]
    split
    · refine ((List.reverse_perm _).append_right _).trans ?_
      rw [List.cons_append, split]
    · rw [List.cons_append, split]

/-- Placing an item adds it and moves nothing else out or in. -/
theorem place_perm (item : α) (sorted : List α) :
    (place precedes item sorted).Perm (item :: sorted) := by
  fun_induction place precedes item sorted with
  | case1 sorted split =>
    have : sorted.length = 0 := by
      have := congrArg List.length split
      simp only [List.length_drop, List.length_nil] at this
      omega
    rw [List.length_eq_zero_iff.mp this]
  | case2 sorted middle upper split lower _ ih =>
    have whole : lower ++ middle :: upper = sorted := by
      rw [← split]; exact List.take_append_drop ..
    exact (ih.append_right _).trans (by rw [List.cons_append, whole])
  | case3 sorted middle upper split lower _ ih =>
    have whole : lower ++ middle :: upper = sorted := by
      rw [← split]; exact List.take_append_drop ..
    refine ((ih.cons middle).append_left lower).trans ?_
    refine ((List.Perm.swap item middle upper).append_left lower).trans ?_
    exact List.perm_middle.trans (by rw [whole])

/-- Placing items adds them and nothing else. -/
theorem placeAll_perm (items run : List α) :
    (placeAll precedes items run).Perm (run ++ items) := by
  induction items generalizing run with
  | nil => simp [placeAll]
  | cons item rest ih =>
    refine (ih _).trans ?_
    exact ((place_perm precedes item run).append_right rest).trans List.perm_middle.symm

variable {precedes} {among : α → Prop}

theorem pairwise_splitRun (continues : α → α → Bool)
    (trans : ∀ {first second third}, among first → among second → among third →
      continues first second = true → continues second third = true →
      continues first third = true)
    {previous : α} {items : List α} (all : ∀ item ∈ previous :: items, among item) :
    (previous :: (splitRun continues previous items).1).Pairwise
      fun earlier later => continues earlier later = true := by
  induction items generalizing previous with
  | nil => simp [splitRun]
  | cons item rest ih =>
    by_cases next : continues previous item = true
    · have tail := ih fun other member => all other (List.mem_cons_of_mem _ member)
      have inside : ∀ other ∈ (splitRun continues item rest).1, among other := by
        intro other member
        refine all other (List.mem_cons_of_mem _ (List.mem_cons_of_mem _ ?_))
        rw [← splitRun_append continues item rest]
        exact List.mem_append_left _ member
      simp only [splitRun, next, if_true]
      refine List.pairwise_cons.mpr ⟨fun other member => ?_, tail⟩
      rcases List.mem_cons.mp member with rfl | later
      · exact next
      · exact trans (all previous List.mem_cons_self)
          (all item (List.mem_cons_of_mem _ List.mem_cons_self)) (inside other later) next
          ((List.pairwise_cons.mp tail).1 other later)
    · simp [splitRun, next]

/-- The run at the head comes out in order. -/
theorem inOrder_leadingRun (order : StrictWeak precedes among) {items : List α}
    (all : ∀ item ∈ items, among item) : InOrder precedes (leadingRun precedes items).1 := by
  match items with
  | [] => simp [InOrder, leadingRun]
  | [_] => simp [InOrder, leadingRun]
  | first :: second :: rest =>
    cases descending : precedes second first with
    | true =>
      have run := pairwise_splitRun (fun previous item => precedes item previous == true)
        (fun one two three before after => by
          simp only [beq_true] at *
          exact order.trans three two one after before) all
      have inside : ∀ item ∈ first ::
          (splitRun (fun previous item => precedes item previous == true) first
            (second :: rest)).1, among item := by
        intro item member
        refine all item ?_
        rw [← splitRun_append (fun previous item => precedes item previous == true) first
          (second :: rest)]
        exact (List.mem_cons.mp member).elim (fun same => same ▸ List.mem_cons_self)
          fun later => List.mem_cons_of_mem _ (List.mem_append_left _ later)
      simp only [leadingRun, descending, if_true, InOrder, List.pairwise_reverse]
      exact run.imp_of_mem fun earlier later precedes =>
        order.asymm (inside _ later) (inside _ earlier) (by simpa using precedes)
    | false =>
      have run := pairwise_splitRun (fun previous item => precedes item previous == false)
        (fun one two three before after => by
          simp only [beq_false, Bool.not_eq_true'] at *
          exact order.follows one two three before after) all
      simp only [leadingRun, descending, Bool.false_eq_true, if_false, InOrder]
      exact run.imp fun follows => by simpa using follows

/-- Placing an item keeps a list in order. -/
theorem inOrder_place (order : StrictWeak precedes among) {item : α} (amongItem : among item)
    {sorted : List α} (all : ∀ other ∈ sorted, among other) (inOrder : InOrder precedes sorted) :
    InOrder precedes (place precedes item sorted) := by
  fun_induction place precedes item sorted with
  | case1 => simp [InOrder]
  | case2 sorted middle upper split lower precedesMiddle ih =>
    have whole : lower ++ middle :: upper = sorted := by
      rw [← split]; exact List.take_append_drop ..
    rw [← whole] at inOrder all
    obtain ⟨lowerOrder, upperOrder, across⟩ := List.pairwise_append.mp inOrder
    have amongLower : ∀ other ∈ lower, among other := fun other member =>
      all other (List.mem_append_left _ member)
    have amongUpper : ∀ other ∈ middle :: upper, among other := fun other member =>
      all other (List.mem_append_right _ member)
    have amongMiddle := amongUpper middle List.mem_cons_self
    refine List.pairwise_append.mpr
      ⟨ih amongLower lowerOrder, upperOrder, fun earlier member later above => ?_⟩
    rcases List.mem_cons.mp ((place_perm precedes item lower).mem_iff.mp member) with rfl | below
    · have middleFollows := order.asymm amongItem amongMiddle precedesMiddle
      rcases List.mem_cons.mp above with rfl | further
      · exact middleFollows
      · exact order.follows amongItem amongMiddle (amongUpper later above) middleFollows
          ((List.pairwise_cons.mp upperOrder).1 later further)
    · exact across earlier below later above
  | case3 sorted middle upper split lower follows ih =>
    have whole : lower ++ middle :: upper = sorted := by
      rw [← split]; exact List.take_append_drop ..
    rw [← whole] at inOrder all
    obtain ⟨lowerOrder, upperOrder, across⟩ := List.pairwise_append.mp inOrder
    obtain ⟨middleFirst, restOrder⟩ := List.pairwise_cons.mp upperOrder
    have amongUpper : ∀ other ∈ upper, among other := fun other member =>
      all other (List.mem_append_right _ (List.mem_cons_of_mem _ member))
    have amongMiddle := all middle (List.mem_append_right _ List.mem_cons_self)
    have middleBelow : precedes item middle = false := by simpa using follows
    refine List.pairwise_append.mpr ⟨lowerOrder, List.pairwise_cons.mpr
      ⟨fun later member => ?_, ih amongUpper restOrder⟩, fun earlier below later member => ?_⟩
    · rcases List.mem_cons.mp ((place_perm precedes item upper).mem_iff.mp member) with rfl | above
      · exact middleBelow
      · exact middleFirst later above
    · rcases List.mem_cons.mp member with rfl | placed
      · exact across earlier below later List.mem_cons_self
      · rcases List.mem_cons.mp ((place_perm precedes item upper).mem_iff.mp placed) with
          rfl | above
        · exact order.follows (all earlier (List.mem_append_left _ below)) amongMiddle amongItem
            (across earlier below middle List.mem_cons_self) middleBelow
        · exact across earlier below later (List.mem_cons_of_mem _ above)

/-- Placing items keeps a run in order. -/
theorem inOrder_placeAll (order : StrictWeak precedes among) {items run : List α}
    (all : ∀ item ∈ run ++ items, among item) (inOrder : InOrder precedes run) :
    InOrder precedes (placeAll precedes items run) := by
  induction items generalizing run with
  | nil => exact inOrder
  | cons item rest ih =>
    have amongRun : ∀ other ∈ run, among other := fun other member =>
      all other (List.mem_append_left _ member)
    have amongItem := all item (List.mem_append_right _ List.mem_cons_self)
    refine ih (fun other member => ?_) (inOrder_place order amongItem amongRun inOrder)
    rcases List.mem_append.mp member with placed | later
    · rcases List.mem_cons.mp ((place_perm precedes item run).mem_iff.mp placed) with rfl | old
      · exact amongItem
      · exact amongRun other old
    · exact all other (List.mem_append_right _ (List.mem_cons_of_mem _ later))

end PointerRouting.Sorting
