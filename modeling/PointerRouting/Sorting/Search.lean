/-
Module: PointerRouting.Sorting.Search
Purpose: How far the items at the head of a list go on before the first that stops them. Probes
  at growing distances bracket that place, and bisection finds it. If every item after a stopping
  one stops too, the answer is the place of the first; otherwise it is some place, and which one
  depends on the probes.
Main exports: Sorting.Side, Sorting.reach, Sorting.reach_spec
-/

namespace PointerRouting.Sorting

/-- The end of two runs at which they are merged. -/
inductive Side where
  | front
  | back
deriving DecidableEq

/-- How far into a gap bisection looks. A gap of even width has two middle places; seen from the
end at which the list starts, the front takes the farther one and the back the nearer one. -/
def Side.middle : Side → Nat → Nat
  | .front, width => width / 2
  | .back, width => (width - 1) / 2

/-- Probe at growing distances: the last place that does not stop, and the first probed one that
does, or the size. -/
def gallop (stops : Nat → Bool) (size last probe : Nat) : Nat × Nat :=
  if probe < size then
    if stops probe then (last, probe) else gallop stops size probe (2 * probe + 1)
  else (last, size)
termination_by size - probe

/-- Bisect the places from `low` up to `high`. -/
def bisect (side : Side) (stops : Nat → Bool) (low high : Nat) : Nat :=
  if low < high then
    let middle := low + side.middle (high - low)
    if stops middle then bisect side stops low middle else bisect side stops (middle + 1) high
  else low
termination_by high - low
decreasing_by
  all_goals
    simp only [Side.middle] at *
    split <;> omega

/-- Whether the item at a place stops. -/
def stopsAt {α : Type} (stops : α → Bool) (items : List α) (place : Nat) : Bool :=
  items[place]?.any stops

/-- How many items go before the first that stops. -/
def reach {α : Type} (side : Side) (stops : α → Bool) (items : List α) : Nat :=
  if items.isEmpty || stopsAt stops items 0 then 0
  else
    let (last, probe) := gallop (stopsAt stops items) items.length 0 1
    bisect side (stopsAt stops items) (last + 1) probe

/-- A place splits others: none before it stops, and all from it up to the size do. -/
def Splits (stops : Nat → Bool) (size place : Nat) : Prop :=
  (∀ earlier < place, stops earlier = false) ∧
    ∀ later < size, place ≤ later → stops later = true

theorem gallop_bounds (stops : Nat → Bool) {size last probe : Nat} (before : last < probe)
    (inside : last < size) :
    (gallop stops size last probe).1 < (gallop stops size last probe).2 ∧
      (gallop stops size last probe).2 ≤ size := by
  fun_induction gallop stops size last probe with
  | case1 last probe within stop => exact ⟨before, Nat.le_of_lt within⟩
  | case2 last probe within go ih => exact ih (by omega) within
  | case3 last probe beyond => exact ⟨inside, Nat.le_refl _⟩

theorem gallop_stops {stops : Nat → Bool} (size : Nat) {last : Nat} (probe : Nat)
    (go : stops last = false) :
    stops (gallop stops size last probe).1 = false ∧
      ((gallop stops size last probe).2 < size →
        stops (gallop stops size last probe).2 = true) := by
  fun_induction gallop stops size last probe with
  | case1 last probe within stop => exact ⟨go, fun _ => stop⟩
  | case2 last probe within goes ih => exact ih (by simpa using goes)
  | case3 last probe beyond => exact ⟨go, fun inside => absurd inside (Nat.lt_irrefl _)⟩

/-- Where stopping lasts, bisection finds the place that splits. -/
theorem splits_bisect {side : Side} {stops : Nat → Bool} {size low high : Nat}
    (lasts : ∀ earlier later, earlier ≤ later → later < size → stops earlier = true →
      stops later = true)
    (bound : low ≤ high) (within : high ≤ size)
    (before : ∀ earlier < low, stops earlier = false)
    (after : ∀ later < size, high ≤ later → stops later = true) :
    Splits stops size (bisect side stops low high) := by
  fun_induction bisect side stops low high with
  | case1 low high gap middle stop ih =>
    have inside : middle < high := by simp only [middle, Side.middle]; split <;> omega
    exact ih (by omega) (by omega) before fun later bound above =>
      lasts middle later above bound stop
  | case2 low high gap middle go ih =>
    have inside : middle < high := by simp only [middle, Side.middle]; split <;> omega
    refine ih (by omega) within (fun earlier bound => ?_) after
    cases stop : stops earlier with
    | false => rfl
    | true =>
      have := lasts earlier middle (by omega) (by omega) stop
      simp_all
  | case3 low high closed =>
    have same : low = high := by omega
    exact ⟨before, same ▸ after⟩

variable {α : Type}

/-- If every item after a stopping one stops too, the items that the reach counts do not stop
and the others do. -/
theorem reach_spec (side : Side) {stops : α → Bool} {items : List α}
    (lasts : items.Pairwise fun earlier later => stops earlier = true → stops later = true) :
    (∀ item ∈ items.take (reach side stops items), stops item = false) ∧
      ∀ item ∈ items.drop (reach side stops items), stops item = true := by
  have lastsAt : ∀ earlier later, earlier ≤ later → later < items.length →
      stopsAt stops items earlier = true → stopsAt stops items later = true := by
    intro earlier later order bound stop
    have earlierBound : earlier < items.length := by omega
    simp only [stopsAt, List.getElem?_eq_getElem bound, List.getElem?_eq_getElem earlierBound,
      Option.any_some] at stop ⊢
    by_cases same : earlier = later
    · subst same; exact stop
    · exact List.pairwise_iff_getElem.mp lasts earlier later earlierBound bound (by omega) stop
  have splits : Splits (stopsAt stops items) items.length (reach side stops items) := by
    unfold reach
    split
    case isTrue first =>
      refine ⟨fun _ bound => absurd bound (Nat.not_lt_zero _), fun later bound _ => ?_⟩
      have nonempty : items.isEmpty = false := by
        cases items with
        | nil => simp at bound
        | cons => rfl
      exact lastsAt 0 later (Nat.zero_le _) bound (by simpa [nonempty] using first)
    case isFalse go =>
      have parts : items.isEmpty = false ∧ stopsAt stops items 0 = false := by simpa using go
      have nonempty : 0 < items.length := by
        cases items with
        | nil => simp at parts
        | cons => simp
      have bounds := gallop_bounds (stopsAt stops items) Nat.zero_lt_one nonempty
      have ends := gallop_stops items.length 1 parts.2
      refine splits_bisect lastsAt bounds.1 bounds.2 (fun earlier bound => ?_)
        fun later bound above => lastsAt _ later above bound (ends.2 (by omega))
      cases stop : stopsAt stops items earlier with
      | false => rfl
      | true =>
        have := lastsAt earlier _ (Nat.le_of_lt_succ bound) (by omega) stop
        simp [ends.1] at this
  constructor
  · intro item member
    obtain ⟨place, bound, rfl⟩ := List.mem_iff_getElem.mp member
    rw [List.length_take] at bound
    have := splits.1 place (by omega)
    simpa [stopsAt, List.getElem?_eq_getElem (show place < items.length by omega)] using this
  · intro item member
    obtain ⟨place, bound, rfl⟩ := List.mem_iff_getElem.mp member
    rw [List.length_drop] at bound
    have := splits.2 (reach side stops items + place) (by omega) (by omega)
    simpa [stopsAt, List.getElem?_eq_getElem
      (show reach side stops items + place < items.length by omega)] using this

end PointerRouting.Sorting
