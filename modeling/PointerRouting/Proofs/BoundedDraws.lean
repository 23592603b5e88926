/-
Module: PointerRouting.Proofs.BoundedDraws
Purpose: Integers that are drawn between bounds. Over the range in which a draw times the number of
  values needs no rounding, the value drawn is the least one plus a share of that number, rounded
  down. So it lies between the bounds; each value has the draws of an interval, whose length is the
  share of one value rounded down or up; and picking finds an item at the place drawn.
Main exports: Generator.placed, Generator.int_eq, Generator.placed_eq, card_draws_of_place,
  Generator.placed_between, Generator.card_draws_of_value, Generator.pick_of_items,
  Generator.draws_are_bounded_and_even
-/
import Mathlib.Algebra.Order.Floor.Div
import Mathlib.Order.Interval.Finset.Nat
import PointerRouting.Generator
import PointerRouting.Proofs.ExactNumbers

namespace PointerRouting

/-- Of all draws below a total, those whose share of a count is the given place are the ones from
the place's multiple of the total up to the next one's, both divided by the count. -/
theorem card_draws_of_place {total count place : Nat} (inside : place < count) :
    ((Finset.range total).filter fun draw => draw * count / total = place).card =
      (place + 1) * total ⌈/⌉ count - place * total ⌈/⌉ count := by
  have positive : 0 < count := Nat.zero_lt_of_lt inside
  have interval : ((Finset.range total).filter fun draw => draw * count / total = place) =
      Finset.Ico (place * total ⌈/⌉ count) ((place + 1) * total ⌈/⌉ count) := by
    ext draw
    rw [Finset.mem_filter, Finset.mem_range, Finset.mem_Ico, ceilDiv_le_iff_le_mul positive,
      ← not_le, ← not_le, ceilDiv_le_iff_le_mul positive, not_le, not_le, mul_comm count]
    constructor
    · rintro ⟨below, share⟩
      have totalPositive : 0 < total := Nat.zero_lt_of_lt below
      rw [Nat.div_eq_iff totalPositive] at share
      refine ⟨share.1, ?_⟩
      rw [add_mul, one_mul]
      omega
    · rintro ⟨reached, notPassed⟩
      have totalPositive : 0 < total := by
        by_contra none
        simp [Nat.eq_zero_of_not_pos none] at notPassed
      have below : draw * count < total * count :=
        notPassed.trans_le (by rw [mul_comm total]; exact Nat.mul_le_mul_right total inside)
      refine ⟨Nat.lt_of_mul_lt_mul_right below, ?_⟩
      rw [Nat.div_eq_iff totalPositive]
      rw [add_mul, one_mul] at notPassed
      omega
  rw [interval, Nat.card_Ico]

/-- Every place has the draws of one share, rounded down or up. -/
theorem card_draws_of_place_even {total count place : Nat} (inside : place < count) :
    ((Finset.range total).filter fun draw => draw * count / total = place).card = total / count ∨
      ((Finset.range total).filter fun draw => draw * count / total = place).card =
        total ⌈/⌉ count := by
  have positive : 0 < count := Nat.zero_lt_of_lt inside
  rw [card_draws_of_place inside]
  let first := place * total ⌈/⌉ count
  let next := (place + 1) * total ⌈/⌉ count
  have reached : place * total ≤ count * first := (ceilDiv_le_iff_le_mul positive).mp le_rfl
  have nextReached : (place + 1) * total ≤ count * next :=
    (ceilDiv_le_iff_le_mul positive).mp le_rfl
  rw [add_mul, one_mul] at nextReached
  have share : total ≤ count * (total ⌈/⌉ count) := (ceilDiv_le_iff_le_mul positive).mp le_rfl
  have atMost : next ≤ first + total ⌈/⌉ count := by
    rw [ceilDiv_le_iff_le_mul positive, add_mul, one_mul, mul_add]
    exact Nat.add_le_add reached share
  have atLeast : first ≤ next - total / count := by
    rw [ceilDiv_le_iff_le_mul positive, Nat.mul_sub]
    have whole := Nat.mul_div_le total count
    omega
  have fewer : total / count ≤ next := by
    rw [Nat.div_le_iff_le_mul_add_pred positive]
    omega
  have nearly : total ⌈/⌉ count ≤ total / count + 1 := by
    rw [ceilDiv_le_iff_le_mul positive]
    exact (Nat.lt_mul_div_succ total positive).le
  change next - first = _ ∨ next - first = _
  omega

namespace Number

theorem ofInt_inj {left right : Int} : ofInt left = ofInt right ↔ left = right := by
  constructor
  · intro same
    have integers := congrArg toInt? same
    rwa [toInt?_ofInt, toInt?_ofInt, Option.some.injEq] at integers
  · rintro rfl
    rfl

theorem min_finite (left right : Rat) :
    (Number.finite left).min (.finite right) = .finite (Min.min left right) := by
  simp only [Number.min, below, min_def]
  by_cases less : right < left
  · simp [less, not_le.mpr less]
  · simp [less, not_lt.mp less]

theorem max_finite (left right : Rat) :
    (Number.finite left).max (.finite right) = .finite (Max.max left right) := by
  simp only [Number.max, below, max_def]
  by_cases less : left < right
  · simp [less, less.le]
  · rcases (not_lt.mp less).lt_or_eq with greater | same
    · simp [less, not_le.mpr greater]
    · simp [same]

end Number

namespace Generator

/-- The number that a draw gives between two bounds. The draw is counted in units of 2^-32. -/
def placed (draw : Nat) (bound other : Number) : Number :=
  let low := (bound.min other).ceil
  let high := (bound.max other).floor
  let count := (high.sub low).add 1
  low.add ((Number.finite ((draw : Rat) / 2 ^ (32 : Nat))).mul count).floor

/-- An integer costs one draw, and nothing but that draw goes into it. -/
theorem int_eq (generator : Generator) (bound other : Number) :
    generator.int bound other = (placed generator.next.1.toNat bound other, generator.next.2) := rfl

/-- The share that a draw has of a count needs no rounding before it is rounded down. -/
theorem floor_mul_count {draw count : Nat} (isDraw : draw < 2 ^ 32) (few : count ≤ 2 ^ 21) :
    ((Number.finite ((draw : Rat) / 2 ^ (32 : Nat))).mul (.ofInt count)).floor =
      .ofInt (draw * count / 2 ^ 32 : Nat) := by
  have product : (draw : Rat) / 2 ^ (32 : Nat) * ((count : Int) : Rat) =
      ((draw * count : Nat) : Int) * 2 ^ (-32 : Int) := by
    push_cast
    rw [zpow_neg]
    ring
  have small : |((draw * count : Nat) : Int)| < 2 ^ 53 := by
    rw [Nat.abs_cast]
    have below : draw * count < 2 ^ 32 * 2 ^ 21 :=
      Nat.mul_lt_mul_of_lt_of_le isDraw few (by decide)
    exact_mod_cast below
  have exact := Number.nearest_of_multiple product small (by decide) (by decide)
  have quotient : (draw : Rat) / 2 ^ (32 : Nat) * ((count : Int) : Rat) =
      ((draw * count : Nat) : Int) / ((2 ^ 32 : Nat) : Rat) := by
    push_cast
    ring
  rw [Number.ofInt, Number.mul, exact, Number.floor, quotient]
  congr 1
  exact Rat.floor_intCast_div_natCast _ _

theorem share_lt {draw count : Nat} (isDraw : draw < 2 ^ 32) (positive : 0 < count) :
    draw * count / 2 ^ 32 < count :=
  Nat.div_lt_of_lt_mul (Nat.mul_lt_mul_of_pos_right isDraw positive)

/-- Between bounds that leave a moderate number of integers between them, a draw gives the least of
these and its share of their number. -/
theorem placed_eq {draw : Nat} (isDraw : draw < 2 ^ 32) {bound other : Number} {low : Int}
    {count : Nat} (lowest : (bound.min other).ceil = .ofInt low)
    (highest : (bound.max other).floor = .ofInt (low + count - 1)) (few : count ≤ 2 ^ 21)
    (near : |low| ≤ 2 ^ 52) :
    placed draw bound other = .ofInt (low + (draw * count / 2 ^ 32 : Nat)) := by
  obtain ⟨lowNear, highNear⟩ := abs_le.mp near
  have span : (Number.ofInt (low + count - 1)).sub (.ofInt low) = .ofInt (count - 1) := by
    have whole : low + count - 1 - low = (count : Int) - 1 := by ring
    rw [Number.sub_ofInt (abs_lt.mpr (by omega)), whole]
  have counted : (Number.ofInt (count - 1)).add 1 = .ofInt count := by
    have one : (1 : Number) = .ofInt 1 := rfl
    rw [one, Number.add_ofInt (abs_lt.mpr (by omega)), sub_add_cancel]
  have share : draw * count / 2 ^ 32 ≤ count :=
    Nat.div_le_of_le_mul (Nat.mul_le_mul_right count isDraw.le)
  simp only [placed]
  rw [lowest, highest, span, counted, floor_mul_count isDraw few,
    Number.add_ofInt (abs_lt.mpr (by omega))]

/-- Bounds that are integers of moderate magnitude, in either order, leave that many integers
between them. -/
theorem placed_of_integers {draw : Nat} (isDraw : draw < 2 ^ 32) {first second : Int}
    (firstNear : |first| ≤ 2 ^ 52) (secondNear : |second| ≤ 2 ^ 52)
    (few : |first - second| < 2 ^ 21) :
    placed draw (.ofInt first) (.ofInt second) =
      .ofInt (min first second + (draw * (|first - second| + 1).toNat / 2 ^ 32 : Nat)) := by
  have lowest : ((Number.ofInt first).min (.ofInt second)).ceil = .ofInt (min first second) := by
    rw [Number.ofInt, Number.ofInt, Number.min_finite, ← Int.cast_min, Number.ceil,
      Rat.ceil_intCast]
  have spread : (|first - second| + 1).toNat = |first - second| + 1 :=
    Int.toNat_of_nonneg (by positivity)
  have top : max first second = min first second + (|first - second| + 1).toNat - 1 := by
    rw [spread, ← max_sub_min_eq_abs']
    ring
  have highest : ((Number.ofInt first).max (.ofInt second)).floor =
      .ofInt (min first second + (|first - second| + 1).toNat - 1) := by
    rw [Number.ofInt, Number.ofInt, Number.max_finite, ← Int.cast_max, Number.floor,
      Rat.floor_intCast, top]
  refine placed_eq isDraw lowest highest (by omega) ?_
  rcases min_choice first second with least | least
  · rwa [least]
  · rwa [least]

/-- A draw between finite bounds of moderate magnitude, if there is an integer between them, is an
integer between them. -/
theorem placed_between {draw : Nat} (isDraw : draw < 2 ^ 32) {bound other : Rat}
    (boundNear : |bound| < 2 ^ 20) (otherNear : |other| < 2 ^ 20)
    (room : ∃ value : Int, min bound other ≤ value ∧ value ≤ max bound other) :
    ∃ value : Int, placed draw (.finite bound) (.finite other) = .ofInt value ∧
      min bound other ≤ value ∧ value ≤ max bound other := by
  obtain ⟨between, aboveLeast, belowGreatest⟩ := room
  let low := (min bound other).ceil
  let high := (max bound other).floor
  have ordered : low ≤ high :=
    (Rat.ceil_le_iff.mpr aboveLeast).trans (Rat.le_floor_iff.mpr belowGreatest)
  have lowest : ((Number.finite bound).min (.finite other)).ceil = .ofInt low := by
    rw [Number.min_finite]
    rfl
  have highest : ((Number.finite bound).max (.finite other)).floor =
      .ofInt (low + (high - low + 1).toNat - 1) := by
    have same : low + ((high - low + 1).toNat : Int) - 1 = high := by omega
    rw [Number.max_finite, same]
    rfl
  have lowAbove : -2 ^ 20 < low := by
    rw [Rat.lt_ceil_iff]
    push_cast
    exact lt_min (abs_lt.mp boundNear).1 (abs_lt.mp otherNear).1
  have highBelow : high < 2 ^ 20 := by
    rw [Rat.floor_lt_iff]
    push_cast
    exact max_lt (abs_lt.mp boundNear).2 (abs_lt.mp otherNear).2
  have share : draw * (high - low + 1).toNat / 2 ^ 32 < (high - low + 1).toNat :=
    share_lt isDraw (by omega)
  refine ⟨_, placed_eq isDraw lowest highest (by omega) (abs_le.mpr (by omega)), ?_, ?_⟩
  · refine Rat.le_ceil.trans (Rat.intCast_le_intCast.mpr ?_)
    change low ≤ _
    omega
  · refine le_trans (Rat.intCast_le_intCast.mpr ?_) (Rat.floor_le _)
    change _ ≤ high
    omega

section

variable {first second value : Int} (firstNear : |first| ≤ 2 ^ 52) (secondNear : |second| ≤ 2 ^ 52)
  (few : |first - second| < 2 ^ 21) (aboveLeast : min first second ≤ value)
include firstNear secondNear few aboveLeast

/-- A draw gives a value just in case its share is the value's place among those between the
bounds. -/
theorem placed_eq_ofInt_iff {draw : Nat} (isDraw : draw < 2 ^ 32) :
    placed draw (.ofInt first) (.ofInt second) = .ofInt value ↔
      draw * (|first - second| + 1).toNat / 2 ^ 32 = (value - min first second).toNat := by
  rw [placed_of_integers isDraw firstNear secondNear few, Number.ofInt_inj]
  omega

/-- Each integer between two bounds that are integers has a share of the draws, rounded down or
up. -/
theorem card_draws_of_value (belowGreatest : value ≤ max first second) :
    ((Finset.range (2 ^ 32)).filter fun draw =>
        placed draw (.ofInt first) (.ofInt second) = .ofInt value).card =
      2 ^ 32 / (|first - second| + 1).toNat ∨
    ((Finset.range (2 ^ 32)).filter fun draw =>
        placed draw (.ofInt first) (.ofInt second) = .ofInt value).card =
      2 ^ 32 ⌈/⌉ (|first - second| + 1).toNat := by
  have spread := max_sub_min_eq_abs' first second
  have inside : (value - min first second).toNat < (|first - second| + 1).toNat := by omega
  rw [Finset.filter_congr fun draw listed =>
    placed_eq_ofInt_iff firstNear secondNear few aboveLeast (Finset.mem_range.mp listed)]
  exact card_draws_of_place_even inside

end

theorem itemAt_of_items {Item : Type} {items : List Item} {place : Nat}
    (inside : place < items.length) :
    itemAt (items.map some) (.ofInt place) = some items[place] := by
  simp [itemAt, inside]

/-- Of a list of items without gaps one is picked, for one draw. -/
theorem pick_of_items {Item : Type} (generator : Generator) {items : List Item}
    (nonempty : items ≠ []) (few : items.length ≤ 2 ^ 21) :
    ∃ item ∈ items, generator.pick (items.map some) = (.ok item, generator.next.2) := by
  have positive : 0 < items.length := List.length_pos_iff.mpr nonempty
  have isDraw := generator.next.1.isLt
  let place := generator.next.1.toNat * items.length / 2 ^ 32
  have inside : place < items.length := share_lt isDraw positive
  have drawn : generator.int 0 (.ofInt ((items.map some).length - 1)) =
      (.ofInt place, generator.next.2) := by
    have count : (|(0 : Int) - (items.length - 1)| + 1).toNat = items.length := by
      rw [abs_of_nonpos (by omega)]
      omega
    have zero : (0 : Number) = .ofInt 0 := rfl
    have zeroNear : |(0 : Int)| ≤ 2 ^ 52 := by norm_num
    have lastNear : |(items.length : Int) - 1| ≤ 2 ^ 52 := abs_le.mpr (by omega)
    have spread : |(0 : Int) - (items.length - 1)| < 2 ^ 21 := abs_lt.mpr (by omega)
    rw [int_eq, List.length_map, zero,
      placed_of_integers isDraw zeroNear lastNear spread, count, min_eq_left (by omega), zero_add]
  refine ⟨items[place], List.getElem_mem inside, ?_⟩
  have notEmpty : (items.map some).isEmpty = false := by simpa using nonempty
  simp only [pick, notEmpty, drawn, itemAt_of_items inside]
  rfl

/-- Draws are bounded and even, for a generator at whatever state. Between finite bounds below 2^20
in magnitude, whole or not and in either order, that leave an integer between them, an integer
between them is drawn. It is given by the word of the draw alone, which is 2^32 times the number
that would have been drawn from zero up to one; and if the bounds are integers, then of the 2^32
words each integer between them has those of one share, rounded down or up. A list of fewer than
2^21 items that has no gap and is not empty always gives one of its items. -/
theorem draws_are_bounded_and_even (generator : Generator) :
    (∀ bound other : Rat, |bound| < 2 ^ 20 → |other| < 2 ^ 20 →
      (∃ value : Int, min bound other ≤ value ∧ value ≤ max bound other) →
        ∃ value : Int,
          (generator.int (.finite bound) (.finite other)).1 = .ofInt value ∧
            min bound other ≤ value ∧ value ≤ max bound other) ∧
    (∀ bound other : Number,
      (generator.int bound other).1 = placed generator.next.1.toNat bound other) ∧
    generator.fraction.1 = .finite (generator.next.1.toNat / 2 ^ (32 : Nat)) ∧
    generator.next.1.toNat < 2 ^ 32 ∧
    (∀ first second value : Int, |first| < 2 ^ 20 → |second| < 2 ^ 20 →
      min first second ≤ value → value ≤ max first second →
        let count := (|first - second| + 1).toNat
        let draws := (Finset.range (2 ^ 32)).filter fun draw =>
          placed draw (.ofInt first) (.ofInt second) = .ofInt value
        draws.card = 2 ^ 32 / count ∨ draws.card = 2 ^ 32 ⌈/⌉ count) ∧
    ∀ (Item : Type) (items : List Item), items ≠ [] → items.length < 2 ^ 21 →
      ∃ item ∈ items, (generator.pick (items.map some)).1 = .ok item := by
  have isDraw : generator.next.1.toNat < 2 ^ 32 := generator.next.1.isLt
  refine ⟨?_, fun _ _ => rfl, rfl, isDraw, ?_, ?_⟩
  · intro bound other boundNear otherNear room
    rw [int_eq]
    exact placed_between isDraw boundNear otherNear room
  · intro first second value firstNear secondNear aboveLeast belowGreatest
    obtain ⟨firstAbove, firstBelow⟩ := abs_lt.mp firstNear
    obtain ⟨secondAbove, secondBelow⟩ := abs_lt.mp secondNear
    exact card_draws_of_value (abs_le.mpr (by omega)) (abs_le.mpr (by omega))
      (abs_lt.mpr (by omega)) aboveLeast belowGreatest
  · intro Item items nonempty few
    obtain ⟨item, listed, picked⟩ := generator.pick_of_items nonempty few.le
    exact ⟨item, listed, by rw [picked]⟩

/-- With seed 42 something from -2 to 5 is drawn between 5.5 and -2.5; a third of the words, or one
more, give 7 between 8 and 6; and one of three names is picked. -/
theorem seed_42_draws_between :
    let generator := seeded 42
    (∃ value : Int, (generator.int (.finite (11 / 2)) (.finite (-5 / 2))).1 = .ofInt value ∧
      min (11 / 2) (-5 / 2) ≤ (value : Rat) ∧ (value : Rat) ≤ max (11 / 2) (-5 / 2)) ∧
    (let draws := (Finset.range (2 ^ 32)).filter fun draw =>
        placed draw (.ofInt 8) (.ofInt 6) = .ofInt 7
     draws.card = 2 ^ 32 / 3 ∨ draws.card = 2 ^ 32 ⌈/⌉ 3) ∧
    ∃ item ∈ ["a", "b", "c"], (generator.pick (["a", "b", "c"].map some)).1 = .ok item := by
  intro generator
  obtain ⟨between, _, _, _, even, picks⟩ := draws_are_bounded_and_even generator
  refine ⟨between (11 / 2) (-5 / 2) (by decide +kernel) (by decide +kernel) ⟨0, ?_⟩, ?_, ?_⟩
  · norm_num
  · exact even 8 6 7 (by decide) (by decide) (by decide) (by decide)
  · exact picks String ["a", "b", "c"] (by decide) (by decide)

end Generator

end PointerRouting
