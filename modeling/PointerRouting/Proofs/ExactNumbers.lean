/-
Module: PointerRouting.Proofs.ExactNumbers
Purpose: Arithmetic that needs no rounding. A value that is a multiple of some power of two, with a
  count of at most 53 bits, lies on the grid around it, and the nearest number to it is the value
  itself. So sums and differences of integers are exact as long as they stay below 2^53.
Main exports: Number.roundHalfEven_intCast, Number.two_zpow_floorLog2_le,
  Number.nearest_of_multiple, Number.nearest_intCast, Number.add_ofInt, Number.sub_ofInt
-/
import Mathlib.Algebra.Order.Field.Power
import Mathlib.Data.Rat.Floor
import Mathlib.Tactic.Linarith
import PointerRouting.Number.Rounding

namespace PointerRouting.Number

@[simp] theorem roundHalfEven_intCast (value : Int) : roundHalfEven (value : Rat) = value := by
  simp [roundHalfEven]

theorem abs_eq_natAbs_div (value : Rat) : |value| = (value.num.natAbs : Rat) / value.den := by
  have quotient := congrArg abs (Rat.num_div_den value)
  rw [abs_div, Nat.abs_cast] at quotient
  rw [← quotient, ← Int.cast_abs, Int.abs_eq_natAbs, Int.cast_natCast]

/-- The power of two that is found for a value is not above its magnitude. -/
theorem two_zpow_floorLog2_le {value : Rat} (nonzero : value ≠ 0) :
    (2 : Rat) ^ floorLog2 value ≤ |value| := by
  have denPos : (0 : Rat) < value.den := Nat.cast_pos.mpr value.den_pos
  rw [abs_eq_natAbs_div, le_div_iff₀ denPos]
  simp only [floorLog2]
  split
  next reached => exact reached
  next =>
    -- One step below the estimate no more can be lost than the denominator's last bit.
    have numNonzero : value.num.natAbs ≠ 0 := by simpa using nonzero
    have numLarge : ((2 ^ value.num.natAbs.log2 : Nat) : Rat) ≤ value.num.natAbs :=
      Nat.cast_le.mpr (Nat.log2_self_le numNonzero)
    have denSmall : (value.den : Rat) ≤ ((2 ^ (value.den.log2 + 1) : Nat) : Rat) :=
      Nat.cast_le.mpr Nat.lt_log2_self.le
    refine le_trans ?_ numLarge
    calc (2 : Rat) ^ ((value.num.natAbs.log2 : Int) - value.den.log2 - 1) * value.den
        ≤ (2 : Rat) ^ ((value.num.natAbs.log2 : Int) - value.den.log2 - 1) *
            ((2 ^ (value.den.log2 + 1) : Nat) : Rat) :=
          mul_le_mul_of_nonneg_left denSmall (zpow_nonneg (by norm_num) _)
      _ = ((2 ^ value.num.natAbs.log2 : Nat) : Rat) := by
          push_cast
          rw [← zpow_natCast, ← zpow_natCast, ← zpow_add₀ (by norm_num)]
          congr 1
          push_cast
          ring

/-- The grid around a value below a power of two is as fine as 53 bits allow. -/
theorem unitExponent_le {value : Rat} (nonzero : value ≠ 0) {exponent : Int}
    (below : |value| < 2 ^ (exponent + 53)) (bottom : -1074 ≤ exponent) :
    unitExponent value ≤ exponent := by
  have less : floorLog2 value < exponent + 53 := by
    have powers := (two_zpow_floorLog2_le nonzero).trans_lt below
    exact (zpow_lt_zpow_iff_right₀ (by norm_num)).mp powers
  rw [unitExponent]
  omega

/-- A value that is a whole number of units on the grid around it is its own nearest number. -/
theorem nearest_of_units {value : Rat} {units : Int}
    (whole : value = units * 2 ^ unitExponent value) (inside : |value| < 2 ^ (1024 : Nat)) :
    nearest value = .finite value := by
  have unitNonzero : (2 : Rat) ^ unitExponent value ≠ 0 := zpow_ne_zero _ (by norm_num)
  have quotient : value / 2 ^ unitExponent value = units := (div_eq_iff unitNonzero).mpr whole
  obtain ⟨low, high⟩ := abs_lt.mp inside
  simp only [nearest, quotient, roundHalfEven_intCast, ← whole, if_neg (not_le.mpr high),
    if_neg (not_le.mpr low)]

/-- A multiple of a power of two with a count of at most 53 bits is its own nearest number, unless
the power is too small or too large for the grid. -/
theorem nearest_of_multiple {value : Rat} {count exponent : Int}
    (multiple : value = count * 2 ^ exponent) (small : |count| < 2 ^ 53)
    (bottom : -1074 ≤ exponent) (top : exponent ≤ 971) : nearest value = .finite value := by
  have positive : (0 : Rat) < 2 ^ exponent := zpow_pos (by norm_num) exponent
  have counted : |(count : Rat)| < 2 ^ (53 : Int) := by
    rw [← Int.cast_abs]
    exact_mod_cast small
  have below : |value| < 2 ^ (exponent + 53) := by
    rw [multiple, abs_mul, abs_of_pos positive, zpow_add₀ (by norm_num), mul_comm]
    exact mul_lt_mul_of_pos_left counted positive
  have inside : |value| < 2 ^ (1024 : Nat) := by
    refine below.trans_le ?_
    rw [← zpow_natCast]
    exact zpow_le_zpow_right₀ (by norm_num) (by push_cast; omega)
  by_cases zero : value = 0
  · have none : value = (0 : Int) * 2 ^ unitExponent value := by simp [zero]
    exact nearest_of_units none inside
  · have finer := unitExponent_le zero below bottom
    obtain ⟨steps, apart⟩ := Int.eq_ofNat_of_zero_le (Int.sub_nonneg.mpr finer)
    have split : exponent = steps + unitExponent value := by omega
    have whole : value = (count * 2 ^ steps : Int) * 2 ^ unitExponent value := by
      conv_lhs => rw [multiple, split, zpow_add₀ (by norm_num), zpow_natCast, ← mul_assoc]
      push_cast
      rfl
    exact nearest_of_units whole inside

/-- Integers below 2^53 are numbers themselves. -/
theorem nearest_intCast {value : Int} (small : |value| < 2 ^ 53) :
    nearest value = .ofInt value := by
  have multiple : (value : Rat) = value * 2 ^ (0 : Int) := by simp
  exact nearest_of_multiple multiple small (by decide) (by decide)

/-- Sums of integers are exact as long as they stay below 2^53. -/
theorem add_ofInt {left right : Int} (small : |left + right| < 2 ^ 53) :
    (ofInt left).add (ofInt right) = .ofInt (left + right) := by
  have whole := nearest_intCast small
  rw [Int.cast_add] at whole
  exact whole

/-- Differences of integers are exact as long as they stay below 2^53. -/
theorem sub_ofInt {left right : Int} (small : |left - right| < 2 ^ 53) :
    (ofInt left).sub (ofInt right) = .ofInt (left - right) := by
  have negated : (ofInt right).neg = ofInt (-right) := by
    simp [ofInt, neg]
  rw [sub_eq_add_neg] at small ⊢
  rw [sub, negated, add_ofInt small]

end PointerRouting.Number
