/-
Module: PointerRouting.Number.Rounding
Purpose: Arithmetic with one rounding. A sum, difference or product is taken exactly over the
  rationals and then moved to the nearest point of the binary64 grid: 53 significant bits, no
  unit below 2^-1074, nothing finite from 2^1024 on. A tie goes to the even multiple of the unit.
Main exports: Number.roundHalfEven, Number.unitExponent, Number.nearest, Number.add,
  Number.sub, Number.mul
-/
import PointerRouting.Number.Basic

namespace PointerRouting.Number

/-- The nearest integer; a half goes to the even neighbour. -/
def roundHalfEven (value : Rat) : Int :=
  let lower := value.floor
  let remainder := value - lower
  if remainder < 1 / 2 then lower
  else if 1 / 2 < remainder then lower + 1
  else if lower % 2 = 0 then lower
  else lower + 1

/-- The exponent of the greatest power of two not above the magnitude of a nonzero value. -/
def floorLog2 (value : Rat) : Int :=
  let estimate : Int := (value.num.natAbs.log2 : Int) - value.den.log2
  if (2 : Rat) ^ estimate * value.den ≤ value.num.natAbs then estimate else estimate - 1

/-- The grid around a value consists of the multiples of two to this exponent. -/
def unitExponent (value : Rat) : Int := max (floorLog2 value - 52) (-1074)

/-- The number nearest to an exact value; from 2^1024 on, an infinity. -/
def nearest (value : Rat) : Number :=
  let unit := (2 : Rat) ^ unitExponent value
  let rounded := roundHalfEven (value / unit) * unit
  if (2 : Rat) ^ (1024 : Nat) ≤ rounded then .infinite false
  else if rounded ≤ -(2 : Rat) ^ (1024 : Nat) then .infinite true
  else .finite rounded

/-- The number with the other sign. -/
def neg : Number → Number
  | .nan => .nan
  | .infinite negative => .infinite (!negative)
  | .finite value => .finite (-value)

/-- The rounded sum. Opposite infinities have none. -/
def add : Number → Number → Number
  | .finite left, .finite right => nearest (left + right)
  | .infinite left, .infinite right => if left = right then .infinite left else .nan
  | .infinite negative, .finite _ => .infinite negative
  | .finite _, .infinite negative => .infinite negative
  | .nan, _ => .nan
  | _, .nan => .nan

/-- The rounded difference. -/
def sub (left right : Number) : Number := add left right.neg

/-- The rounded product. An infinity times zero is NaN. -/
def mul : Number → Number → Number
  | .finite left, .finite right => nearest (left * right)
  | .infinite left, .infinite right => .infinite (left != right)
  | .infinite negative, .finite value => scaled negative value
  | .finite value, .infinite negative => scaled negative value
  | .nan, _ => .nan
  | _, .nan => .nan
where
  /-- An infinity multiplied by a finite value. -/
  scaled (negative : Bool) (value : Rat) : Number :=
    if value = 0 then .nan else .infinite (negative != decide (value < 0))

/-- The lesser of two numbers; NaN if either is. -/
def min (left right : Number) : Number :=
  if left = .nan ∨ right = .nan then .nan else if right.below left then right else left

/-- The greater of two numbers; NaN if either is. -/
def max (left right : Number) : Number :=
  if left = .nan ∨ right = .nan then .nan else if left.below right then right else left

end PointerRouting.Number
