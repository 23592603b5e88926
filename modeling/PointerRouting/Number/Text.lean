/-
Module: PointerRouting.Number.Text
Purpose: The text of a number: the fewest decimal digits that round back to it, and of those the
  digits nearest to it. Up to 21 places before the point and six zeros after it are written out;
  beyond that the text has an exponent.
Main exports: Number.Numeral, Number.shortest, Number.text
-/
import PointerRouting.Number.Rounding

namespace PointerRouting.Number

/-- Decimal digits, most significant first, and how many of them stand before the point: the
numeral of `digits` and `point` is `0.digits` times ten to the `point`. -/
structure Numeral where
  digits : List Char
  point : Int

/-- How many decimal places a positive value has before its point; zero or negative below one. -/
def pointPosition (value : Rat) : Int :=
  let estimate : Int :=
    ((Nat.toDigits 10 value.num.natAbs).length : Int) - (Nat.toDigits 10 value.den).length
  if (10 : Rat) ^ estimate ≤ value then estimate + 1 else estimate

/-- The nearest multiple of ten to the `exponent` that rounds to a positive value, as a count of
that unit: one of the value's two neighbours on the decimal grid, or none. -/
def decimalNeighbour? (value : Rat) (exponent : Int) : Option Nat :=
  let unit := (10 : Rat) ^ exponent
  let lower := (value / unit).floor.toNat
  let upper := lower + 1
  let roundsBack (count : Nat) : Bool := nearest (count * unit) = .finite value
  match roundsBack lower, roundsBack upper with
  | true, true =>
    let below := value - lower * unit
    let above := upper * unit - value
    if below < above ∨ (below = above ∧ lower % 2 = 0) then some lower else some upper
  | true, false => some lower
  | false, true => some upper
  | false, false => none

/-- The numeral of a count of units of ten to the `exponent`, without trailing zeros. -/
def numeralOf (count : Nat) (exponent : Int) : Numeral :=
  let digits := Nat.toDigits 10 count
  { digits := (digits.reverse.dropWhile (· = '0')).reverse
    point := digits.length + exponent }

/-- The shortest numeral of a positive value: the first of the grids of 1, 2, … 17 digits on
which a neighbour of the value rounds back to it. -/
def shortest (value : Rat) : Numeral :=
  let point := pointPosition value
  let found := (List.range 17).findSome? fun digits =>
    let exponent := point - (digits + 1 : Nat)
    (decimalNeighbour? value exponent).map (numeralOf · exponent)
  found.getD (numeralOf (value / (10 : Rat) ^ (point - 17)).floor.toNat (point - 17))

/-- Up to this many places before the point, a numeral is written without an exponent. -/
def positionalLimit : Int := 21

/-- With fewer than this many zeros after the point, a numeral below one is written without an
exponent. -/
def leadingZeroLimit : Int := 6

/-- How a numeral is written. -/
def Numeral.text (numeral : Numeral) : String :=
  let digits := numeral.digits
  let point := numeral.point
  if digits.length ≤ point ∧ point ≤ positionalLimit then
    String.ofList (digits ++ List.replicate (point.toNat - digits.length) '0')
  else if 0 < point ∧ point ≤ positionalLimit then
    String.ofList (digits.take point.toNat ++ '.' :: digits.drop point.toNat)
  else if -leadingZeroLimit < point ∧ point ≤ 0 then
    String.ofList ('0' :: '.' :: (List.replicate (-point).toNat '0' ++ digits))
  else
    let fraction := digits.drop 1
    let exponent := point - 1
    String.ofList
      (digits.take 1 ++ (if fraction.isEmpty then [] else '.' :: fraction) ++
        'e' :: (if exponent < 0 then '-' else '+') :: Nat.toDigits 10 exponent.natAbs)

/-- The decimal text of an integer. -/
def intText (value : Int) : String :=
  let digits := String.ofList (Nat.toDigits 10 value.natAbs)
  if value < 0 then "-" ++ digits else digits

/-- The text of a finite value. Integers of safe magnitude have no shorter numeral than their own
digits, so they are written directly. -/
def valueText (value : Rat) : String :=
  if value.den = 1 ∧ value.num.natAbs ≤ maxSafeInt then intText value.num
  else if value < 0 then "-" ++ (shortest (-value)).text
  else (shortest value).text

/-- The text of a number. -/
def text : Number → String
  | .nan => "NaN"
  | .infinite negative => if negative then "-Infinity" else "Infinity"
  | .finite value => valueText value

end PointerRouting.Number
