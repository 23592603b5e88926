/-
Module: PointerRouting.Number.Basic
Purpose: The numbers that reach routing from outside. A caller may hand in a fraction, an
  infinity or NaN where a pointer, a device, a time or a mask is meant, so every such argument
  is a `Number` until the operation that needs more looks at it. Two numbers are the same exactly
  when they are the same key: NaN equals itself, and zero has one form because nothing here
  tells its sign.
Main exports: Number, Number.toInt?, Number.safeInt?, Number.truncate, Number.word, Number.ofInt
-/

namespace PointerRouting

/-- A finite value, one of the two infinities, or NaN. -/
inductive Number where
  | nan
  | infinite (negative : Bool)
  | finite (value : Rat)
deriving DecidableEq, Inhabited

namespace Number

/-- The number of an integer. -/
def ofInt (value : Int) : Number := .finite value

instance (value : Nat) : OfNat Number value := ⟨.finite value⟩

/-- The integer a number is, if it is one. -/
def toInt? : Number → Option Int
  | .finite value => if value.den = 1 then some value.num else none
  | _ => none

/-- The greatest safe magnitude, 2^53 - 1: an integer up to it is the only one that is rounded to
its number. -/
def maxSafeInt : Int := 9007199254740991

/-- The integer a number is, if its magnitude leaves no doubt which integer was meant. -/
def safeInt? (number : Number) : Option Int :=
  number.toInt?.filter fun value => -maxSafeInt ≤ value ∧ value ≤ maxSafeInt

/-- Strict order. NaN is below nothing and above nothing. -/
def below : Number → Number → Bool
  | .finite left, .finite right => left < right
  | .infinite true, .finite _ => true
  | .infinite true, .infinite false => true
  | .finite _, .infinite false => true
  | _, _ => false

/-- Whether a number is neither infinite nor NaN. -/
def isFinite : Number → Bool
  | .finite _ => true
  | _ => false

/-- A value without its fraction: rounding goes toward zero. -/
def truncateValue (value : Rat) : Int := value.num.tdiv value.den

/-- A number without its fraction. -/
def truncate : Number → Number
  | .finite value => ofInt (truncateValue value)
  | number => number

/-- The greatest integer not above a number. -/
def floor : Number → Number
  | .finite value => ofInt value.floor
  | number => number

/-- The least integer not below a number. -/
def ceil : Number → Number
  | .finite value => ofInt value.ceil
  | number => number

/-- The 32-bit word a number stands for: its integer part modulo 2^32. What is not finite
stands for the empty word. -/
def word : Number → BitVec 32
  | .finite value => BitVec.ofInt 32 (truncateValue value)
  | _ => 0

/-- The number a word is read back as once it has been combined: words are signed. -/
def ofWord (bits : BitVec 32) : Number := ofInt bits.toInt

@[simp] theorem toInt?_ofInt (value : Int) : (ofInt value).toInt? = some value := by
  simp [ofInt, toInt?]

/-- A number is an integer just in case it is that integer's number. -/
theorem toInt?_eq_some_iff {number : Number} {value : Int} :
    number.toInt? = some value ↔ number = ofInt value := by
  constructor
  · intro isInt
    cases number with
    | finite rational =>
      simp only [toInt?, Option.ite_none_right_eq_some, Option.some.injEq] at isInt
      obtain ⟨whole, rfl⟩ := isInt
      exact congrArg finite (Rat.ext (by simp) (by simp [whole]))
    | _ => cases isInt
  · rintro rfl
    exact toInt?_ofInt value

@[simp] theorem truncateValue_intCast (value : Int) : truncateValue (value : Rat) = value := by
  simp [truncateValue]

@[simp] theorem word_ofInt (value : Int) : (ofInt value).word = BitVec.ofInt 32 value := by
  simp [ofInt, word]

/-- Reading a word back as a number and the number as a word loses nothing. -/
@[simp] theorem word_ofWord (bits : BitVec 32) : (ofWord bits).word = bits := by
  simp [ofWord]

end Number

end PointerRouting
