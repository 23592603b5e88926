/-
Module: PointerRouting.Pointer.Id
Purpose: Pointer and device ids as the operations see them. Numbers come in from callers; an
  operation that looks at one turns it into an id or reports the violation.
Main exports: PointerId, checkPointer, checkDevice
-/
import PointerRouting.Violation

namespace PointerRouting

/-- How many pointers a gesture can have. -/
def pointerCapacity : Nat := 32

/-- The highest pointer id of a gesture. -/
def maxPointerId : Nat := pointerCapacity - 1

/-- A pointer of a gesture. -/
abbrev PointerId := Fin 32

/-- There are pointers, so that numerals can name them. The zero is spelled out, as which one is
found depends on what else is imported. -/
instance PointerId.neZero : @NeZero Nat Zero.ofOfNat0 32 := ⟨Nat.succ_ne_zero 31⟩

/-- The pointer a number names, if it is an integer from 0 to 31. -/
def PointerId.ofNumber? (number : Number) : Option PointerId :=
  match number.toInt? with
  | some value => if bound : 0 ≤ value ∧ value < 32 then some ⟨value.toNat, by omega⟩ else none
  | none => none

/-- The number of a pointer. -/
def PointerId.number (pointer : PointerId) : Number := .ofInt pointer.val

/-- The pointer a number names, or the violation of naming none. -/
def checkPointer (number : Number) : Except Violation PointerId :=
  match PointerId.ofNumber? number with
  | some pointer => .ok pointer
  | none => .error (.pointerOutOfRange number)

/-- The device a number names, or the violation of naming none. -/
def checkDevice (number : Number) : Except Violation Int :=
  match number.safeInt? with
  | some device => .ok device
  | none => .error (.deviceNotSafe number)

@[simp] theorem PointerId.ofNumber?_number (pointer : PointerId) :
    PointerId.ofNumber? pointer.number = some pointer := by
  have inside : (0 : Int) ≤ (pointer.val : Int) ∧ (pointer.val : Int) < 32 := by omega
  simp only [PointerId.ofNumber?, PointerId.number, Number.toInt?_ofInt, dif_pos inside]
  rfl

/-- A number names a pointer just in case it is that pointer's number. -/
theorem PointerId.ofNumber?_eq_some_iff {number : Number} {pointer : PointerId} :
    ofNumber? number = some pointer ↔ number = pointer.number := by
  constructor
  · intro names
    simp only [ofNumber?] at names
    split at names
    next value isInt =>
      split at names
      next bound =>
        cases names
        have same : ((value.toNat : Nat) : Int) = value := by omega
        rw [Number.toInt?_eq_some_iff.mp isInt, PointerId.number, same]
      next => cases names
    next => cases names
  · rintro rfl
    exact ofNumber?_number pointer

@[simp] theorem checkPointer_number (pointer : PointerId) :
    checkPointer pointer.number = .ok pointer := by
  simp [checkPointer]

theorem checkPointer_of_named {number : Number} {pointer : PointerId}
    (named : PointerId.ofNumber? number = some pointer) : checkPointer number = .ok pointer := by
  rw [checkPointer, named]

theorem checkPointer_of_unnamed {number : Number} (unnamed : PointerId.ofNumber? number = none) :
    checkPointer number = .error (.pointerOutOfRange number) := by
  rw [checkPointer, unnamed]

end PointerRouting
