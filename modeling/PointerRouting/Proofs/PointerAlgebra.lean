/-
Module: PointerRouting.Proofs.PointerAlgebra
Purpose: Sets of pointers are the finite subsets of the 32 pointers. Seen through their ids, the
  operations on words are the operations on finite sets, and every finite set is one of them. Seen
  through numbers, a set is an unsigned word: to combine two numbers gives a signed word, which
  differs from it as soon as pointer 31 is in it, and taking the result as a mask mends that.
Main exports: PointerSet.ids, PointerSet.number, Number.combine, PointerSet.ofNumbers_of_named,
  PointerSet.ofNumbers_of_unnamed, PointerSet.mem_ofMask, PointerSet.ActsOnIds,
  PointerSet.ActsOnNumbers, PointerSet.sets_are_finite_subsets
-/
import Mathlib.Data.Finset.SymmDiff
import Mathlib.Data.Rat.Floor
import Mathlib.Tactic.Tauto
import PointerRouting.Pointer.Set

namespace PointerRouting

namespace Number

/-- What combining two numbers bit by bit gives: of their words a word, which is read as signed. -/
def combine (left : Number) (operator : BitVec 32 → BitVec 32 → BitVec 32) (right : Number) :
    Number :=
  .ofWord (operator left.word right.word)

/-- A number loses its fraction toward zero. -/
theorem truncateValue_eq (value : Rat) :
    truncateValue value = if 0 ≤ value then ⌊value⌋ else ⌈value⌉ := by
  split
  case isTrue nonneg =>
    rw [truncateValue, Int.tdiv_eq_ediv_of_nonneg (Rat.num_nonneg.mpr nonneg), Rat.floor_def']
  case isFalse negative =>
    have nonneg : 0 ≤ -value.num := by
      have := Rat.num_nonneg.not.mpr negative
      omega
    have mirrored : (-value.num).tdiv value.den = -value.num.tdiv value.den := Int.neg_tdiv _ _
    rw [← neg_neg value, Int.ceil_neg, Rat.floor_def', Rat.neg_num, Rat.neg_den,
      ← Int.tdiv_eq_ediv_of_nonneg nonneg, mirrored, neg_neg, neg_neg, truncateValue]

end Number

/-- The numbers that name a pointer are the integers from 0 to 31. -/
theorem PointerId.isSome_ofNumber?_iff {number : Number} :
    (ofNumber? number).isSome = true ↔
      ∃ value : Int, number = .ofInt value ∧ 0 ≤ value ∧ value ≤ 31 := by
  rw [Option.isSome_iff_exists]
  constructor
  · rintro ⟨pointer, named⟩
    rw [ofNumber?_eq_some_iff] at named
    exact ⟨pointer.val, named, by omega, by omega⟩
  · rintro ⟨value, rfl, low, high⟩
    refine ⟨⟨value.toNat, by omega⟩, ofNumber?_eq_some_iff.mpr ?_⟩
    rw [PointerId.number, Int.toNat_of_nonneg low]

namespace PointerSet

/-- The pointers of a set, as they are listed. -/
def ids (set : PointerSet) : Finset PointerId := set.toList.toFinset

/-- The number that a set is published as: its word without a sign. -/
def number (set : PointerSet) : Number := .ofInt set.bits.toNat

variable {left right set : PointerSet} {pointer : PointerId}

@[simp] theorem mem_ids : pointer ∈ set.ids ↔ pointer ∈ set := by
  rw [ids, List.mem_toFinset, mem_toList]

/-- Pointers are listed from low to high, each once. -/
theorem ascending_toList (set : PointerSet) : set.toList.Pairwise (· < ·) :=
  (List.pairwise_lt_finRange 32).filter _

theorem ids_inj : left.ids = right.ids ↔ left = right := by
  constructor
  · intro same
    apply ext_mem
    intro pointer
    rw [← mem_ids, same, mem_ids]
  · rintro rfl
    rfl

/-- No finite set of pointers is missing. -/
theorem exists_ids (pointers : Finset PointerId) : ∃ set : PointerSet, set.ids = pointers := by
  refine ⟨ofList ((List.finRange 32).filter (· ∈ pointers)), ?_⟩
  ext pointer
  simp

/-- Numbers that all name pointers make the set of these pointers. -/
theorem ofNumbers_of_named {numbers : List Number}
    (named : ∀ number ∈ numbers, (PointerId.ofNumber? number).isSome = true) :
    ofNumbers numbers = .ok (ofList (numbers.filterMap PointerId.ofNumber?)) := by
  have fold : ∀ start : PointerSet,
      numbers.foldlM (fun set number => return set.insert (← checkPointer number)) start =
        (.ok ((numbers.filterMap PointerId.ofNumber?).foldl insert start) :
          Except Violation PointerSet) := by
    induction numbers with
    | nil => exact fun _ => rfl
    | cons number rest ih =>
        intro start
        obtain ⟨pointer, names⟩ := Option.isSome_iff_exists.mp (named number List.mem_cons_self)
        rw [List.foldlM_cons, checkPointer_of_named names, List.filterMap_cons_some names]
        exact ih (fun other listed => named other (List.mem_cons_of_mem _ listed)) _
  exact fold ∅

/-- The first number that names no pointer is the one that is reported. -/
theorem ofNumbers_of_unnamed {before later : List Number} {bad : Number}
    (named : ∀ number ∈ before, (PointerId.ofNumber? number).isSome = true)
    (unnamed : PointerId.ofNumber? bad = none) :
    ofNumbers (before ++ bad :: later) = .error (.pointerOutOfRange bad) := by
  have reached := ofNumbers_of_named named
  rw [ofNumbers] at reached ⊢
  rw [List.foldlM_append, reached]
  simp only [List.foldlM_cons, checkPointer_of_unnamed unnamed, bind, Except.bind]

/-- The set of numbers that all name pointers lists just these numbers. -/
theorem mem_numbers_ofNumbers {numbers : List Number}
    (named : ∀ number ∈ numbers, (PointerId.ofNumber? number).isSome = true) {number : Number} :
    number ∈ (ofList (numbers.filterMap PointerId.ofNumber?)).toList.map PointerId.number ↔
      number ∈ numbers := by
  simp only [List.mem_map, mem_toList, mem_ofList, List.mem_filterMap]
  constructor
  · rintro ⟨pointer, ⟨other, listed, names⟩, rfl⟩
    rw [PointerId.ofNumber?_eq_some_iff] at names
    exact names ▸ listed
  · intro listed
    obtain ⟨pointer, names⟩ := Option.isSome_iff_exists.mp (named number listed)
    exact ⟨pointer, ⟨number, listed, names⟩, (PointerId.ofNumber?_eq_some_iff.mp names).symm⟩

/-- A set is made again from the numbers that it lists. -/
theorem ofNumbers_toList (set : PointerSet) :
    ofNumbers (set.toList.map PointerId.number) = .ok set := by
  have named : ∀ number ∈ set.toList.map PointerId.number,
      (PointerId.ofNumber? number).isSome = true := by
    intro number listed
    obtain ⟨pointer, _, rfl⟩ := List.mem_map.mp listed
    simp
  have ids : (set.toList.map PointerId.number).filterMap PointerId.ofNumber? = set.toList := by
    simp [List.filterMap_map]
  rw [ofNumbers_of_named named, ids]
  congr 1
  apply ext_mem
  intro pointer
  rw [mem_ofList, mem_toList]

/-- A mask holds the pointers whose bits are set in its whole part, modulo 2^32. -/
theorem mem_ofMask {value : Rat} :
    pointer ∈ ofMask (.finite value) ↔
      ((if 0 ≤ value then ⌊value⌋ else ⌈value⌉) % 2 ^ 32).toNat.testBit pointer = true := by
  rw [mem_def, ofMask, Number.word, ← Number.truncateValue_eq, ← BitVec.testBit_toNat,
    BitVec.toNat_ofInt]
  rfl

/-- The word of the number of a set is the word of the set. -/
theorem word_number (set : PointerSet) : set.number.word = set.bits := by
  rw [number, Number.word_ofInt, BitVec.ofInt_natCast, BitVec.ofNat_toNat, BitVec.setWidth_eq]

/-- The number 2^n has the bit of pointer n, the sign bit if n is 31. -/
theorem word_two_pow (pointer : PointerId) :
    (Number.ofInt (2 ^ pointer.val : Nat)).word = bit pointer := by
  rw [Number.word_ofInt, BitVec.ofInt_natCast]
  apply BitVec.eq_of_toNat_eq
  rw [BitVec.toNat_ofNat, bit, BitVec.toNat_twoPow]

/-- A combined number, signed as it is, is the mask of the combined words. -/
theorem ofMask_combine (operator : BitVec 32 → BitVec 32 → BitVec 32) (left right : Number) :
    ofMask (left.combine operator right) = ⟨operator left.word right.word⟩ := by
  rw [ofMask, Number.combine, Number.word_ofWord]

/-- A combined number is zero just in case the combined word has no bits, whatever its sign. -/
theorem combine_eq_zero_iff {operator : BitVec 32 → BitVec 32 → BitVec 32} {left right : Number} :
    left.combine operator right = 0 ↔ operator left.word right.word = 0 := by
  constructor
  · intro zero
    have words := congrArg Number.word zero
    rwa [Number.combine, Number.word_ofWord] at words
  · intro zero
    rw [Number.combine, zero]
    rfl

/-- The operations on sets do to the ids what the operations on finite sets do. -/
structure ActsOnIds (left right : PointerSet) (pointer : PointerId) : Prop where
  mem : pointer ∈ left ↔ pointer ∈ left.ids
  insert : (left.insert pointer).ids = Insert.insert pointer left.ids
  erase : (left.erase pointer).ids = left.ids.erase pointer
  union : (left ∪ right).ids = left.ids ∪ right.ids
  sdiff : (left \ right).ids = left.ids \ right.ids
  inter : (left ∩ right).ids = left.ids ∩ right.ids
  symmDiff : (left.symmDiff right).ids = left.ids \ right.ids ∪ right.ids \ left.ids
  isEmpty : left.isEmpty = true ↔ left.ids = ∅
  eq : left = right ↔ left.ids = right.ids

/-- The operations on sets are computed with the numbers that sets and pointers are published as:
numbers are combined bit by bit, and a signed outcome is taken as a mask. -/
structure ActsOnNumbers (left right : PointerSet) (pointer : PointerId) : Prop where
  mem : pointer ∈ left ↔
    left.number.combine (· &&& ·) (.ofInt (2 ^ pointer.val : Nat)) ≠ 0
  insert : left.insert pointer =
    ofMask (left.number.combine (· ||| ·) (.ofInt (2 ^ pointer.val : Nat)))
  erase : left.erase pointer =
    ofMask (left.number.combine (· &&& ~~~·) (.ofInt (2 ^ pointer.val : Nat)))
  union : left ∪ right = ofMask (left.number.combine (· ||| ·) right.number)
  sdiff : left \ right = ofMask (left.number.combine (· &&& ~~~·) right.number)
  inter : left ∩ right = ofMask (left.number.combine (· &&& ·) right.number)
  symmDiff : left.symmDiff right = ofMask (left.number.combine (· ^^^ ·) right.number)
  isEmpty : left.isEmpty = true ↔ left.number = 0
  eq : left = right ↔ left.number = right.number

theorem actsOnIds (left right : PointerSet) (pointer : PointerId) :
    ActsOnIds left right pointer where
  mem := mem_ids.symm
  insert := by
    ext other
    simp [or_comm]
  erase := by
    ext other
    simp [and_comm]
  union := by
    ext other
    simp
  sdiff := by
    ext other
    simp
  inter := by
    ext other
    simp
  symmDiff := by
    ext other
    simp only [mem_ids, mem_symmDiff, Finset.mem_union, Finset.mem_sdiff]
    tauto
  isEmpty := by
    rw [isEmpty_iff, Finset.eq_empty_iff_forall_notMem]
    simp only [mem_ids]
  eq := ids_inj.symm

/-- Whether a pointer is in a set shows in the word that has no other bit. -/
theorem and_bit_eq_zero_iff : set.bits &&& bit pointer = 0 ↔ pointer ∉ set := by
  have bitNonzero : BitVec.twoPow 32 pointer ≠ 0 := by
    intro zero
    have read := congrArg (·.getLsbD pointer.val) zero
    simp at read
  rw [mem_def, bit, BitVec.and_twoPow]
  cases present : set.bits.getLsbD pointer with
  | true => simpa using bitNonzero
  | false => simp

theorem number_inj : left.number = right.number ↔ left = right := by
  constructor
  · intro same
    have words := congrArg Number.word same
    rw [word_number, word_number] at words
    cases left
    cases right
    exact congrArg mk words
  · rintro rfl
    rfl

theorem actsOnNumbers (left right : PointerSet) (pointer : PointerId) :
    ActsOnNumbers left right pointer where
  mem := by
    rw [Ne, combine_eq_zero_iff, word_number, word_two_pow, and_bit_eq_zero_iff, not_not]
  insert := by
    rw [ofMask_combine, word_number, word_two_pow]
    rfl
  erase := by
    rw [ofMask_combine, word_number, word_two_pow]
    rfl
  union := by
    rw [ofMask_combine, word_number, word_number]
    rfl
  sdiff := by
    rw [ofMask_combine, word_number, word_number]
    rfl
  inter := by
    rw [ofMask_combine, word_number, word_number]
    rfl
  symmDiff := by
    rw [ofMask_combine, word_number, word_number]
    rfl
  isEmpty := isEmpty_iff_eq.trans number_inj.symm
  eq := number_inj.symm

/-- Sets of pointers are the finite sets of integers from 0 to 31. A list of numbers makes a set
unless one of them is no such integer, and then the first one that is not is reported; the set
lists its pointers from low to high, once each, and it is made again from its list and from its
number. The operations act as those on finite sets, for every two sets and every pointer, and they
are what combining numbers computes. A mask holds the bits of its whole part modulo 2^32, and the
number of a set is never negative: it is below 2^32, and pointer 31 counts as 2^31. -/
theorem sets_are_finite_subsets :
    (∀ number, (PointerId.ofNumber? number).isSome = true ↔
      ∃ value : Int, number = .ofInt value ∧ 0 ≤ value ∧ value ≤ 31) ∧
    (∀ before bad later,
      (∀ number ∈ before, (PointerId.ofNumber? number).isSome = true) →
        PointerId.ofNumber? bad = none →
          ofNumbers (before ++ bad :: later) = .error (.pointerOutOfRange bad) ∧
            (Report.ofViolation (.pointerOutOfRange bad)).code.text = "TR_INVALID_POINTER_ID" ∧
            (Report.ofViolation (.pointerOutOfRange bad)).message =
              "pointer id " ++ bad.text ++ " is outside 0..31") ∧
    (∀ numbers, (∀ number ∈ numbers, (PointerId.ofNumber? number).isSome = true) →
      ∃ set, ofNumbers numbers = .ok set ∧ set.toList.Pairwise (· < ·) ∧
        ∀ number, number ∈ set.toList.map PointerId.number ↔ number ∈ numbers) ∧
    (∀ left right pointer, ActsOnIds left right pointer ∧ ActsOnNumbers left right pointer) ∧
    (∀ pointers : Finset PointerId, ∃ set : PointerSet, set.ids = pointers) ∧
    (∀ set, ofNumbers (set.toList.map PointerId.number) = .ok set ∧ ofMask set.number = set) ∧
    (∀ value pointer, pointer ∈ ofMask (.finite value) ↔
      ((if 0 ≤ value then ⌊value⌋ else ⌈value⌉) % 2 ^ 32).toNat.testBit pointer = true) ∧
    (ofMask .nan = ∅ ∧ ∀ negative, ofMask (.infinite negative) = ∅) ∧
    (∀ set : PointerSet, ∃ word : Nat, set.number = .ofInt word ∧ word < 2 ^ 32 ∧
      ∀ pointer : PointerId, word.testBit pointer = true ↔ pointer ∈ set) := by
  refine ⟨fun _ => PointerId.isSome_ofNumber?_iff, ?_, ?_,
    fun left right pointer => ⟨actsOnIds left right pointer, actsOnNumbers left right pointer⟩,
    exists_ids, ?_, fun _ _ => mem_ofMask, ⟨rfl, fun _ => rfl⟩, ?_⟩
  · intro before bad later named unnamed
    exact ⟨ofNumbers_of_unnamed named unnamed, rfl, rfl⟩
  · intro numbers named
    exact ⟨_, ofNumbers_of_named named, ascending_toList _, fun _ => mem_numbers_ofNumbers named⟩
  · intro set
    exact ⟨ofNumbers_toList set, congrArg mk (word_number set)⟩
  · intro set
    refine ⟨set.bits.toNat, rfl, set.bits.isLt, ?_⟩
    intro pointer
    rw [BitVec.testBit_toNat, mem_def]

/-- NaN is reported before 32 is looked at. Pointer 31 makes the number of a set large and what is
computed with it negative, and the set comes out right. -/
theorem pointer_31_has_no_sign :
    ofNumbers ([31, 5] ++ .nan :: [32]) = .error (.pointerOutOfRange .nan) ∧
      (∃ set, ofNumbers [31, 0, 31] = .ok set ∧ set.toList.Pairwise (· < ·) ∧
        ∀ number, number ∈ set.toList.map PointerId.number ↔ number ∈ [31, 0, 31]) ∧
      (singleton 31).number = 2147483648 ∧
      (singleton 31).number.combine (· ||| ·) (singleton 0).number = .ofInt (-2147483647) ∧
      singleton 31 ∪ singleton 0 = ofMask (.ofInt (-2147483647)) := by
  obtain ⟨_, refuses, makes, acts, _⟩ := sets_are_finite_subsets
  exact ⟨(refuses [31, 5] .nan [32] (by decide) rfl).1, makes [31, 0, 31] (by decide), by decide,
    by decide, (acts (singleton 31) (singleton 0) 0).2.union.trans (by decide)⟩

end PointerSet

end PointerRouting
