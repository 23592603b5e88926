/-
Module: PointerRouting.Proofs.PointerCounts
Purpose: The parallel count of a set's pointers is the number of pointers that the set lists. Seen
  as numbers, the three masked additions work byte by byte: no sum in one byte reaches the next one,
  and what stands in a byte at the end is how many of its bits are set. The multiplication gathers
  the four bytes in the highest. Sizes then add up as those of finite sets do.
Main exports: setBits, byteCounts, inBytes_eq_byteCounts, PointerSet.length_toList,
  PointerSet.size_eq_length_toList, PointerSet.size_eq_card, PointerSet.sizes_add_up
-/
import Mathlib.Data.Finset.Card
import PointerRouting.Proofs.PointerAlgebra

namespace PointerRouting

/-- How many of the lowest bits of a number are set. -/
def setBits (width number : Nat) : Nat := (List.range width).countP number.testBit

/-- The number of so many bytes, all of them the given one. -/
def everyByte (byte : Nat) : Nat → Nat
  | 0 => 0
  | bytes + 1 => byte + 256 * everyByte byte bytes

/-- The lowest bytes of a number, each with two bits to a count. -/
def inPairs (bytes number : Nat) : Nat := number - (number / 2 &&& everyByte 0x55 bytes)

/-- Counts of two bits each, added up to counts of four. -/
def inFours (bytes pairs : Nat) : Nat :=
  (pairs &&& everyByte 0x33 bytes) + (pairs / 4 &&& everyByte 0x33 bytes)

/-- Counts of four bits each, added up to counts of a byte. -/
def inBytes (bytes fours : Nat) : Nat := (fours + fours / 16) &&& everyByte 0x0f bytes

/-- The number that has in each of its lowest bytes how many bits of that byte are set. -/
def byteCounts : Nat → Nat → Nat
  | 0, _ => 0
  | bytes + 1, number => setBits 8 number + 256 * byteCounts bytes (number / 256)

/-- The lowest bits of a number are some of them and then those of what is left without these. -/
theorem setBits_add (width more number : Nat) :
    setBits (width + more) number = setBits width number + setBits more (number / 2 ^ width) := by
  rw [setBits, List.range_add, List.countP_append, List.countP_map]
  congr 1
  apply List.countP_congr
  intro index _
  rw [Function.comp_apply, Nat.testBit_div_two_pow, Nat.add_comm]

theorem setBits_mod (width number : Nat) :
    setBits width (number % 2 ^ width) = setBits width number := by
  apply List.countP_congr
  intro index inside
  rw [Nat.testBit_mod_two_pow, decide_eq_true (List.mem_range.mp inside), Bool.true_and]

theorem setBits_le (width number : Nat) : setBits width number ≤ width :=
  List.countP_le_length.trans_eq List.length_range

/-- Dropping bits of a number and masking it goes byte by byte, if the mask has no bits where those
of the next byte come in. -/
theorem and_bytes (drop : Nat) {low mask : Nat} (lowFits : low < 2 ^ 8)
    (maskFits : mask < 2 ^ (8 - drop)) (high masks : Nat) :
    (low + 2 ^ 8 * high) / 2 ^ drop &&& mask + 2 ^ 8 * masks =
      (low / 2 ^ drop &&& mask) + 2 ^ 8 * (high / 2 ^ drop &&& masks) := by
  have maskInByte : mask < 2 ^ 8 := maskFits.trans_le (Nat.pow_le_pow_right (by decide) (by omega))
  apply Nat.eq_of_testBit_eq
  intro index
  rw [Nat.add_comm low, Nat.add_comm mask, Nat.add_comm (_ &&& mask), Nat.testBit_and,
    Nat.testBit_div_two_pow, Nat.testBit_two_pow_mul_add high lowFits,
    Nat.testBit_two_pow_mul_add masks maskInByte,
    Nat.testBit_two_pow_mul_add _ (Nat.and_lt_two_pow _ maskInByte), Nat.testBit_and,
    Nat.testBit_and, Nat.testBit_div_two_pow, Nat.testBit_div_two_pow]
  by_cases inByte : index < 8
  · by_cases kept : index + drop < 8
    · simp only [if_pos inByte, if_pos kept]
    · have unmasked : mask.testBit index = false :=
        Nat.testBit_lt_two_pow (maskFits.trans_le (Nat.pow_le_pow_right (by decide) (by omega)))
      simp only [if_pos inByte, unmasked, Bool.and_false]
  · have later : index + drop - 8 = index - 8 + drop := by omega
    have pastByte : ¬index + drop < 8 := by omega
    simp only [if_neg inByte, if_neg pastByte, later]

section

variable {low : Nat} (lowFits : low < 256)
include lowFits

theorem inPairs_succ (bytes high : Nat) :
    inPairs (bytes + 1) (low + 256 * high) = inPairs 1 low + 256 * inPairs bytes high := by
  have masked := and_bytes 1 lowFits (by decide : 0x55 < _) high (everyByte 0x55 bytes)
  have lowLess : low / 2 &&& 0x55 ≤ low / 2 := Nat.and_le_left
  have highLess : high / 2 &&& everyByte 0x55 bytes ≤ high / 2 := Nat.and_le_left
  simp only [Nat.reducePow] at masked
  simp only [inPairs, everyByte, Nat.mul_zero, Nat.add_zero, masked]
  omega

theorem inFours_succ (bytes high : Nat) :
    inFours (bytes + 1) (low + 256 * high) = inFours 1 low + 256 * inFours bytes high := by
  have even := and_bytes 0 lowFits (by decide : 0x33 < _) high (everyByte 0x33 bytes)
  have odd := and_bytes 2 lowFits (by decide : 0x33 < _) high (everyByte 0x33 bytes)
  simp only [Nat.reducePow, Nat.div_one] at even odd
  simp only [inFours, everyByte, Nat.mul_zero, Nat.add_zero, even, odd]
  omega

end

/-- Counts of four bits that are no greater than four leave room for the sum of two. -/
theorem inBytes_succ {low high : Nat} (lowSmall : low ≤ 0x44) (highSmall : high % 16 ≤ 4)
    (bytes : Nat) :
    inBytes (bytes + 1) (low + 256 * high) = inBytes 1 low + 256 * inBytes bytes high := by
  -- The lowest count of the next byte comes in above the sum and is masked out.
  let sum := low + low / 16
  have shifted : low + 256 * high + (low + 256 * high) / 16 =
      (sum + 16 * (high % 16)) + 256 * (high + high / 16) := by
    omega
  have sumFits : sum + 16 * (high % 16) < 256 := by omega
  have masked := and_bytes 0 sumFits (by decide : 0x0f < _) (high + high / 16)
    (everyByte 0x0f bytes)
  have lowest : ∀ number, number &&& 0x0f = number % 16 :=
    fun number => Nat.and_two_pow_sub_one_eq_mod number 4
  simp only [Nat.reducePow, Nat.div_one] at masked
  simp only [inBytes, everyByte, Nat.mul_zero, Nat.add_zero, shifted, masked, lowest]
  omega

/-- What the three additions make of a single byte: no count of four bits is above four, and that of
all eight is how many are set. -/
theorem counts_of_byte : ∀ byte < 256,
    inPairs 1 byte < 256 ∧ inFours 1 (inPairs 1 byte) ≤ 0x44 ∧
      inFours 1 (inPairs 1 byte) % 16 ≤ 4 ∧
      inBytes 1 (inFours 1 (inPairs 1 byte)) = setBits 8 byte := by
  decide +kernel

/-- The three additions count the bits of each byte. What is carried through is that no count of
four bits is above four, of which the lowest is all that the byte below gets to see. -/
theorem inBytes_eq_byteCounts (bytes number : Nat) :
    inFours bytes (inPairs bytes number) % 16 ≤ 4 ∧
      inBytes bytes (inFours bytes (inPairs bytes number)) = byteCounts bytes number := by
  induction bytes generalizing number with
  | zero => simp [inFours, inBytes, everyByte, byteCounts]
  | succ bytes ih =>
      have lowFits : number % 256 < 256 := Nat.mod_lt number (by decide)
      obtain ⟨pairsFit, foursSmall, lowestSmall, counted⟩ := counts_of_byte _ lowFits
      obtain ⟨highSmall, rest⟩ := ih (number / 256)
      have parts : number = number % 256 + 256 * (number / 256) := (Nat.mod_add_div number 256).symm
      have sameByte : setBits 8 (number % 256) = setBits 8 number := setBits_mod 8 number
      rw [parts, inPairs_succ lowFits, inFours_succ pairsFit,
        inBytes_succ foursSmall highSmall, counted, rest, ← parts, sameByte]
      exact ⟨by omega, rfl⟩

namespace PointerSet

/-- A set lists as many pointers as its word has bits set. -/
theorem length_toList (set : PointerSet) : set.toList.length = setBits 32 set.bits.toNat := by
  rw [toList, ← List.countP_eq_length_filter, setBits, ← List.map_coe_finRange_eq_range,
    List.countP_map]
  apply List.countP_congr
  intro pointer _
  simp [mem_def, BitVec.testBit_toNat]

/-- On words no pair takes from the next one. -/
theorem toNat_inPairs (word : BitVec 32) :
    (word - ((word >>> 1) &&& 0x55555555#32)).toNat = inPairs 4 word.toNat := by
  have less : (word >>> 1) &&& 0x55555555#32 ≤ word := by
    rw [BitVec.le_def, BitVec.toNat_and, BitVec.toNat_ushiftRight]
    exact Nat.and_le_left.trans (Nat.shiftRight_le _ _)
  rw [BitVec.toNat_sub_of_le less, BitVec.toNat_and, BitVec.toNat_ushiftRight,
    Nat.shiftRight_eq_div_pow]
  rfl

theorem inFours_le (pairs : Nat) : inFours 4 pairs ≤ 0x66666666 := by
  have even : pairs &&& 0x33333333 ≤ 0x33333333 := Nat.and_le_right
  have odd : pairs / 4 &&& 0x33333333 ≤ 0x33333333 := Nat.and_le_right
  exact Nat.add_le_add even odd

theorem toNat_inFours (pairs : BitVec 32) :
    ((pairs &&& 0x33333333#32) + ((pairs >>> 2) &&& 0x33333333#32)).toNat =
      inFours 4 pairs.toNat := by
  rw [BitVec.toNat_add, BitVec.toNat_and, BitVec.toNat_and, BitVec.toNat_ushiftRight,
    Nat.shiftRight_eq_div_pow]
  exact Nat.mod_eq_of_lt ((inFours_le pairs.toNat).trans_lt (by decide))

theorem toNat_inBytes {fours : BitVec 32} (small : fours.toNat ≤ 0x66666666) :
    ((fours + (fours >>> 4)) &&& 0x0f0f0f0f#32).toNat = inBytes 4 fours.toNat := by
  have fits : fours.toNat + fours.toNat / 2 ^ 4 < 2 ^ 32 := by omega
  rw [BitVec.toNat_and, BitVec.toNat_add, BitVec.toNat_ushiftRight, Nat.shiftRight_eq_div_pow,
    Nat.mod_eq_of_lt fits]
  rfl

/-- The multiplication adds the counts of four bytes up in the highest one, and drops what would
stand above it. -/
theorem gather_byteCounts (number : Nat) :
    byteCounts 4 number * 0x01010101 % 2 ^ 32 / 2 ^ 24 = setBits 32 number := by
  let first := setBits 8 number
  let second := setBits 8 (number / 256)
  let third := setBits 8 (number / 256 / 256)
  let fourth := setBits 8 (number / 256 / 256 / 256)
  have counts : byteCounts 4 number =
      first + 256 * second + 256 ^ 2 * third + 256 ^ 3 * fourth := by
    simp only [byteCounts]
    omega
  have total : setBits 32 number = first + second + third + fourth := by
    rw [setBits_add 8 24, setBits_add 8 16, setBits_add 8 8]
    simp only [Nat.reducePow]
    omega
  have bounds : first ≤ 8 ∧ second ≤ 8 ∧ third ≤ 8 ∧ fourth ≤ 8 :=
    ⟨setBits_le 8 _, setBits_le 8 _, setBits_le 8 _, setBits_le 8 _⟩
  let below := first + 256 * (first + second) + 256 ^ 2 * (first + second + third)
  let above := (second + third + fourth) + 256 * (third + fourth) + 256 ^ 2 * fourth
  have product : byteCounts 4 number * 0x01010101 =
      below + 2 ^ 24 * setBits 32 number + 2 ^ 32 * above := by
    omega
  have belowFits : below < 2 ^ 24 := by omega
  have fits : below + 2 ^ 24 * setBits 32 number < 2 ^ 32 := by omega
  rw [product, Nat.add_mul_mod_self_left, Nat.mod_eq_of_lt fits,
    Nat.add_mul_div_left _ _ (by decide), Nat.div_eq_of_lt belowFits, Nat.zero_add]

/-- The number that the parallel count comes to is the number of pointers that are listed. -/
theorem size_eq_length_toList (set : PointerSet) : set.size = set.toList.length := by
  have small := inFours_le (inPairs 4 set.bits.toNat)
  rw [← toNat_inPairs, ← toNat_inFours] at small
  rw [length_toList, ← gather_byteCounts, ← (inBytes_eq_byteCounts 4 _).2, ← toNat_inPairs,
    ← toNat_inFours, ← toNat_inBytes small]
  simp only [size]
  rw [BitVec.toNat_ushiftRight, BitVec.toNat_mul, Nat.shiftRight_eq_div_pow]
  rfl

/-- The size of a set is that of the finite set of its ids. -/
theorem size_eq_card (set : PointerSet) : set.size = set.ids.card := by
  have nodup : set.toList.Nodup := (ascending_toList set).imp Fin.ne_of_lt
  rw [size_eq_length_toList, ids, List.toFinset_card_of_nodup nodup]

/-- The size of a set, counted in parallel on its word, is the number of pointers that the set
lists, whatever set it is. Hence the sizes of a union and of an intersection add up to those of the
two sets. A pointer that is added makes the size one more just in case it was not in the set, and
one that is taken out makes it one less just in case it was; otherwise the size stays. -/
theorem sizes_add_up (left right : PointerSet) (pointer : PointerId) :
    left.size = left.toList.length ∧
    (left ∪ right).size + (left ∩ right).size = left.size + right.size ∧
    (left.insert pointer).size = (if pointer ∈ left then left.size else left.size + 1) ∧
    ((left.insert pointer).size = left.size + 1 ↔ pointer ∉ left) ∧
    left.size = (if pointer ∈ left then (left.erase pointer).size + 1
      else (left.erase pointer).size) ∧
    (left.size = (left.erase pointer).size + 1 ↔ pointer ∈ left) := by
  have acts := actsOnIds left right pointer
  have inserted : (left.insert pointer).size =
      if pointer ∈ left then left.size else left.size + 1 := by
    rw [size_eq_card, size_eq_card, acts.insert, Finset.card_insert_eq_ite]
    simp only [mem_ids]
  have erased : left.size = if pointer ∈ left then (left.erase pointer).size + 1
      else (left.erase pointer).size := by
    rw [size_eq_card, size_eq_card, acts.erase]
    split
    next present => exact (Finset.card_erase_add_one (mem_ids.mpr present)).symm
    next absent => rw [Finset.erase_eq_of_notMem (mem_ids.not.mpr absent)]
  refine ⟨size_eq_length_toList left, ?_, inserted, ?_, erased, ?_⟩
  · rw [size_eq_card, size_eq_card, size_eq_card, size_eq_card, acts.union, acts.inter]
    exact Finset.card_union_add_card_inter left.ids right.ids
  · rw [inserted]
    split <;> simp [*]
  · rw [erased]
    split <;> simp [*]

end PointerSet

end PointerRouting
