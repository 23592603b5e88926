/-
Module: PointerRouting.Pointer.Set
Purpose: Sets of pointers. There are 32 pointers, so one word holds a set and every set operation
  is one bitwise instruction; bit n stands for pointer n. Membership is the view all lemmas
  speak through.
Main exports: PointerSet, PointerSet.insert, PointerSet.erase, PointerSet.symmDiff,
  PointerSet.size, PointerSet.toList, PointerSet.ofList, PointerSet.ofNumbers, PointerSet.text,
  PointerSet.ext_mem
-/
import PointerRouting.Listing
import PointerRouting.Pointer.Id

namespace PointerRouting

/-- A set of pointers, one bit for each. -/
structure PointerSet where
  bits : BitVec 32
deriving DecidableEq, Inhabited

namespace PointerSet

instance : EmptyCollection PointerSet := ⟨⟨0⟩⟩

instance : Membership PointerId PointerSet := ⟨fun set pointer => set.bits.getLsbD pointer = true⟩

instance (pointer : PointerId) (set : PointerSet) : Decidable (pointer ∈ set) :=
  inferInstanceAs (Decidable (set.bits.getLsbD pointer = true))

/-- The word with only the bit of a pointer. -/
def bit (pointer : PointerId) : BitVec 32 := BitVec.twoPow 32 pointer

/-- The set with a pointer added. -/
def insert (set : PointerSet) (pointer : PointerId) : PointerSet := ⟨set.bits ||| bit pointer⟩

/-- The set with a pointer taken out. -/
def erase (set : PointerSet) (pointer : PointerId) : PointerSet := ⟨set.bits &&& ~~~bit pointer⟩

instance : Union PointerSet := ⟨fun left right => ⟨left.bits ||| right.bits⟩⟩

instance : Inter PointerSet := ⟨fun left right => ⟨left.bits &&& right.bits⟩⟩

instance : SDiff PointerSet := ⟨fun left right => ⟨left.bits &&& ~~~right.bits⟩⟩

/-- The pointers in exactly one of two sets. -/
def symmDiff (left right : PointerSet) : PointerSet := ⟨left.bits ^^^ right.bits⟩

/-- Whether a set has no pointer. -/
def isEmpty (set : PointerSet) : Bool := set.bits = 0

/-- The number of pointers, counted in parallel: bits are added in pairs, then in fours, then in
bytes, and the multiplication sums the four bytes into the highest one. -/
def size (set : PointerSet) : Nat :=
  let pairs := set.bits - ((set.bits >>> 1) &&& 0x55555555#32)
  let fours := (pairs &&& 0x33333333#32) + ((pairs >>> 2) &&& 0x33333333#32)
  let bytes := (fours + (fours >>> 4)) &&& 0x0f0f0f0f#32
  ((bytes * 0x01010101#32) >>> 24).toNat

/-- The pointers in ascending order. -/
def toList (set : PointerSet) : List PointerId := (List.finRange 32).filter (· ∈ set)

/-- The set of the pointers in a list. -/
def ofList (pointers : List PointerId) : PointerSet := pointers.foldl insert ∅

/-- The set with one pointer. -/
def singleton (pointer : PointerId) : PointerSet := ofList [pointer]

/-- The set of the pointers that numbers name; the first number that names none is reported. -/
def ofNumbers (numbers : List Number) : Except Violation PointerSet :=
  numbers.foldlM (fun set number => return set.insert (← checkPointer number)) ∅

/-- The set whose bits are those of a number taken as a 32-bit word. -/
def ofMask (mask : Number) : PointerSet := ⟨mask.word⟩

/-- The union of sets. -/
def unions (sets : List PointerSet) : PointerSet := sets.foldl (· ∪ ·) ∅

/-- A set is written as its pointers in ascending order, in brackets. -/
def text (set : PointerSet) : String :=
  "[" ++ joined ", " (set.toList.map fun pointer => Number.intText pointer.val) ++ "]"

theorem mem_def {set : PointerSet} {pointer : PointerId} :
    pointer ∈ set ↔ set.bits.getLsbD pointer = true := Iff.rfl

/-- Sets with the same pointers are the same set. -/
theorem ext_mem {left right : PointerSet} (same : ∀ pointer, pointer ∈ left ↔ pointer ∈ right) :
    left = right := by
  have bits : left.bits = right.bits := by
    apply BitVec.eq_of_getLsbD_eq
    intro index bound
    have := same ⟨index, bound⟩
    simp only [mem_def] at this
    exact Bool.eq_iff_iff.mpr this
  cases left; cases right; simp_all

@[simp] theorem not_mem_empty (pointer : PointerId) : pointer ∉ (∅ : PointerSet) := by
  simp [mem_def, EmptyCollection.emptyCollection]

@[simp] theorem getElem_bit (pointer other : PointerId) :
    (bit pointer)[(other : Nat)] = decide (other = pointer) := by
  simp [bit, Fin.ext_iff, eq_comm]

@[simp] theorem mem_insert {set : PointerSet} {pointer other : PointerId} :
    other ∈ set.insert pointer ↔ other ∈ set ∨ other = pointer := by
  simp [mem_def, insert]

@[simp] theorem mem_erase {set : PointerSet} {pointer other : PointerId} :
    other ∈ set.erase pointer ↔ other ∈ set ∧ other ≠ pointer := by
  simp [mem_def, erase]

@[simp] theorem mem_union {left right : PointerSet} {pointer : PointerId} :
    pointer ∈ left ∪ right ↔ pointer ∈ left ∨ pointer ∈ right := by
  simp [mem_def, Union.union]

@[simp] theorem mem_inter {left right : PointerSet} {pointer : PointerId} :
    pointer ∈ left ∩ right ↔ pointer ∈ left ∧ pointer ∈ right := by
  simp [mem_def, Inter.inter]

@[simp] theorem mem_sdiff {left right : PointerSet} {pointer : PointerId} :
    pointer ∈ left \ right ↔ pointer ∈ left ∧ pointer ∉ right := by
  simp [mem_def, SDiff.sdiff]

@[simp] theorem mem_symmDiff {left right : PointerSet} {pointer : PointerId} :
    pointer ∈ symmDiff left right ↔ ¬(pointer ∈ left ↔ pointer ∈ right) := by
  simp only [mem_def, symmDiff, BitVec.getLsbD_xor, bne_iff_ne, ne_eq]
  cases left.bits.getLsbD pointer <;> cases right.bits.getLsbD pointer <;> simp

/-- A set is empty exactly when nothing is in it. -/
theorem isEmpty_iff {set : PointerSet} : set.isEmpty = true ↔ ∀ pointer, pointer ∉ set := by
  constructor
  · intro empty pointer
    have : set.bits = 0 := by simpa [isEmpty] using empty
    simp [mem_def, this]
  · intro none
    have : set = ∅ := ext_mem fun pointer => by simp [none pointer]
    simp [this, isEmpty, EmptyCollection.emptyCollection]

theorem isEmpty_iff_eq {set : PointerSet} : set.isEmpty = true ↔ set = ∅ := by
  rw [isEmpty_iff]
  exact ⟨fun none => ext_mem fun pointer => by simp [none pointer], fun empty => by simp [empty]⟩

theorem eq_empty_iff {set : PointerSet} : set = ∅ ↔ ∀ pointer, pointer ∉ set :=
  isEmpty_iff_eq.symm.trans isEmpty_iff

@[simp] theorem mem_ofList {pointers : List PointerId} {pointer : PointerId} :
    pointer ∈ ofList pointers ↔ pointer ∈ pointers := by
  have fold : ∀ (set : PointerSet),
      pointer ∈ pointers.foldl insert set ↔ pointer ∈ set ∨ pointer ∈ pointers := by
    induction pointers with
    | nil => simp
    | cons head rest ih => intro set; simp [ih, or_assoc]
  exact (fold ∅).trans (or_iff_right (not_mem_empty pointer))

@[simp] theorem mem_singleton {pointer other : PointerId} :
    other ∈ singleton pointer ↔ other = pointer := by
  simp [singleton]

/-- A pointer is in a union exactly when it is in one of the sets. -/
@[simp] theorem mem_unions {sets : List PointerSet} {pointer : PointerId} :
    pointer ∈ unions sets ↔ ∃ set ∈ sets, pointer ∈ set := by
  have fold : ∀ (start : PointerSet),
      pointer ∈ sets.foldl (· ∪ ·) start ↔ pointer ∈ start ∨ ∃ set ∈ sets, pointer ∈ set := by
    induction sets with
    | nil => simp
    | cons head rest ih => intro start; simp [ih, or_assoc]
  exact (fold ∅).trans (or_iff_right (not_mem_empty pointer))

@[simp] theorem mem_toList {set : PointerSet} {pointer : PointerId} :
    pointer ∈ set.toList ↔ pointer ∈ set := by
  simp [toList]

end PointerSet

end PointerRouting
