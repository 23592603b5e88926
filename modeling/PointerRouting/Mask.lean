/-
Module: PointerRouting.Mask
Purpose: Masks of bits as their writers store them. A mask is kept as the number it was given,
  fraction and all; only combining it takes its 32-bit word, and what combining yields is read
  back as a signed word.
Main exports: Mask, Mask.word, Mask.ofWord, Mask.merge, Mask.without, Mask.covers, Mask.meets,
  allBits
-/
import PointerRouting.Number.Basic

namespace PointerRouting

/-- A mask in the form in which it was stored. -/
structure Mask where
  stored : Number
deriving DecidableEq, Inhabited

namespace Mask

/-- The mask without bits. -/
def none : Mask := ⟨0⟩

/-- The bits of a mask. -/
def word (mask : Mask) : BitVec 32 := mask.stored.word

/-- The mask that combining leaves: a signed word. -/
def ofWord (bits : BitVec 32) : Mask := ⟨.ofWord bits⟩

/-- The bits of either mask. -/
def merge (left right : Mask) : Mask := ofWord (left.word ||| right.word)

/-- The bits of a mask that are not among the given ones. -/
def without (mask : Mask) (bits : BitVec 32) : Mask := ofWord (mask.word &&& ~~~bits)

/-- Whether a mask has every bit of a test, and the test is the signed word of those bits: a
test that carries the sign bit has to be given as a negative number to be covered. -/
def covers (mask test : Mask) : Bool := Number.ofWord (mask.word &&& test.word) = test.stored

/-- Whether a mask and a test share a bit. -/
def meets (mask test : Mask) : Bool := mask.word &&& test.word ≠ 0

@[simp] theorem word_ofWord (bits : BitVec 32) : (ofWord bits).word = bits := by
  simp [ofWord, word]

@[simp] theorem word_merge (left right : Mask) :
    (left.merge right).word = left.word ||| right.word := by
  simp [merge]

@[simp] theorem word_without (mask : Mask) (bits : BitVec 32) :
    (mask.without bits).word = mask.word &&& ~~~bits := by
  simp [without]

end Mask

/-- The bits of several words. -/
def allBits (words : List (BitVec 32)) : BitVec 32 := words.foldl (· ||| ·) 0

/-- A bit is among those of several words just in case one of them has it. -/
theorem getLsbD_allBits (words : List (BitVec 32)) (index : Nat) :
    (allBits words).getLsbD index = words.any (·.getLsbD index) := by
  have fold : ∀ start : BitVec 32,
      (words.foldl (· ||| ·) start).getLsbD index =
        (start.getLsbD index || words.any (·.getLsbD index)) := by
    induction words with
    | nil => simp
    | cons word words ih => intro start; simp [ih, Bool.or_assoc]
  simpa [allBits] using fold 0

end PointerRouting
