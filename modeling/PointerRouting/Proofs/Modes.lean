/-
Module: PointerRouting.Proofs.Modes
Purpose: Dispatch masks bit by bit. To carry a flag is to have its bit; combining masks combines
  what they carry, merging a landing changes the as-is mode only where a slippery exit takes it,
  and committing leaves the as-is mode as the only one of the targets it leaves, in their order.
Main exports: Mask.covers_twoPow, Mask.carries_eq_getLsbD, Mask.carries_merge, Mask.carries_mask,
  Target.getLsbD_flags_merge, Target.carries_asIs_merge, Target.isDirect_eq,
  Target.carries_settle, Target.modes_settle, Target.Settles, Routing.commit_commit,
  Routing.commits_to_direct_dispatch
-/
import Mathlib.Data.List.Forall2
import PointerRouting.Routing.Changes

namespace PointerRouting

theorem Number.ofWord_inj {left right : BitVec 32} : ofWord left = ofWord right ↔ left = right := by
  constructor
  · intro same
    simpa using congrArg word same
  · intro same
    rw [same]

namespace DispatchFlag

theorem position_lt (flag : DispatchFlag) : flag.position < 32 := by
  cases flag <;> decide

theorem position_injective {flag other : DispatchFlag} (same : flag.position = other.position) :
    flag = other := by
  revert same
  cases flag <;> cases other <;> decide

@[simp] theorem getLsbD_bit (flag : DispatchFlag) (index : Nat) :
    flag.bit.getLsbD index = decide (flag.position = index) := by
  simp [bit, position_lt]

/-- The word of several flags has the bits of these flags. -/
theorem getLsbD_bits (flags : List DispatchFlag) (index : Nat) :
    (bits flags).getLsbD index = flags.any fun flag => flag.position = index := by
  have words : bits flags = allBits (flags.map bit) := by
    rw [allBits, List.foldl_map, bits]
  simp [words, getLsbD_allBits, List.any_map, Function.comp_def]

theorem getLsbD_bits_position (flags : List DispatchFlag) (flag : DispatchFlag) :
    (bits flags).getLsbD flag.position = decide (flag ∈ flags) := by
  rw [getLsbD_bits, Bool.eq_iff_iff]
  simp only [List.any_eq_true, decide_eq_true_iff]
  constructor
  · rintro ⟨other, listed, same⟩
    exact position_injective same ▸ listed
  · intro listed
    exact ⟨flag, listed, rfl⟩

end DispatchFlag

namespace Mask

/-- A mask covers the word of a single bit just in case it has that bit. -/
theorem covers_twoPow (mask : Mask) {position : Nat} (inside : position < 32) :
    mask.covers (.ofWord (BitVec.twoPow 32 position)) = mask.word.getLsbD position := by
  have covered : mask.covers (.ofWord (BitVec.twoPow 32 position)) = true ↔
      mask.word &&& BitVec.twoPow 32 position = BitVec.twoPow 32 position := by
    rw [covers, word_ofWord, decide_eq_true_iff, ofWord, Number.ofWord_inj]
  rw [Bool.eq_iff_iff, covered]
  constructor
  · intro same
    have read := congrArg (·.getLsbD position) same
    simpa [inside] using read
  · intro present
    apply BitVec.eq_of_getLsbD_eq
    intro index _
    by_cases own : position = index
    · subst own
      simp [present]
    · simp [own]

/-- A mask carries a flag just in case it has the flag's bit. -/
theorem carries_eq_getLsbD (mask : Mask) (flag : DispatchFlag) :
    mask.carries flag = mask.word.getLsbD flag.position :=
  mask.covers_twoPow flag.position_lt

@[simp] theorem carries_none (flag : DispatchFlag) : none.carries flag = false := by
  cases flag <;> decide

@[simp] theorem carries_merge (left right : Mask) (flag : DispatchFlag) :
    (left.merge right).carries flag = (left.carries flag || right.carries flag) := by
  simp [carries_eq_getLsbD]

@[simp] theorem carries_without_bit (mask : Mask) (taken flag : DispatchFlag) :
    (mask.without taken.bit).carries flag = (mask.carries flag && decide (taken ≠ flag)) := by
  have apart : taken.position = flag.position ↔ taken = flag :=
    ⟨DispatchFlag.position_injective, congrArg _⟩
  simp only [carries_eq_getLsbD, word_without, BitVec.getLsbD_and, BitVec.getLsbD_not,
    DispatchFlag.getLsbD_bit, DispatchFlag.position_lt, apart, decide_true, Bool.true_and, ne_eq,
    decide_not]

@[simp] theorem carries_mask (flags : List DispatchFlag) (flag : DispatchFlag) :
    (DispatchFlag.mask flags).carries flag = decide (flag ∈ flags) := by
  rw [carries_eq_getLsbD, DispatchFlag.mask, word_ofWord, DispatchFlag.getLsbD_bits_position]

theorem ne_zero_iff_exists_bit {word : BitVec 32} :
    word ≠ 0 ↔ ∃ index, word.getLsbD index = true := by
  constructor
  · intro nonzero
    apply Classical.byContradiction
    intro absent
    apply nonzero
    apply BitVec.eq_of_getLsbD_eq
    intro index _
    simpa using fun present => absent ⟨index, present⟩
  · rintro ⟨index, present⟩ rfl
    simp at present

/-- A mask meets the mask of several flags just in case it carries one of them. -/
theorem meets_mask (mask : Mask) (flags : List DispatchFlag) :
    mask.meets (DispatchFlag.mask flags) = flags.any mask.carries := by
  rw [meets, DispatchFlag.mask, word_ofWord, Bool.eq_iff_iff, decide_eq_true_iff,
    ne_zero_iff_exists_bit, List.any_eq_true]
  simp only [BitVec.getLsbD_and, DispatchFlag.getLsbD_bits, Bool.and_eq_true, List.any_eq_true,
    decide_eq_true_iff, carries_eq_getLsbD]
  constructor
  · rintro ⟨_, present, flag, listed, rfl⟩
    exact ⟨flag, listed, present⟩
  · rintro ⟨flag, listed, present⟩
    exact ⟨_, present, flag, listed, rfl⟩

end Mask

namespace Target

variable (target : Target) (flags : Mask) (pointers : PointerSet) (time : Option Number)

/-- Merging adds up all bits but the one of the as-is mode. -/
theorem getLsbD_flags_merge {index : Nat} (other : index ≠ DispatchFlag.asIs.position) :
    (target.merge flags pointers time).flags.word.getLsbD index =
      (target.flags.word.getLsbD index || flags.word.getLsbD index) := by
  simp only [merge, touch, startAt]
  split
  · by_cases inside : index < 32
    · simp only [Mask.word_without, Mask.word_merge, BitVec.getLsbD_and, BitVec.getLsbD_or,
        BitVec.getLsbD_not, DispatchFlag.getLsbD_bit, Ne.symm other, inside, decide_false,
        decide_true, Bool.not_false, Bool.and_self, Bool.and_true]
    · simp [BitVec.getLsbD_of_ge _ _ (Nat.le_of_not_lt inside)]
  · rw [Mask.word_merge, BitVec.getLsbD_or]

/-- The as-is mode is there after merging if either side had it and no slippery exit came. -/
theorem carries_asIs_merge :
    (target.merge flags pointers time).flags.carries .asIs =
      ((target.flags.carries .asIs || flags.carries .asIs) && !flags.carries .asSlipperyExit) := by
  simp only [merge, touch, startAt]
  split
  next exits => simp [exits]
  next stays => simp [stays]

theorem carries_merge {flag : DispatchFlag} (other : flag ≠ .asIs) :
    (target.merge flags pointers time).flags.carries flag =
      (target.flags.carries flag || flags.carries flag) := by
  have apart : flag.position ≠ DispatchFlag.asIs.position := fun same =>
    other (DispatchFlag.position_injective same)
  simp only [Mask.carries_eq_getLsbD, target.getLsbD_flags_merge flags pointers time apart]

theorem isDirect_eq :
    target.isDirect = (target.flags.carries .asIs || target.flags.carries .asSlipperyEnter) := by
  simp [isDirect, Mask.meets_mask]

/-- Committing makes the as-is mode the only one and leaves the attributes beside the modes. -/
theorem carries_settle (flag : DispatchFlag) :
    target.settle.flags.carries flag =
      (decide (flag = .asIs) || (target.flags.carries flag &&
        decide (flag ∉ [.asIs, .asOutside, .asSlipperyEnter, .asSlipperyExit]))) := by
  simp only [settle, Mask.carries_eq_getLsbD, Mask.word_merge, Mask.word_without,
    Dispatch.modeBits, DispatchFlag.mask, Mask.word_ofWord, BitVec.getLsbD_or, BitVec.getLsbD_and,
    BitVec.getLsbD_not, DispatchFlag.position_lt, DispatchFlag.getLsbD_bits_position,
    List.mem_singleton, decide_true, Bool.true_and, decide_not, Bool.or_comm]

theorem modes_settle : target.settle.flags.word &&& Dispatch.modeBits = DispatchFlag.asIs.bit := by
  have given : DispatchFlag.bits [.asIs] &&& Dispatch.modeBits = DispatchFlag.asIs.bit := by
    decide
  simp only [settle, Mask.word_merge, Mask.word_without, DispatchFlag.mask, Mask.word_ofWord,
    BitVec.and_or_distrib_right, BitVec.and_assoc, BitVec.not_and_self, given]
  simp

/-- Committing leaves every bit beside the modes, the sign bit among them. -/
theorem attributes_settle :
    target.settle.flags.word &&& ~~~Dispatch.modeBits =
      target.flags.word &&& ~~~Dispatch.modeBits := by
  have given : DispatchFlag.bits [.asIs] &&& ~~~Dispatch.modeBits = 0#32 := by
    decide
  simp only [settle, Mask.word_merge, Mask.word_without, DispatchFlag.mask, Mask.word_ofWord,
    BitVec.and_or_distrib_right, BitVec.and_assoc, BitVec.and_self, given, BitVec.or_zero]

theorem isDirect_settle : target.settle.isDirect = true := by
  simp [isDirect_eq, carries_settle]

/-- A mask that has been settled is a signed word, so settling it again stores the same number. -/
theorem settle_settle : target.settle.settle = target.settle := by
  have flags : ∀ other : Target, other.settle.flags =
      .ofWord (other.flags.word &&& ~~~Dispatch.modeBits ||| DispatchFlag.bits [.asIs]) := by
    intro other
    simp [settle, Mask.merge, DispatchFlag.mask]
  have same : target.settle.settle.flags = target.settle.flags := by
    rw [flags target.settle, attributes_settle, flags target]
  exact congrArg (fun flags => { target with flags }) same

/-- What committing makes of a target that it leaves: the as-is mode is the only bit of its dispatch
among the modes, all other bits are what they were, and so is everything else about it. -/
structure Settles (old new : Target) : Prop where
  modes : new.flags.word &&& Dispatch.modeBits = DispatchFlag.asIs.bit
  attributes : new.flags.word &&& ~~~Dispatch.modeBits = old.flags.word &&& ~~~Dispatch.modeBits
  rest : { new with flags := old.flags } = old

theorem settles_settle : target.Settles target.settle where
  modes := target.modes_settle
  attributes := target.attributes_settle
  rest := rfl

end Target

namespace Routing

variable (routing : Routing)

/-- Targets that have been committed are dispatched to directly and have no other mode to lose. -/
theorem commit_commit : routing.commit.routing.commit = { routing := routing.commit.routing } := by
  have direct : ((routing.targets.filter Target.isDirect).map Target.settle).filter
      Target.isDirect = (routing.targets.filter Target.isDirect).map Target.settle := by
    rw [List.filter_eq_self]
    intro target left
    obtain ⟨old, _, rfl⟩ := List.mem_map.mp left
    exact old.isDirect_settle
  have others : ((routing.targets.filter Target.isDirect).map Target.settle).filter
      (fun target => !target.isDirect) = [] := by
    rw [List.filter_eq_nil_iff]
    intro target left
    obtain ⟨old, _, rfl⟩ := List.mem_map.mp left
    simp [old.isDirect_settle]
  rw [commit_eq, commit_eq]
  simp only [direct, others, List.map_map, Function.comp_def, Target.settle_settle, List.map_nil]

/-- Committing, in full. It is never refused. Of the targets it leaves those that carry the as-is
mode or that of a slippery entry, in their order, and it leaves no others. Each of them has the
as-is mode as its only mode, whatever number its mask was stored as; all other bits of the mask and
everything else about the target stay what they were. Committing again at once changes nothing and
has nothing to tell. -/
theorem commits_to_direct_dispatch :
    routing.commit.violation = none ∧
    { routing.commit.routing with targets := routing.targets } = routing ∧
    List.Forall₂ Target.Settles
      (routing.targets.filter fun target =>
        target.flags.carries .asIs || target.flags.carries .asSlipperyEnter)
      routing.commit.routing.targets ∧
    routing.commit.routing.commit = { routing := routing.commit.routing } := by
  refine ⟨rfl, rfl, ?_, routing.commit_commit⟩
  have direct : routing.targets.filter Target.isDirect = routing.targets.filter fun target =>
      target.flags.carries .asIs || target.flags.carries .asSlipperyEnter :=
    List.filter_congr fun target _ => target.isDirect_eq
  rw [commit_eq, ← direct, List.forall₂_map_right_iff, List.forall₂_same]
  intro target _
  exact target.settles_settle

/-- A mask with a fraction and the sign bit, one with both modes that stay and both that go, and one
with a mode that goes alone. -/
example :
    let target (flags : Number) : Target := { window := default, flags := ⟨flags⟩ }
    (({ targets := [target (.finite (-2147475455 - 1 / 2)), target 4096, target 0x3301] }
        : Routing).commit.routing.targets.map fun target => target.flags.stored) =
      [.finite (-2147483391), 0x101] := by
  decide +kernel

end Routing

end PointerRouting
