/-
Module: PointerRouting.Ring
Purpose: A ring that keeps the newest items. Items are written to its slots in turn, at a head that
  goes round, and how many are stored says how far they reach back from it; what the other slots
  hold is stale. The view is the list of the items, oldest first: pushing appends to the list and
  drops from its head what exceeds the capacity.
Main exports: Ring, Ring.push, Ring.toList, Ring.clear, Ring.toList_push
-/

namespace PointerRouting

/-- The slot that comes so many slots after the oldest stored one, going round. -/
def slotAfter (capacity head stored offset : Nat) : Nat :=
  ((head + capacity - stored) % capacity + offset) % capacity

/-- From the oldest stored slot to the head, slots are left by going round once at most. -/
theorem slotAfter_eq {capacity head stored offset : Nat} (head_lt : head < capacity)
    (stored_le : stored ≤ capacity) (inside : offset ≤ stored) :
    slotAfter capacity head stored offset =
      if head + offset < stored then head + capacity - stored + offset
      else head + offset - stored := by
  rw [slotAfter, Nat.mod_add_mod]
  split
  case isTrue before => exact Nat.mod_eq_of_lt (by omega)
  case isFalse after =>
    rw [Nat.mod_eq_sub_mod (by omega), Nat.mod_eq_of_lt (by omega)]
    omega

/-- The head moves to the next slot, or back to the first one. -/
theorem succ_mod_eq {capacity head : Nat} (head_lt : head < capacity) :
    (head + 1) % capacity = if head + 1 = capacity then 0 else head + 1 := by
  split
  case isTrue last => rw [last, Nat.mod_self]
  case isFalse => exact Nat.mod_eq_of_lt (by omega)

/-- When an item more has been stored, the slots of the older ones are found again, less the one
that was written over, and the one at the head comes last. -/
theorem slotAfter_push {capacity head stored offset : Nat} (head_lt : head < capacity)
    (stored_le : stored ≤ capacity) (inside : offset < min capacity (stored + 1)) :
    slotAfter capacity ((head + 1) % capacity) (min capacity (stored + 1)) offset =
      slotAfter capacity head stored (offset + (stored + 1 - capacity)) := by
  have next_lt : (head + 1) % capacity < capacity := Nat.mod_lt _ (by omega)
  rw [slotAfter_eq next_lt (Nat.min_le_left ..) (Nat.le_of_lt inside),
    slotAfter_eq head_lt stored_le (by omega), succ_mod_eq head_lt]
  split <;> split <;> split <;> omega

/-- The head comes right after the stored slots, and is none of them unless it is the oldest. -/
theorem slotAfter_eq_head_iff {capacity head stored offset : Nat} (head_lt : head < capacity)
    (stored_le : stored ≤ capacity) (inside : offset ≤ stored)
    (turned : stored = capacity → 0 < offset) :
    slotAfter capacity head stored offset = head ↔ offset = stored := by
  rw [slotAfter_eq head_lt stored_le inside]
  split <;> omega

/-- Slots, the slot that is written next, and how many items are stored in those before it. -/
structure Ring (α : Type) where
  capacity : Nat
  head : Nat
  stored : Nat
  slots : Array (Option α)
  capacity_pos : 0 < capacity
  size_slots : slots.size = capacity
  head_lt : head < capacity
  stored_le : stored ≤ capacity
  filled : ∀ offset < stored, (slots[slotAfter capacity head stored offset]?.join).isSome

namespace Ring

variable {α : Type}

/-- A ring without items, and with empty slots. -/
def empty (capacity : Nat) (capacity_pos : 0 < capacity) : Ring α where
  capacity := capacity
  head := 0
  stored := 0
  slots := Array.replicate capacity none
  capacity_pos := capacity_pos
  size_slots := Array.size_replicate
  head_lt := capacity_pos
  stored_le := Nat.zero_le _
  filled _ below := absurd below (Nat.not_lt_zero _)

/-- How many items a ring holds. -/
def size (ring : Ring α) : Nat := ring.stored

/-- Whether the next push overwrites an item. -/
def isFull (ring : Ring α) : Bool := ring.stored = ring.capacity

/-- The item that comes so many items after the oldest one. -/
def item? (ring : Ring α) (offset : Nat) : Option α :=
  ring.slots[slotAfter ring.capacity ring.head ring.stored offset]?.join

/-- The items, oldest first. -/
def toList (ring : Ring α) : List α := (List.range ring.stored).filterMap ring.item?

/-- How many items are stored after a push. -/
theorem stored_push (ring : Ring α) :
    (if ring.isFull then ring.stored else ring.stored + 1) =
      min ring.capacity (ring.stored + 1) := by
  have := ring.stored_le
  simp only [isFull, decide_eq_true_eq]
  split <;> omega

/-- With an item in the slot at the head, the view reads on from the item that comes next, and then
the new one. -/
theorem join_set_head (ring : Ring α) (item : α) {offset : Nat}
    (inside : offset < min ring.capacity (ring.stored + 1)) :
    ((ring.slots.set ring.head (some item) (ring.size_slots ▸ ring.head_lt))[slotAfter ring.capacity
        ((ring.head + 1) % ring.capacity) (min ring.capacity (ring.stored + 1)) offset]?).join =
      if offset + (ring.stored + 1 - ring.capacity) < ring.stored then
        ring.item? (offset + (ring.stored + 1 - ring.capacity))
      else some item := by
  have bound := ring.stored_le
  have isHead : slotAfter ring.capacity ring.head ring.stored
      (offset + (ring.stored + 1 - ring.capacity)) = ring.head ↔
        offset + (ring.stored + 1 - ring.capacity) = ring.stored :=
    slotAfter_eq_head_iff ring.head_lt ring.stored_le (by omega) (by omega)
  rw [slotAfter_push ring.head_lt bound inside, Array.getElem?_set]
  by_cases older : offset + (ring.stored + 1 - ring.capacity) < ring.stored
  · rw [if_pos older, if_neg fun same => by have := isHead.mp same.symm; omega]
    rfl
  · rw [if_neg older, if_pos (isHead.mpr (by omega)).symm]
    rfl

/-- The ring with an item added, in the slot at the head. -/
def push (ring : Ring α) (item : α) : Ring α where
  capacity := ring.capacity
  head := (ring.head + 1) % ring.capacity
  stored := if ring.isFull then ring.stored else ring.stored + 1
  slots := ring.slots.set ring.head (some item) (ring.size_slots ▸ ring.head_lt)
  capacity_pos := ring.capacity_pos
  size_slots := by rw [Array.size_set, ring.size_slots]
  head_lt := Nat.mod_lt _ ring.capacity_pos
  stored_le := by
    rw [stored_push]
    exact Nat.min_le_left ..
  filled := by
    intro offset inside
    rw [stored_push] at inside ⊢
    rw [join_set_head ring item inside]
    split
    case isTrue older => exact ring.filled _ older
    case isFalse => rfl

/-- The ring without its items. -/
def clear (ring : Ring α) : Ring α := empty ring.capacity ring.capacity_pos

@[simp] theorem capacity_push (ring : Ring α) (item : α) :
    (ring.push item).capacity = ring.capacity := rfl

@[simp] theorem size_push (ring : Ring α) (item : α) :
    (ring.push item).size = min ring.capacity (ring.size + 1) := ring.stored_push

theorem size_le_capacity (ring : Ring α) : ring.size ≤ ring.capacity := ring.stored_le

@[simp] theorem isFull_iff (ring : Ring α) : ring.isFull ↔ ring.size = ring.capacity := by
  simp [isFull, size]

/-- Every place that the view reads holds an item. -/
theorem map_some_toList (ring : Ring α) :
    ring.toList.map some = (List.range ring.size).map ring.item? := by
  rw [toList, List.map_filterMap_some_eq_filter_map_isSome]
  apply List.filter_eq_self.mpr
  intro read listed
  obtain ⟨offset, below, rfl⟩ := List.mem_map.mp listed
  exact ring.filled offset (List.mem_range.mp below)

@[simp] theorem length_toList (ring : Ring α) : ring.toList.length = ring.size := by
  simpa using congrArg List.length ring.map_some_toList

@[simp] theorem toList_empty (capacity : Nat) (capacity_pos : 0 < capacity) :
    (empty capacity capacity_pos : Ring α).toList = [] := rfl

@[simp] theorem toList_clear (ring : Ring α) : ring.clear.toList = [] := rfl

/-- After a push the view reads on from the item that came next, and then the new one. -/
theorem item?_push (ring : Ring α) (item : α) {offset : Nat}
    (inside : offset < (ring.push item).size) :
    (ring.push item).item? offset =
      if offset + (ring.size + 1 - ring.capacity) < ring.size then
        ring.item? (offset + (ring.size + 1 - ring.capacity))
      else some item := by
  rw [size_push] at inside
  have joined := ring.join_set_head item inside
  rw [← stored_push] at joined
  exact joined

/-- Pushing appends an item and keeps the newest ones. -/
theorem toList_push (ring : Ring α) (item : α) :
    (ring.push item).toList =
      (ring.toList ++ [item]).drop (ring.size + 1 - ring.capacity) := by
  have bound := ring.size_le_capacity
  apply (List.map_inj_right fun _ _ => Option.some.inj).mp
  rw [map_some_toList, List.map_drop, List.map_append, map_some_toList]
  apply List.ext_getElem
  · simp
    omega
  · intro offset inside _
    have held : offset < (ring.push item).size := by simpa using inside
    rw [List.getElem_map, List.getElem_range, item?_push _ _ held, List.getElem_drop,
      List.getElem_append]
    simp only [List.length_map, List.length_range, List.getElem_map, List.getElem_range,
      Nat.add_comm offset]
    split
    · rfl
    · simp

end Ring

end PointerRouting
