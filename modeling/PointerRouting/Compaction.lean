/-
Module: PointerRouting.Compaction
Purpose: One pass over a list in its own slots. What is kept of the item that is read is written to
  the next slot from the front, and what is not kept is set aside; in the end the slots behind the
  last one written are cut off. The slot that is written never lies beyond the slot that is read,
  so every item is read as it was, whatever has been kept and set aside before it, and the pass
  leaves what is kept, in order.
Main exports: Compaction, Compaction.read, compact, Compaction.foldl_read, compact_eq
-/

namespace PointerRouting

/-- A list while its items are being read one after another. -/
structure Compaction (Item : Type) where
  /-- Slots that have been written, then slots that have only been read, then the rest. -/
  slots : Array Item
  /-- How many slots have been written. -/
  written : Nat := 0
  /-- What was not kept. -/
  dropped : List Item := []

/-- Read the slot at a place. An item that is kept is changed and written. -/
def Compaction.read {Item : Type} (keeps : Item → Bool) (change : Item → Item)
    (pass : Compaction Item) (place : Nat) : Compaction Item :=
  match pass.slots[place]? with
  | none => pass
  | some item =>
    if keeps item then
      { pass with
        slots := pass.slots.setIfInBounds pass.written (change item)
        written := pass.written + 1 }
    else { pass with dropped := pass.dropped ++ [item] }

/-- Keep some items of a list, changed, and set the others aside, in one pass over its slots. -/
def compact {Item : Type} (keeps : Item → Bool) (change : Item → Item) (items : List Item) :
    List Item × List Item :=
  let pass := (List.range items.length).foldl (Compaction.read keeps change)
    { slots := items.toArray }
  (pass.slots.toList.take pass.written, pass.dropped)

namespace Compaction

variable {Item : Type} {keeps : Item → Bool} {item : Item} (change : Item → Item)
  (written stale rest dropped : List Item)

/-- What is kept is written over the first of the slots that have been read, which may be the one
that is being read. -/
theorem read_of_kept (kept : keeps item = true) :
    ∃ stale' : List Item, stale'.length = stale.length ∧
      read keeps change
          { slots := (written ++ stale ++ item :: rest).toArray
            written := written.length
            dropped }
          (written.length + stale.length) =
        { slots := (written ++ [change item] ++ stale' ++ rest).toArray
          written := written.length + 1
          dropped } := by
  obtain ⟨first, stale', split⟩ :=
    List.exists_cons_of_ne_nil (List.append_ne_nil_of_right_ne_nil stale (List.cons_ne_nil item []))
  refine ⟨stale', ?_, ?_⟩
  · simpa using (congrArg List.length split).symm
  · have slots : written ++ stale ++ item :: rest = written ++ first :: (stale' ++ rest) := by
      rw [List.append_assoc, List.append_cons, split]
      rfl
    have found : (written ++ stale ++ item :: rest).toArray[written.length + stale.length]? =
        some item := by
      simp
    simp only [read, found, kept, if_true]
    simp [slots]

theorem read_of_dropped (kept : keeps item = false) :
    read keeps change
        { slots := (written ++ stale ++ item :: rest).toArray, written := written.length, dropped }
        (written.length + stale.length) =
      { slots := (written ++ (stale ++ [item]) ++ rest).toArray
        written := written.length
        dropped := dropped ++ [item] } := by
  have found : (written ++ stale ++ item :: rest).toArray[written.length + stale.length]? =
      some item := by
    simp
  simp only [read, found, kept]
  simp

variable (keeps) in
/-- Reading the rest adds what is kept of it to what has been written, and all else to what was set
aside, whatever the slots in between are left with. -/
theorem foldl_read :
    ∃ left : List Item,
      (List.range' (written.length + stale.length) rest.length).foldl (read keeps change)
          { slots := (written ++ stale ++ rest).toArray, written := written.length, dropped } =
        { slots := (written ++ (rest.filter keeps).map change ++ left).toArray
          written := written.length + ((rest.filter keeps).map change).length
          dropped := dropped ++ rest.filter fun item => !keeps item } := by
  induction rest generalizing written stale dropped with
  | nil => exact ⟨stale, by simp⟩
  | cons item rest ih =>
      rw [List.length_cons, List.range'_succ, List.foldl_cons]
      cases kept : keeps item with
      | true =>
          obtain ⟨stale', sameLength, isRead⟩ :=
            read_of_kept change written stale rest dropped kept
          obtain ⟨left, all⟩ := ih (written ++ [change item]) stale' dropped
          refine ⟨left, ?_⟩
          simp only [List.length_append, List.length_singleton] at all
          rw [isRead, ← sameLength, Nat.add_right_comm, all, List.filter_cons_of_pos kept,
            List.filter_cons_of_neg (by simp [kept])]
          simp
          omega
      | false =>
          obtain ⟨left, all⟩ := ih written (stale ++ [item]) (dropped ++ [item])
          refine ⟨left, ?_⟩
          simp only [List.length_append, List.length_singleton, ← Nat.add_assoc] at all
          rw [read_of_dropped change written stale rest dropped kept, all,
            List.filter_cons_of_neg (by simp [kept]), List.filter_cons_of_pos (by simp [kept])]
          simp

end Compaction

/-- A pass in place leaves the items that are kept, changed, in their order, and sets aside the
others, in theirs. -/
theorem compact_eq {Item : Type} (keeps : Item → Bool) (change : Item → Item) (items : List Item) :
    compact keeps change items =
      ((items.filter keeps).map change, items.filter fun item => !keeps item) := by
  obtain ⟨left, all⟩ := Compaction.foldl_read keeps change [] [] items []
  simp only [List.length_nil, Nat.add_zero, Nat.zero_add, List.nil_append] at all
  simp only [compact, List.range_eq_range', all]
  simp

end PointerRouting
