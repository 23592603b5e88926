/-
Module: PointerRouting.HoverTable
Purpose: Which pointers of which devices hover over a window. Devices stand in the order in which
  they came, a device whose last pointer leaves goes with it, and one that comes back comes last.
  Device ids are whatever numbers callers use; the pointers of each device are the view all
  lemmas speak through.
Main exports: HoverTable, HoverTable.pointers, HoverTable.insert, HoverTable.erase,
  HoverTable.drop, HoverTable.text
-/
import PointerRouting.Pointer.Set
import PointerRouting.Sorting

namespace PointerRouting

/-- A row is a device with its hovering pointers. No device has two rows and none has an empty
one. -/
structure HoverTable where
  rows : List (Number × PointerSet) := []
  devices_nodup : (rows.map Prod.fst).Nodup := by simp
  row_ne_empty : ∀ row ∈ rows, row.2 ≠ ∅ := by simp
deriving DecidableEq

namespace HoverTable

instance : EmptyCollection HoverTable := ⟨{}⟩

instance : Inhabited HoverTable := ⟨∅⟩

/-- The pointers in the row of a device. -/
def pointersIn (device : Number) : List (Number × PointerSet) → PointerSet
  | [] => ∅
  | (key, pointers) :: rest => if key = device then pointers else pointersIn device rest

/-- Write the row of a device: in its place if it has one, at the end otherwise. -/
def writeRow (device : Number) (pointers : PointerSet) :
    List (Number × PointerSet) → List (Number × PointerSet)
  | [] => [(device, pointers)]
  | (key, old) :: rest =>
    if key = device then (key, pointers) :: rest else (key, old) :: writeRow device pointers rest

/-- Take out the row of a device. -/
def dropRow (device : Number) (rows : List (Number × PointerSet)) :
    List (Number × PointerSet) :=
  rows.filter fun row => row.1 ≠ device

theorem eq_or_mem_of_mem_writeRow {device : Number} {pointers : PointerSet}
    {rows : List (Number × PointerSet)} {row : Number × PointerSet}
    (member : row ∈ writeRow device pointers rows) : row = (device, pointers) ∨ row ∈ rows := by
  induction rows with
  | nil => simpa [writeRow] using member
  | cons head rest ih =>
    obtain ⟨key, old⟩ := head
    by_cases same : key = device
    · subst same
      simp only [writeRow, if_pos, List.mem_cons] at member
      rcases member with rfl | member
      · exact .inl rfl
      · exact .inr (List.mem_cons_of_mem _ member)
    · simp only [writeRow, if_neg same, List.mem_cons] at member
      rcases member with rfl | member
      · exact .inr List.mem_cons_self
      · exact (ih member).imp id (List.mem_cons_of_mem _)

theorem nodup_writeRow {device : Number} {pointers : PointerSet}
    {rows : List (Number × PointerSet)} (nodup : (rows.map Prod.fst).Nodup) :
    ((writeRow device pointers rows).map Prod.fst).Nodup := by
  induction rows with
  | nil => simp [writeRow]
  | cons head rest ih =>
    obtain ⟨key, old⟩ := head
    simp only [List.map_cons, List.nodup_cons] at nodup
    by_cases same : key = device
    · simp only [writeRow, if_pos same, List.map_cons, List.nodup_cons]
      exact nodup
    · simp only [writeRow, if_neg same, List.map_cons, List.nodup_cons]
      refine ⟨fun member => ?_, ih nodup.2⟩
      obtain ⟨row, inRows, rowKey⟩ := List.mem_map.mp member
      rcases eq_or_mem_of_mem_writeRow inRows with rfl | old
      · exact same rowKey.symm
      · exact nodup.1 (List.mem_map.mpr ⟨row, old, rowKey⟩)

theorem nodup_dropRow {device : Number} {rows : List (Number × PointerSet)}
    (nodup : (rows.map Prod.fst).Nodup) : ((dropRow device rows).map Prod.fst).Nodup :=
  (List.filter_sublist.map _).nodup nodup

/-- The devices with hovering pointers, in the order in which they came. -/
def devices (table : HoverTable) : List Number := table.rows.map Prod.fst

/-- The hovering pointers of a device. -/
def pointers (table : HoverTable) (device : Number) : PointerSet := pointersIn device table.rows

/-- Whether a device has hovering pointers. -/
def hasDevice (table : HoverTable) (device : Number) : Bool := device ∈ table.devices

/-- Whether no device has hovering pointers. -/
def isEmpty (table : HoverTable) : Bool := table.rows.isEmpty

/-- The row of a device written with a set that is not empty. -/
def write (table : HoverTable) (device : Number) (pointers : PointerSet)
    (nonempty : pointers ≠ ∅) : HoverTable where
  rows := writeRow device pointers table.rows
  devices_nodup := nodup_writeRow table.devices_nodup
  row_ne_empty row member := by
    rcases eq_or_mem_of_mem_writeRow member with rfl | old
    · exact nonempty
    · exact table.row_ne_empty row old

/-- The table without a device. -/
def drop (table : HoverTable) (device : Number) : HoverTable where
  rows := dropRow device table.rows
  devices_nodup := nodup_dropRow table.devices_nodup
  row_ne_empty row member := table.row_ne_empty row (List.mem_filter.mp member).1

/-- The table with a pointer of a device added. -/
def insert (table : HoverTable) (device : Number) (pointer : PointerId) : HoverTable :=
  table.write device ((table.pointers device).insert pointer) fun empty =>
    PointerSet.not_mem_empty pointer (empty ▸ by simp)

/-- The table without a pointer of a device; with its last pointer the device goes too. -/
def erase (table : HoverTable) (device : Number) (pointer : PointerId) : HoverTable :=
  let remaining := (table.pointers device).erase pointer
  if gone : remaining = ∅ then table.drop device else table.write device remaining gone

/-- The devices in ascending order. -/
def sortedDevices (table : HoverTable) : List Number := Sorting.sort Number.below table.devices

/-- A table is written as its devices in ascending order with their pointers, in braces. -/
def text (table : HoverTable) : String :=
  "\x7b" ++
    joined ", " (table.sortedDevices.map fun device =>
      device.text ++ ": " ++ (table.pointers device).text) ++
    "\x7d"

/-- Apart from NaN, numbers are strictly ordered. -/
theorem strictWeak_below : Sorting.StrictWeak Number.below (· ≠ .nan) where
  asymm {first second} _ _ precedes := by
    rcases first with _ | (_ | _) | _ <;> rcases second with _ | (_ | _) | _ <;>
      grind [Number.below]
  follows {first second third} notNan _ _ := by
    rcases first with _ | (_ | _) | _ <;> rcases second with _ | (_ | _) | _ <;>
      rcases third with _ | (_ | _) | _ <;> grind [Number.below]

/-- Sorting lists the same devices. -/
theorem sortedDevices_perm (table : HoverTable) : table.sortedDevices.Perm table.devices :=
  Sorting.sort_perm Number.below table.devices

/-- Devices that are numbers proper are listed in ascending order. -/
theorem inOrder_sortedDevices {table : HoverTable}
    (proper : ∀ device ∈ table.devices, device ≠ .nan) :
    Sorting.InOrder Number.below table.sortedDevices :=
  Sorting.inOrder_sort strictWeak_below proper

@[simp] theorem pointers_empty (device : Number) : (∅ : HoverTable).pointers device = ∅ := rfl

theorem pointersIn_writeRow (device other : Number) (pointers : PointerSet)
    (rows : List (Number × PointerSet)) :
    pointersIn other (writeRow device pointers rows) =
      if other = device then pointers else pointersIn other rows := by
  induction rows with
  | nil => simp [writeRow, pointersIn, eq_comm]
  | cons head rest ih =>
    obtain ⟨key, old⟩ := head
    by_cases same : key = device
    · by_cases hit : other = device
      · simp [writeRow, pointersIn, same, hit]
      · simp [writeRow, pointersIn, same, hit, Ne.symm hit]
    · by_cases hit : key = other
      · simp [writeRow, pointersIn, hit ▸ same, hit]
      · simp [writeRow, pointersIn, same, hit, ih]

theorem pointersIn_dropRow (device other : Number) (rows : List (Number × PointerSet)) :
    pointersIn other (dropRow device rows) =
      if other = device then ∅ else pointersIn other rows := by
  induction rows with
  | nil => simp [dropRow, pointersIn]
  | cons head rest ih =>
    obtain ⟨key, old⟩ := head
    by_cases same : key = device
    · by_cases hit : other = device
      · simpa [dropRow, pointersIn, same, hit] using ih
      · simpa [dropRow, pointersIn, same, hit, Ne.symm hit] using ih
    · by_cases hit : key = other
      · simp [dropRow, pointersIn, hit ▸ same, hit]
      · simpa [dropRow, pointersIn, same, hit] using ih

theorem pointersIn_eq_empty_iff {device : Number} {rows : List (Number × PointerSet)}
    (nonempty : ∀ row ∈ rows, row.2 ≠ ∅) :
    pointersIn device rows = ∅ ↔ device ∉ rows.map Prod.fst := by
  induction rows with
  | nil => simp [pointersIn]
  | cons head rest ih =>
    obtain ⟨key, pointers⟩ := head
    have restNonempty : ∀ row ∈ rest, row.2 ≠ ∅ := fun row member =>
      nonempty row (List.mem_cons_of_mem _ member)
    have headNonempty : pointers ≠ ∅ := nonempty (key, pointers) List.mem_cons_self
    by_cases same : key = device
    · simp [pointersIn, same, headNonempty]
    · simp only [pointersIn, if_neg same, ih restNonempty, List.map_cons, List.mem_cons, not_or]
      exact ⟨fun absent => ⟨Ne.symm same, absent⟩, fun absent => absent.2⟩

/-- A device is listed exactly when it has a hovering pointer. -/
theorem mem_devices {table : HoverTable} {device : Number} :
    device ∈ table.devices ↔ table.pointers device ≠ ∅ := by
  rw [Ne, pointers, pointersIn_eq_empty_iff table.row_ne_empty, Decidable.not_not, devices]

/-- Adding a pointer changes the pointers of its device only. -/
theorem pointers_insert (table : HoverTable) (device other : Number) (pointer : PointerId) :
    (table.insert device pointer).pointers other =
      if other = device then (table.pointers device).insert pointer else table.pointers other :=
  pointersIn_writeRow device other _ table.rows

/-- Dropping a device empties it and no other. -/
theorem pointers_drop (table : HoverTable) (device other : Number) :
    (table.drop device).pointers other =
      if other = device then ∅ else table.pointers other :=
  pointersIn_dropRow device other table.rows

/-- Removing a pointer changes the pointers of its device only. -/
theorem pointers_erase (table : HoverTable) (device other : Number) (pointer : PointerId) :
    (table.erase device pointer).pointers other =
      if other = device then (table.pointers device).erase pointer else table.pointers other := by
  simp only [erase]
  split
  case isTrue gone => rw [pointers_drop, gone]
  case isFalse => exact pointersIn_writeRow device other _ table.rows

/-- A table is empty exactly when no device has a pointer. -/
theorem isEmpty_iff {table : HoverTable} :
    table.isEmpty = true ↔ ∀ device, table.pointers device = ∅ := by
  constructor
  · intro empty device
    have : table.rows = [] := by simpa [isEmpty] using empty
    simp [pointers, pointersIn, this]
  · intro none
    rw [isEmpty, List.isEmpty_iff]
    cases rows : table.rows with
    | nil => rfl
    | cons head rest =>
      have listed : head.1 ∈ table.devices := by simp [devices, rows]
      exact absurd (none head.1) (mem_devices.mp listed)

end HoverTable

end PointerRouting
