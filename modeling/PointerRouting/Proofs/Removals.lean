/-
Module: PointerRouting.Proofs.Removals
Purpose: Removals commute. Cancelling pointers, ending hovering and lifting a pointer each thin
  the targets out and prune the dead ones. What they take from a target does not depend on what
  others have taken, and a dead target stays dead when it is thinned further, so it does not
  matter which removal comes first nor which of them prunes a target.
Main exports: HoverTable.Thins, HoverTable.Thins.unique, Target.Thins, Routing.thin,
  Routing.thin_thin, Removal, Removal.play, Removal.routing_play, Removal.removals_commute
-/
import PointerRouting.Gesture
import PointerRouting.Proofs.Histories
import PointerRouting.Proofs.Samples

namespace PointerRouting

namespace HoverTable

variable {first second : HoverTable}

theorem rows_eq_map {rows : List (Number × PointerSet)} (nodup : (rows.map Prod.fst).Nodup) :
    rows = (rows.map Prod.fst).map fun device => (device, pointersIn device rows) := by
  induction rows with
  | nil => rfl
  | cons row rest ih =>
      obtain ⟨key, pointers⟩ := row
      rw [List.map_cons, List.nodup_cons] at nodup
      have others : ∀ device ∈ rest.map Prod.fst,
          (device, pointersIn device ((key, pointers) :: rest)) =
            (device, pointersIn device rest) := by
        intro device listed
        have different : key ≠ device := fun same => nodup.1 (same ▸ listed)
        rw [pointersIn, if_neg different]
      rw [List.map_cons, List.map_cons, List.map_congr_left others, ← ih nodup.2]
      simp [pointersIn]

/-- A table is determined by its devices, in order, and by their pointers. -/
theorem ext_pointers (devices : first.devices = second.devices)
    (pointers : ∀ device, first.pointers device = second.pointers device) : first = second := by
  have rows : first.rows = second.rows := by
    rw [rows_eq_map first.devices_nodup, rows_eq_map second.devices_nodup]
    change first.devices.map (fun device => (device, first.pointers device)) =
      second.devices.map fun device => (device, second.pointers device)
    rw [devices, funext pointers]
  cases first
  cases second
  congr

/-- A table thinned out: of the pointers those are left that are kept, and of the devices those
that have pointers left, in their order. -/
structure Thins (keeps : Number → PointerId → Prop) (old new : HoverTable) : Prop where
  devices : new.devices = old.devices.filter fun device => new.pointers device ≠ ∅
  mem : ∀ {device pointer}, pointer ∈ new.pointers device ↔
    pointer ∈ old.pointers device ∧ keeps device pointer

variable {keeps keepsToo : Number → PointerId → Prop} {old between new : HoverTable}

/-- What is kept determines what is left. -/
theorem Thins.unique (one : Thins keeps old first) (other : Thins keeps old second) :
    first = second := by
  have pointers : ∀ device, first.pointers device = second.pointers device := by
    intro device
    apply PointerSet.ext_mem
    intro pointer
    rw [one.mem, other.mem]
  apply ext_pointers _ pointers
  rw [one.devices, other.devices]
  simp only [pointers]

theorem Thins.trans (early : Thins keeps old between) (late : Thins keepsToo between new) :
    Thins (fun device pointer => keeps device pointer ∧ keepsToo device pointer) old new where
  devices := by
    rw [late.devices, early.devices, List.filter_filter]
    apply List.filter_congr
    intro device _
    -- A device that has pointers in the end has had them in between.
    have had : new.pointers device ≠ ∅ → between.pointers device ≠ ∅ := by
      intro left none
      apply left
      rw [PointerSet.eq_empty_iff]
      intro pointer
      simp [late.mem, none]
    simpa using had
  mem := by
    intro device pointer
    rw [late.mem, early.mem, and_assoc]

theorem Thins.refl (all : ∀ device pointer, keeps device pointer) (table : HoverTable) :
    Thins keeps table table where
  devices := by
    rw [eq_comm, List.filter_eq_self]
    intro device listed
    simpa using mem_devices.mp listed
  mem := by
    intro device pointer
    exact (and_iff_left (all device pointer)).symm

/-- Dropping a device leaves all other devices where they are. -/
theorem thins_drop (table : HoverTable) (device : Number) :
    Thins (fun other _ => other ≠ device) table (table.drop device) where
  devices := by
    have left : (table.drop device).devices = table.devices.filter (· ≠ device) := by
      simp only [devices, drop, dropRow, List.filter_map]
      rfl
    rw [left]
    apply List.filter_congr
    intro other listed
    have hovers := mem_devices.mp listed
    rw [pointers_drop]
    by_cases same : other = device <;> simp [same, hovers]
  mem := by
    intro other pointer
    rw [pointers_drop]
    by_cases same : other = device <;> simp [same]

theorem devices_writeRow {device : Number} {pointers : PointerSet}
    {rows : List (Number × PointerSet)} (listed : device ∈ rows.map Prod.fst) :
    (writeRow device pointers rows).map Prod.fst = rows.map Prod.fst := by
  induction rows with
  | nil => cases listed
  | cons row rest ih =>
      obtain ⟨key, old⟩ := row
      by_cases same : key = device
      · simp [writeRow, same]
      · have later : device ∈ rest.map Prod.fst := by
          simpa [Ne.symm same] using listed
        simp [writeRow, same, ih later]

theorem devices_erase (table : HoverTable) (device : Number) (pointer : PointerId) :
    (table.erase device pointer).devices =
      table.devices.filter fun other => (table.erase device pointer).pointers other ≠ ∅ := by
  by_cases listed : device ∈ table.devices
  · by_cases gone : (table.pointers device).erase pointer = ∅
    · have dropped : table.erase device pointer = table.drop device := by
        rw [erase, dif_pos gone]
      rw [dropped]
      exact (table.thins_drop device).devices
    · have kept : (table.erase device pointer).devices = table.devices := by
        rw [erase, dif_neg gone]
        exact devices_writeRow listed
      rw [kept, eq_comm, List.filter_eq_self]
      intro other otherListed
      simpa using mem_devices.mp (kept ▸ otherListed)
  · rw [erase_of_absent (by simpa [hasDevice] using listed)]
    exact (Thins.refl (fun _ _ => trivial) table).devices

/-- Erasing a pointer leaves all other pointers, and the devices that have any where they are. -/
theorem thins_erase (table : HoverTable) (device : Number) (pointer : PointerId) :
    Thins (fun other id => ¬(other = device ∧ id = pointer)) table
      (table.erase device pointer) where
  devices := table.devices_erase device pointer
  mem := by
    intro other id
    rw [pointers_erase]
    by_cases same : other = device <;> simp [same]

end HoverTable

namespace Target

/-- A target thinned out: of its pointers those are left that are kept, and nothing else about it
has changed. -/
structure Thins (keepsTouch : PointerId → Prop) (keepsHover : Number → PointerId → Prop)
    (old new : Target) : Prop where
  mem : ∀ {pointer}, pointer ∈ new.touching ↔ pointer ∈ old.touching ∧ keepsTouch pointer
  hovering : old.hovering.Thins keepsHover new.hovering
  rest : new = { old with touching := new.touching, hovering := new.hovering }

variable {keepsTouch keepsTouchToo : PointerId → Prop}
  {keepsHover keepsHoverToo : Number → PointerId → Prop} {old between new other : Target}

theorem Thins.trans (early : Thins keepsTouch keepsHover old between)
    (late : Thins keepsTouchToo keepsHoverToo between new) :
    Thins (fun pointer => keepsTouch pointer ∧ keepsTouchToo pointer)
      (fun device pointer => keepsHover device pointer ∧ keepsHoverToo device pointer) old new where
  mem := by
    intro pointer
    rw [late.mem, early.mem, and_assoc]
  hovering := early.hovering.trans late.hovering
  rest := by
    rw [late.rest, early.rest]

theorem Thins.unique (one : Thins keepsTouch keepsHover old new)
    (another : Thins keepsTouch keepsHover old other) : new = other := by
  have touching : new.touching = other.touching := by
    apply PointerSet.ext_mem
    intro pointer
    rw [one.mem, another.mem]
  rw [one.rest, another.rest, touching, one.hovering.unique another.hovering]

/-- What has no more pointers than a dead target is dead. -/
theorem isDead_of_fewer (dead : old.isDead = true)
    (touching : ∀ pointer ∈ new.touching, pointer ∈ old.touching)
    (hovering : ∀ device, ∀ pointer ∈ new.hovering.pointers device,
      pointer ∈ old.hovering.pointers device) : new.isDead = true := by
  simp only [isDead_iff, PointerSet.eq_empty_iff] at dead ⊢
  constructor
  · intro pointer touched
    exact dead.1 pointer (touching pointer touched)
  · intro device pointer hovers
    exact dead.2 device pointer (hovering device pointer hovers)

/-- A dead target has nothing left to lose. -/
theorem Thins.isDead (thins : Thins keepsTouch keepsHover old new) (dead : old.isDead = true) :
    new.isDead = true := by
  apply isDead_of_fewer dead
  · intro pointer touched
    exact (thins.mem.mp touched).1
  · intro device pointer hovers
    exact (thins.hovering.mem.mp hovers).1

theorem giveUp_giveUp (target : Target) (pointers more : PointerSet) :
    (target.giveUp pointers).giveUp more = target.giveUp (pointers ∪ more) := by
  have touching : (target.touching \ pointers) \ more = target.touching \ (pointers ∪ more) := by
    apply PointerSet.ext_mem
    intro pointer
    simp [and_assoc]
  simp [giveUp, touching]

end Target

namespace Routing

/-- The routing with every target changed and the dead ones pruned. -/
def thin (routing : Routing) (change : Target → Target) : Routing :=
  { routing with targets := (routing.targets.map change).filter fun target => !target.isDead }

/-- Pruning in between makes no difference to a change that revives no target. -/
theorem thin_thin {late : Target → Target} (routing : Routing) (early : Target → Target)
    (deadStays : ∀ target, target.isDead = true → (late target).isDead = true) :
    (routing.thin early).thin late = routing.thin fun target => late (early target) := by
  simp only [thin, List.filter_map, List.map_map, List.filter_filter]
  congr 2
  apply List.filter_congr
  intro target _
  have stays := deadStays (early target)
  cases dead : (early target).isDead <;> simp_all

end Routing

/-- A removal that is carried out: its set of pointers is not empty, its pointer can be. -/
inductive Removal where
  /-- Pointers are cancelled except where a connection is. -/
  | cancelExcept (pointers : PointerSet) (token : Token) (given : pointers ≠ ∅)
  /-- A pointer of a device stops hovering. -/
  | unhover (device pointer : Number) (id : PointerId) (valid : checkPointer pointer = .ok id)
  /-- A device stops hovering. -/
  | unhoverDevice (device : Number)
  /-- A gesture lifts a pointer. -/
  | up (time pointer : Number) (id : PointerId) (valid : checkPointer pointer = .ok id)

namespace Removal

/-- Carry a removal out. -/
def play : Removal → Routing → Outcome
  | cancelExcept pointers token _, routing =>
    (Operation.cancelExcept pointers token).apply routing
  | unhover device pointer _ _, routing => (Operation.unhover device pointer).apply routing
  | unhoverDevice device, routing => (Operation.unhoverDevice device).apply routing
  | up time pointer _ _, routing => ({ time, action := .up pointer } : Gesture.Timed).play routing

/-- What a removal leaves of a target. -/
def thin : Removal → Target → Target
  | cancelExcept pointers token _, target =>
    if target.window.token = token then target else target.giveUp pointers
  | unhover device _ id _, target => { target with hovering := target.hovering.erase device id }
  | unhoverDevice device, target => target.unhoverDevice device
  | up _ _ id _, target => { target with touching := target.touching.erase id }

/-- Whether a removal leaves a window a pointer that touches it. -/
def KeepsTouch : Removal → Window → PointerId → Prop
  | cancelExcept pointers token _, window, pointer => window.token = token ∨ pointer ∉ pointers
  | up _ _ id _, _, pointer => pointer ≠ id
  | unhover .., _, _ | unhoverDevice _, _, _ => True

/-- Whether a removal leaves a pointer of a device hovering. -/
def KeepsHover : Removal → Number → PointerId → Prop
  | unhover device _ id _, other, pointer => ¬(other = device ∧ pointer = id)
  | unhoverDevice device, other, _ => other ≠ device
  | cancelExcept .., _, _ | up .., _, _ => True

/-- A removal thins a target out, and what it takes does not depend on what the target has. -/
theorem thins_thin (removal : Removal) (target : Target) :
    target.Thins (removal.KeepsTouch target.window) removal.KeepsHover (removal.thin target) := by
  have allHover := HoverTable.Thins.refl (fun _ _ => trivial) target.hovering
  have allTouch : ∀ {pointer}, pointer ∈ target.touching ↔ pointer ∈ target.touching ∧ True := by
    simp
  cases removal with
  | cancelExcept pointers token given =>
      by_cases carries : target.window.token = token
      · simp only [thin, carries, if_true]
        exact ⟨by simp [KeepsTouch, carries], allHover, rfl⟩
      · simp only [thin, carries, if_false]
        exact ⟨by simp [KeepsTouch, carries], allHover, rfl⟩
  | unhover device pointer id valid => exact ⟨allTouch, target.hovering.thins_erase device id, rfl⟩
  | unhoverDevice device => exact ⟨allTouch, target.hovering.thins_drop device, rfl⟩
  | up time pointer id valid => exact ⟨by simp [thin, KeepsTouch], allHover, rfl⟩

theorem window_thin (removal : Removal) (target : Target) :
    (removal.thin target).window = target.window := by
  rw [(removal.thins_thin target).rest]

/-- Removals thin a target out in either order. -/
theorem thin_comm (one other : Removal) (target : Target) :
    other.thin (one.thin target) = one.thin (other.thin target) := by
  have first := (one.thins_thin target).trans (other.thins_thin (one.thin target))
  have second := (other.thins_thin target).trans (one.thins_thin (other.thin target))
  rw [window_thin] at first second
  apply first.unique
  simpa only [and_comm] using second

/-- Every removal comes to thinning the targets out and pruning the dead ones. -/
theorem routing_play (removal : Removal) (routing : Routing) :
    (removal.play routing).routing = routing.thin removal.thin := by
  cases removal with
  | cancelExcept pointers token given => exact Routing.routing_cancelExcept given
  | unhover device pointer id valid => exact Routing.routing_unhover valid
  | unhoverDevice device => exact Routing.routing_unhoverDevice device
  | up time pointer id valid =>
      change (Operation.runAll [.lift pointer, .prune] routing).routing = _
      simp [Operation.runAll, Operation.apply, Outcome.andThen, Routing.lift_of_valid valid,
        Routing.prune_eq, Routing.thin]
      rfl

theorem play_comm (one other : Removal) (routing : Routing) :
    (other.play (one.play routing).routing).routing =
      (one.play (other.play routing).routing).routing := by
  simp only [routing_play]
  rw [Routing.thin_thin, Routing.thin_thin]
  · simp only [thin_comm one other]
  · intro target dead
    exact (one.thins_thin target).isDead dead
  · intro target dead
    exact (other.thins_thin target).isDead dead

/-- Cancelling nothing does nothing, so no pruning happens either; and cancelling first some
pointers and then others is cancelling all of them at once. -/
theorem cancelExcept_cancelExcept (routing : Routing) (pointers more : PointerSet) (token : Token) :
    ((routing.cancelExcept pointers token).routing.cancelExcept more token).routing =
      (routing.cancelExcept (pointers ∪ more) token).routing := by
  have nothing : ∀ routing : Routing, (routing.cancelExcept ∅ token).routing = routing :=
    fun _ => rfl
  by_cases given : pointers = ∅
  · have all : pointers ∪ more = more := by
      apply PointerSet.ext_mem
      simp [given]
    rw [all, given, nothing]
  by_cases givenMore : more = ∅
  · have all : pointers ∪ more = pointers := by
      apply PointerSet.ext_mem
      simp [givenMore]
    rw [all, givenMore, nothing]
  have givenAll : pointers ∪ more ≠ ∅ := by
    intro none
    apply given
    rw [PointerSet.eq_empty_iff] at none ⊢
    intro pointer inFirst
    exact none pointer (PointerSet.mem_union.mpr (.inl inFirst))
  have thinned : ∀ (pointers : PointerSet) (given : pointers ≠ ∅) (routing : Routing),
      (routing.cancelExcept pointers token).routing =
        routing.thin (thin (.cancelExcept pointers token given)) :=
    fun pointers given => routing_play (.cancelExcept pointers token given)
  rw [thinned pointers given, thinned more givenMore, thinned (pointers ∪ more) givenAll,
    Routing.thin_thin]
  · congr 1
    funext target
    by_cases carries : target.window.token = token
    · simp [thin, carries]
    · have kept : (target.giveUp pointers).window.token ≠ token := carries
      simp [thin, carries, kept, Target.giveUp_giveUp]
  · intro target
    exact (thins_thin _ target).isDead

/-- The routing that removals leave, carried out one after another. -/
def playAll (removals : List Removal) (routing : Routing) : Routing :=
  removals.foldl (fun routing removal => (removal.play routing).routing) routing

/-- Removals commute. In whatever order they are carried out they leave the same routing, with the
same targets in the same order, and so with the same text. Cancelling first some pointers and then
others is cancelling them at once, also where there are none to cancel. -/
theorem removals_commute (routing : Routing) :
    (∀ removals others : List Removal, removals.Perm others →
      playAll removals routing = playAll others routing) ∧
    (∀ (pointers more : PointerSet) (token : Token),
      ((routing.cancelExcept pointers token).routing.cancelExcept more token).routing =
        (routing.cancelExcept (pointers ∪ more) token).routing) := by
  refine ⟨?_, cancelExcept_cancelExcept routing⟩
  intro removals others perm
  apply perm.foldl_eq'
  intro one _ other _ routing
  exact play_comm one other routing

/-- The spy keeps what it touches when pointer 1 is cancelled for it, and loses it when the pointer
is lifted; the app goes with whichever comes first. -/
theorem cancelling_and_lifting_commute :
    let routing : Routing :=
      { targets := [{ window := .spy, touching := .ofList [1, 2] },
          { window := .app, touching := .singleton 1 }] }
    let cancel : Removal := .cancelExcept (.singleton 1) Window.spy.token (by decide)
    let lift : Removal := .up 0 1 1 (by decide)
    [cancel, lift].Perm [lift, cancel] ∧
      playAll [cancel, lift] routing = playAll [lift, cancel] routing ∧
      (playAll [lift, cancel] routing).targets = [{ window := .spy, touching := .singleton 2 }] := by
  intro routing cancel lift
  have perm : [cancel, lift].Perm [lift, cancel] := List.Perm.swap _ _ _
  exact ⟨perm, (removals_commute routing).1 _ _ perm, by decide⟩

end Removal

end PointerRouting
