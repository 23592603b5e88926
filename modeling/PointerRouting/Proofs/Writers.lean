/-
Module: PointerRouting.Proofs.Writers
Purpose: Who writes what. Among the operations of a routing each field of a target has its own
  writers: a pointer lands by touching, hovers by hovering, is claimed by pilfering; dispatch is
  changed by touching and by committing; and the time of the first landing is written once. An
  operation that is addressed to a handle leaves the targets of all other handles alone, whatever
  tokens and names they share with it.
Main exports: Operation.Permits, Operation.Alters.permits, Operation.handle?,
  Routing.targets_of_other_handles, Routing.downTime?, Routing.downTime?_after,
  Routing.fields_have_their_writers
-/
import PointerRouting.Proofs.Arrivals

namespace PointerRouting

namespace Target

theorem downTime_merge (target : Target) (flags : Mask) (pointers : PointerSet)
    (time : Option Number) :
    (target.merge flags pointers time).downTime = target.downTime.or time := rfl

/-- Ending the hovering of a pointer makes none hover. -/
theorem hovers_of_unhover {target left : Target} {device pointer : Number}
    (unhovers : target.unhover device pointer = .ok left) {other : Number} {id : PointerId}
    (hovers : id ∈ left.hovering.pointers other) : id ∈ target.hovering.pointers other := by
  cases valid : checkPointer pointer with
  | error violation =>
      rw [unhover_eq, valid] at unhovers
      split at unhovers
      · cases unhovers
      · cases unhovers
        exact hovers
  | ok ended =>
      rw [unhover_of_valid valid] at unhovers
      cases unhovers
      rw [HoverTable.pointers_erase] at hovers
      split at hovers
      · next same =>
        rw [same]
        exact (PointerSet.mem_erase.mp hovers).1
      · exact hovers

/-- No change to a target replaces the time that it has. -/
theorem downTime_of_revise {target revised : Target} {change : Change}
    (revises : target.revise change = .ok revised) {time : Number}
    (known : target.downTime = some time) : revised.downTime = some time := by
  cases change with
  | startAt given =>
      obtain rfl : target.startAt given = revised := Except.ok.inj revises
      rw [startAt, known, Option.some_or]
  | lift pointer =>
      obtain ⟨id, rfl⟩ := eq_of_lift revises
      exact known
  | unhover device pointer =>
      obtain ⟨hovering, rfl⟩ := eq_of_unhover revises
      exact known
  | hover device pointer =>
      cases valid : checkPointer pointer with
      | error violation =>
          rw [revise_hover_eq, valid] at revises
          cases revises
      | ok id =>
          rw [revise_hover_eq, valid] at revises
          cases revises
          exact known
  | touch | claim | unhoverDevice | endHovers | redirect =>
      cases revises
      exact known

end Target

namespace Operation

/-- What the routing's own operations may write into a target that they leave: field by field,
which operation it takes, to which handle or token it is addressed, and what it is given. -/
structure Permits (operation : Operation) (old new : Target) : Prop where
  window : new.window = old.window
  touching : ∀ pointer ∈ new.touching, pointer ∈ old.touching ∨
    ∃ flags pointers time, operation = .touch old.window flags pointers time ∧ pointer ∈ pointers
  hovering : ∀ device, ∀ pointer ∈ new.hovering.pointers device,
    pointer ∈ old.hovering.pointers device ∨
      ∃ number, operation = .hover old.window device number ∧ checkPointer number = .ok pointer
  keepsClaims : ∀ pointer ∈ old.pilfered, pointer ∈ new.pilfered
  pilfered : ∀ pointer ∈ new.pilfered, pointer ∈ old.pilfered ∨
    operation = .pilfer old.window.token ∧ pointer ∈ old.touching
  flags : new.flags = old.flags ∨ operation = .commit ∨
    ∃ flags pointers time, operation = .touch old.window flags pointers time
  downTime : new.downTime = old.downTime ∨ old.downTime = none ∧
    ∃ flags pointers time, operation = .touch old.window flags pointers (some time) ∧
      new.downTime = some time

variable {operation : Operation} {routing : Routing} {old new : Target}

/-- What lands and what is claimed is bounded for every operation, so the other three fields are
left to look at. -/
theorem Bounds.permits (own : operation.isOwn = true) (bounds : operation.Bounds old new)
    (hovering : ∀ device, ∀ pointer ∈ new.hovering.pointers device,
      pointer ∈ old.hovering.pointers device ∨
        ∃ number, operation = .hover old.window device number ∧ checkPointer number = .ok pointer)
    (flags : new.flags = old.flags ∨ operation = .commit ∨
      ∃ flags pointers time, operation = .touch old.window flags pointers time)
    (downTime : new.downTime = old.downTime ∨ old.downTime = none ∧
      ∃ flags pointers time, operation = .touch old.window flags pointers (some time) ∧
        new.downTime = some time) : operation.Permits old new where
  window := bounds.window
  touching pointer touched := (bounds.touching pointer touched).imp_right (eq_touch_of_lands own)
  hovering := hovering
  keepsClaims := bounds.keeps
  pilfered pointer claimed := (bounds.pilfered pointer claimed).imp_right (eq_pilfer_of_claims own)
  flags := flags
  downTime := downTime

/-- An operation that ends hovering at most, and leaves dispatch and the time alone. -/
theorem Bounds.permits_of_fewer (own : operation.isOwn = true) (bounds : operation.Bounds old new)
    (fewer : ∀ device, ∀ pointer ∈ new.hovering.pointers device,
      pointer ∈ old.hovering.pointers device)
    (flags : new.flags = old.flags) (downTime : new.downTime = old.downTime) :
    operation.Permits old new :=
  bounds.permits own (fun device pointer hovers => .inl (fewer device pointer hovers)) (.inl flags)
    (.inl downTime)

theorem Bounds.permits_of_same (own : operation.isOwn = true) (bounds : operation.Bounds old new)
    (hovering : new.hovering = old.hovering) (flags : new.flags = old.flags)
    (downTime : new.downTime = old.downTime) : operation.Permits old new :=
  bounds.permits_of_fewer own (fun _ _ hovers => hovering ▸ hovers) flags downTime

/-- The routing's own operations write nothing that they may not. -/
theorem Alters.permits (own : operation.isOwn = true) (alters : operation.Alters routing old new) :
    operation.Permits old new := by
  have bounds := alters.bounds
  -- Touching, hovering and committing write; the others take pointers, end hovering or claim.
  cases operation with
  | touch window flags pointers time =>
      rcases alters with rfl | ⟨rfl, rfl⟩
      · exact bounds.permits_of_same own rfl rfl rfl
      · apply bounds.permits own
        · intro device pointer hovers
          exact .inl hovers
        · exact .inr (.inr ⟨flags, pointers, time, rfl⟩)
        · rw [Target.downTime_merge]
          cases known : old.downTime with
          | some first => exact .inl rfl
          | none =>
              cases time with
              | none => exact .inl rfl
              | some first => exact .inr ⟨rfl, flags, pointers, first, rfl, rfl⟩
  | hover window device number =>
      rcases alters with rfl | ⟨rfl, id, valid, rfl⟩
      · exact bounds.permits_of_same own rfl rfl rfl
      · refine bounds.permits own ?_ (.inl rfl) (.inl rfl)
        intro other pointer hovers
        rw [Target.hover, HoverTable.pointers_insert] at hovers
        split at hovers
        · next same =>
          subst same
          rcases PointerSet.mem_insert.mp hovers with before | rfl
          · exact .inl before
          · exact .inr ⟨number, rfl, valid⟩
        · exact .inl hovers
  | commit =>
      subst alters
      exact bounds.permits own (fun _ _ hovers => .inl hovers) (.inr (.inl rfl)) (.inl rfl)
  | lift pointer =>
      rcases alters with rfl | lifts
      · exact bounds.permits_of_same own rfl rfl rfl
      · obtain ⟨id, rfl⟩ := Target.eq_of_lift lifts
        exact bounds.permits_of_same own rfl rfl rfl
  | liftFrom pointer window =>
      rcases alters with rfl | ⟨_, lifts⟩
      · exact bounds.permits_of_same own rfl rfl rfl
      · obtain ⟨id, rfl⟩ := Target.eq_of_lift lifts
        exact bounds.permits_of_same own rfl rfl rfl
  | unhover device pointer =>
      rcases alters with rfl | unhovers
      · exact bounds.permits_of_same own rfl rfl rfl
      · obtain ⟨hovering, rfl⟩ := Target.eq_of_unhover unhovers
        exact bounds.permits_of_fewer own
          (fun _ _ hovers => Target.hovers_of_unhover unhovers hovers) rfl rfl
  | unhoverDevice device =>
      subst alters
      refine bounds.permits_of_fewer own ?_ rfl rfl
      intro other pointer hovers
      rw [Target.unhoverDevice, HoverTable.pointers_drop] at hovers
      split at hovers
      · exact absurd hovers (PointerSet.not_mem_empty pointer)
      · exact hovers
  | endHovers =>
      subst alters
      refine bounds.permits_of_fewer own ?_ rfl rfl
      intro device pointer hovers
      exact absurd hovers (PointerSet.not_mem_empty pointer)
  | cancelExcept | pilfer =>
      rw [Alters] at alters
      split at alters <;> subst alters <;> exact bounds.permits_of_same own rfl rfl rfl
  | resolveClaims | bind | reset | prune | removeToken =>
      subst alters
      exact bounds.permits_of_same own rfl rfl rfl
  | revise => cases own

/-- A target that has a time keeps it, whether or not the operation is the routing's own. -/
theorem Alters.keeps_downTime (alters : operation.Alters routing old new) {time : Number}
    (known : old.downTime = some time) : new.downTime = some time := by
  by_cases own : operation.isOwn = true
  · rcases (alters.permits own).downTime with same | ⟨unknown, _⟩
    · rw [same, known]
    · rw [unknown] at known
      cases known
  · cases operation with
    | revise window change =>
        rcases alters with rfl | ⟨_, revises⟩
        · exact known
        · exact Target.downTime_of_revise revises known
    | _ => exact absurd rfl own

/-- A target is added with the time of the touch that adds it. -/
theorem Adds.eq_touch_of_downTime (adds : operation.Adds routing new) {time : Number}
    (known : new.downTime = some time) :
    ∃ flags pointers, operation = .touch new.window flags pointers (some time) := by
  cases operation with
  | touch window flags pointers first =>
      obtain ⟨_, rfl⟩ := adds
      cases known
      exact ⟨flags, pointers, rfl⟩
  | hover =>
      obtain ⟨_, _, _, rfl⟩ := adds
      cases known
  | _ => cases adds

/-- The handle that an operation is addressed to. The other operations reach targets by token, by
pointer or by device, or reach them all. -/
def handle? : Operation → Option Window
  | touch window .. | hover window .. | liftFrom _ window | revise window _ => some window
  | _ => none

end Operation

/-- Changing the target of a window within its window leaves the others as they are. -/
theorem filter_updateFirst {window : Window} {change : Target → Target} {targets : List Target}
    (stays : ∀ target ∈ targets, target.window = window → (change target).window = window) :
    (updateFirst window change targets).filter (fun target => target.window ≠ window) =
      targets.filter fun target => target.window ≠ window := by
  induction targets with
  | nil => rfl
  | cons target rest ih =>
      by_cases found : target.window = window
      · have still := stays target List.mem_cons_self found
        simp [updateFirst, found, still]
      · have later := ih fun other member => stays other (List.mem_cons_of_mem _ member)
        simpa [updateFirst, found] using later

namespace Routing

variable {routing : Routing} {operation : Operation} {window : Window}

theorem filter_replaceFirst {found changed : Target} (isFound : routing.find? window = some found)
    (same : changed.window = found.window) :
    (updateFirst window (fun _ => changed) routing.targets).filter
        (fun target => target.window ≠ window) =
      routing.targets.filter fun target => target.window ≠ window := by
  apply filter_updateFirst
  intro _ _ _
  rw [same, (window_of_find? isFound).2]

/-- An operation that is addressed to a handle neither changes nor removes nor reorders the targets
of other handles. -/
theorem targets_of_other_handles (addressed : operation.handle? = some window) :
    ((routing.next operation).targets.filter fun target => target.window ≠ window) =
      routing.targets.filter fun target => target.window ≠ window := by
  cases operation with
  | touch handle flags pointers time =>
      cases addressed
      simp only [next, Operation.apply, touch]
      split
      · exact filter_updateFirst fun _ _ here => here
      · simp
  | hover handle device pointer =>
      cases addressed
      simp only [next, Operation.apply, hover]
      split
      · rfl
      · rfl
      · split
        · exact filter_updateFirst fun _ _ here => here
        · simp [Target.hover]
  | liftFrom pointer handle =>
      cases addressed
      simp only [next, Operation.apply, liftFrom_eq]
      split
      · rfl
      · next found isFound =>
        split
        · rfl
        · next lifted lifts =>
          obtain ⟨id, rfl⟩ := Target.eq_of_lift lifts
          exact filter_replaceFirst isFound rfl
  | revise handle change =>
      cases addressed
      simp only [next, Operation.apply, revise_eq]
      split
      · rfl
      · next found isFound =>
        split
        · rfl
        · next revised revises =>
          have bounds := Operation.Bounds.of_revise (window_of_find? isFound).2 revises
          exact filter_replaceFirst isFound bounds.window
  | _ => cases addressed

/-- The time of the first landing in a window, if it takes part and has one. -/
def downTime? (routing : Routing) (window : Window) : Option Number :=
  (routing.find? window).bind Target.downTime

theorem downTime?_eq_some_iff (nodup : (routing.targets.map Target.window).Nodup) {time : Number} :
    routing.downTime? window = some time ↔
      ∃ target ∈ routing.targets, target.window = window ∧ target.downTime = some time := by
  rw [downTime?, Option.bind_eq_some_iff]
  simp only [find?_eq_some_iff nodup, and_assoc]

/-- A target that an operation leaves has the time that it had. -/
theorem downTime?_next (nodup : (routing.targets.map Target.window).Nodup) {time : Number}
    (known : routing.downTime? window = some time)
    (present : (routing.next operation).find? window ≠ none) :
    (routing.next operation).downTime? window = some time := by
  obtain ⟨first, inRouting, here, hasTime⟩ := (downTime?_eq_some_iff nodup).mp known
  obtain ⟨found, isFound⟩ := Option.ne_none_iff_exists'.mp present
  obtain ⟨foundIn, same⟩ := window_of_find? isFound
  rw [downTime?, isFound, Option.bind_some]
  rcases mem_next foundIn with ⟨old, inOld, alters⟩ | adds
  · have unique : old = first := List.inj_on_of_nodup_map nodup inOld inRouting
      (by rw [here, ← same, alters.bounds.window])
    exact alters.keeps_downTime (unique ▸ hasTime)
  · exact absurd (here.trans same.symm)
      (find?_eq_none_iff.mp adds.find?_eq_none first inRouting)

/-- Along a history in which its target is never out, a window keeps the time it has. -/
theorem downTime?_after (nodup : (routing.targets.map Target.window).Nodup) {time : Number}
    (known : routing.downTime? window = some time) {later : List Operation}
    (alive : ∀ step ≤ later.length, (routing.after (later.take step)).find? window ≠ none) :
    (routing.after later).downTime? window = some time := by
  induction later generalizing routing with
  | nil => exact known
  | cons operation later ih =>
      have present : (routing.next operation).find? window ≠ none := by
        simpa using alive 1 (by simp)
      apply ih (nodup_windows_next nodup) (downTime?_next nodup known present)
      intro step bound
      simpa using alive (step + 1) (by simpa using bound)

/-- Each field of a target has its writers, in every routing that a history leaves. Of the targets
that one of the routing's own operations leaves, every one has received what the operation is
permitted to write: a pointer lands in it only when its own handle is touched with that pointer and
hovers over it only when its own handle is hovered; it loses no claim and makes one only when its
own token pilfers a pointer that it receives; dispatch to it changes only when its own handle is
touched or when the gesture is committed; and its time, once known, stays, and becomes known only
when its own handle is touched, with the time of that touch, whether it was there before or is made
then. An operation that is addressed to a handle leaves the targets of other handles as they are.
And from any moment on, for as long as a window has a target, its time stays what it is, whatever
the history, changes to single targets included. -/
theorem fields_have_their_writers (history : List Operation) :
    let routing := ({} : Routing).after history
    (∀ operation : Operation, operation.isOwn = true →
      (∀ old ∈ routing.targets, ∀ new ∈ (routing.next operation).targets,
        new.window = old.window → operation.Permits old new) ∧
      ∀ new ∈ (routing.next operation).targets, ∀ time, new.downTime = some time →
        (∃ old ∈ routing.targets, old.window = new.window ∧ old.downTime = some time) ∨
          ∃ flags pointers, operation = .touch new.window flags pointers (some time)) ∧
    (∀ operation window, operation.handle? = some window →
      ((routing.next operation).targets.filter fun target => target.window ≠ window) =
        routing.targets.filter fun target => target.window ≠ window) ∧
    ∀ later window time, routing.downTime? window = some time →
      (∀ step ≤ later.length, (routing.after (later.take step)).find? window ≠ none) →
        (routing.after later).downTime? window = some time := by
  intro routing
  have nodup : (routing.targets.map Target.window).Nodup := nodup_windows_after List.nodup_nil
  refine ⟨fun operation own => ⟨?_, ?_⟩, ?_, ?_⟩
  · intro old inOld new inNew same
    -- No window has two targets, so the one that the new target stems from is the old one.
    rcases mem_next inNew with ⟨origin, inOrigin, alters⟩ | adds
    · have unique : origin = old := List.inj_on_of_nodup_map nodup inOrigin inOld
        (by rw [← alters.bounds.window, same])
      exact unique ▸ alters.permits own
    · exact absurd same.symm (find?_eq_none_iff.mp adds.find?_eq_none old inOld)
  · intro new inNew time known
    rcases mem_next inNew with ⟨origin, inOrigin, alters⟩ | adds
    · have permits := alters.permits own
      rcases permits.downTime with kept | ⟨_, flags, pointers, first, isTouch, made⟩
      · exact .inl ⟨origin, inOrigin, permits.window.symm, kept ▸ known⟩
      · cases made.symm.trans known
        exact .inr ⟨flags, pointers, permits.window.symm ▸ isTouch⟩
    · exact .inr (adds.eq_touch_of_downTime known)
  · intro operation window addressed
    exact targets_of_other_handles addressed
  · intro later window time known alive
    exact downTime?_after nodup known alive

/-- The spy is touched at a time that is NaN; its namesake is touched and has no time yet. -/
def sharedToken : List Operation :=
  [.touch .spy .none (.singleton 1) (some .nan), .touch namesake .none (.singleton 2) none]

/-- A touch of the namesake leaves the spy as it is, and the spy keeps its first time, NaN as it is,
through a second touch, a pilfer and a revision. -/
theorem spy_keeps_what_it_has :
    let routing := ({} : Routing).after sharedToken
    let spy : Target := { window := .spy, touching := .singleton 1, downTime := some .nan }
    (Operation.touch namesake .none (.singleton 3) (some 7)).Permits spy spy ∧
    ((routing.next (.touch namesake .none (.singleton 3) (some 7))).targets.filter
      fun target => target.window ≠ namesake) = [spy] ∧
    (routing.after [.touch .spy .none (.singleton 4) (some 7), .pilfer Window.spy.token,
      .revise .spy (.startAt (some 0))]).downTime? .spy = some .nan := by
  obtain ⟨writers, others, times⟩ := fields_have_their_writers sharedToken
  refine ⟨?_, ?_, ?_⟩
  · apply (writers (.touch namesake .none (.singleton 3) (some 7)) rfl).1
    · decide
    · decide
    · rfl
  · rw [others _ namesake rfl]
    decide
  · exact times _ .spy .nan (by decide) (by decide)

end Routing

end PointerRouting
