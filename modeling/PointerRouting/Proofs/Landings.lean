/-
Module: PointerRouting.Proofs.Landings
Purpose: Landings in one window, one after another. Each puts one target in its place, so together
  they put one, whose pointers add up, whose time is the first there was, and whose bits add up
  except for the as-is mode, which every slippery exit takes away.
Main exports: Landing, Routing.withTarget, Routing.find?_withTarget, Routing.landed,
  Routing.next_landing, Routing.after_landings, Routing.landings_add_up
-/
import PointerRouting.Proofs.Modes
import PointerRouting.Proofs.Writers

namespace PointerRouting

theorem Mask.merge_assoc (first second third : Mask) :
    (first.merge second).merge third = first.merge (second.merge third) := by
  simp [merge, BitVec.or_assoc]

namespace PointerSet

@[simp] theorem unions_nil : unions [] = ∅ := rfl

@[simp] theorem union_empty (set : PointerSet) : set ∪ ∅ = set := by
  apply ext_mem
  simp

@[simp] theorem empty_union (set : PointerSet) : ∅ ∪ set = set := by
  apply ext_mem
  simp

theorem union_assoc (first second third : PointerSet) :
    first ∪ second ∪ third = first ∪ (second ∪ third) := by
  apply ext_mem
  simp [or_assoc]

theorem unions_cons (set : PointerSet) (sets : List PointerSet) :
    unions (set :: sets) = set ∪ unions sets := by
  apply ext_mem
  simp

end PointerSet

theorem or_findSome? {α β : Type} (read : α → Option β) (head : α) (rest : List α) :
    (read head).or (rest.findSome? read) = (head :: rest).findSome? read := by
  rw [List.findSome?_cons]
  cases read head <;> rfl

/-- A suffix that is not empty is the whole list or a suffix of its rest. -/
theorem exists_suffix_cons {α : Type} {holds : α → List α → Prop} {head : α} {rest : List α} :
    (∃ item later, item :: later <:+ head :: rest ∧ holds item later) ↔
      holds head rest ∨ ∃ item later, item :: later <:+ rest ∧ holds item later := by
  constructor
  · rintro ⟨item, later, ends, held⟩
    rcases List.suffix_cons_iff.mp ends with whole | within
    · obtain ⟨rfl, rfl⟩ := List.cons.inj whole
      exact .inl held
    · exact .inr ⟨item, later, within, held⟩
  · rintro (held | ⟨item, later, ends, held⟩)
    · exact ⟨head, rest, List.suffix_refl _, held⟩
    · exact ⟨item, later, List.suffix_cons_iff.mpr (.inr ends), held⟩

/-- What lands in a window at one time. -/
structure Landing where
  flags : Mask
  pointers : PointerSet := ∅
  time : Option Number := none

namespace Landing

/-- The operation by which a window receives a landing. -/
def operation (window : Window) (landing : Landing) : Operation :=
  .touch window landing.flags landing.pointers landing.time

/-- Two landings in one. -/
def join (first second : Landing) : Landing :=
  { flags := first.flags.merge second.flags
    pointers := first.pointers ∪ second.pointers
    time := first.time.or second.time }

/-- Whether a landing is a slippery exit. -/
def exits (landing : Landing) : Bool := landing.flags.carries .asSlipperyExit

theorem exits_join (first second : Landing) :
    (first.join second).exits = (first.exits || second.exits) :=
  Mask.carries_merge _ _ _

end Landing

namespace Target

/-- Merge a landing into a target. -/
def land (target : Target) (landing : Landing) : Target :=
  target.merge landing.flags landing.pointers landing.time

/-- Merge landings into a target, one after another. -/
def landAll (target : Target) (landings : List Landing) : Target := landings.foldl land target

variable (target : Target) (landings : List Landing)

@[simp] theorem landAll_cons (landing : Landing) :
    target.landAll (landing :: landings) = (target.land landing).landAll landings := rfl

/-- Landings change the flags of a target, add up its pointers and give it the first time there is,
and leave everything else. -/
theorem landAll_eq :
    target.landAll landings =
      { target with
        flags := (target.landAll landings).flags
        touching := target.touching ∪ PointerSet.unions (landings.map (·.pointers))
        downTime := target.downTime.or (landings.findSome? (·.time)) } := by
  induction landings generalizing target with
  | nil => simp [landAll]
  | cons landing landings ih =>
      rw [landAll_cons, ih, List.map_cons, PointerSet.unions_cons, ← PointerSet.union_assoc,
        ← or_findSome?, ← Option.or_assoc]
      rfl

/-- Every bit but the one of the as-is mode adds up. -/
theorem getLsbD_flags_landAll {index : Nat} (other : index ≠ DispatchFlag.asIs.position) :
    (target.landAll landings).flags.word.getLsbD index =
      (target.flags.word.getLsbD index ||
        landings.any fun landing => landing.flags.word.getLsbD index) := by
  induction landings generalizing target with
  | nil => simp [landAll]
  | cons landing landings ih =>
      rw [landAll_cons, ih, land, getLsbD_flags_merge _ _ _ _ other, List.any_cons, Bool.or_assoc]

theorem carries_asIs_land (landing : Landing) :
    (target.land landing).flags.carries .asIs =
      ((target.flags.carries .asIs || landing.flags.carries .asIs) && !landing.exits) :=
  target.carries_asIs_merge _ _ _

/-- The as-is mode is there in the end if it was given, at first or by a landing, and no slippery
exit came from then on. -/
theorem carries_asIs_landAll :
    (target.landAll landings).flags.carries .asIs = true ↔
      (target.flags.carries .asIs ∧ ∀ landing ∈ landings, landing.exits = false) ∨
        ∃ landing later, landing :: later <:+ landings ∧ landing.flags.carries .asIs ∧
          ∀ other ∈ landing :: later, other.exits = false := by
  induction landings generalizing target with
  | nil => simp [landAll]
  | cons landing landings ih =>
      rw [landAll_cons, ih, carries_asIs_land, exists_suffix_cons, List.forall_mem_cons]
      cases target.flags.carries .asIs <;> cases landing.flags.carries .asIs <;>
        cases landing.exits <;> simp

variable {target}

theorem land_of_stays {landing : Landing} (stays : landing.exits = false) :
    target.land landing =
      { target with
        flags := target.flags.merge landing.flags
        touching := target.touching ∪ landing.pointers
        downTime := target.downTime.or landing.time } := by
  simp only [Landing.exits] at stays
  simp [land, merge, touch, startAt, stays]

/-- Where neither is a slippery exit, two landings are one. -/
theorem land_land {first second : Landing} (firstStays : first.exits = false)
    (secondStays : second.exits = false) :
    (target.land first).land second = target.land (first.join second) := by
  have stays : (first.join second).exits = false := by
    rw [Landing.exits_join, firstStays, secondStays, Bool.or_false]
  rw [land_of_stays secondStays, land_of_stays firstStays, land_of_stays stays]
  simp only [Landing.join, Mask.merge_assoc, PointerSet.union_assoc, Option.or_assoc]

end Target

/-- Put a target in the place of its window's target, or at the end if the window has none. -/
def place (target : Target) : List Target → List Target
  | [] => [target]
  | other :: rest =>
    if other.window = target.window then target :: rest else other :: place target rest

section

variable {target first second : Target} {targets : List Target} {window : Window}

theorem find?_place : (place target targets).find? (fun other => other.window = target.window) =
    some target := by
  induction targets with
  | nil => simp [place]
  | cons other rest ih =>
      by_cases here : other.window = target.window
      · simp [place, here]
      · simpa [place, here] using ih

theorem find?_place_of_ne (apart : window ≠ target.window) :
    (place target targets).find? (fun other => other.window = window) =
      targets.find? fun other => other.window = window := by
  induction targets with
  | nil => simp [place, Ne.symm apart]
  | cons other rest ih =>
      by_cases here : other.window = target.window
      · simp [place, here, Ne.symm apart]
      · simp only [place, here, if_false, List.find?_cons, ih]

theorem filter_place :
    (place target targets).filter (fun other => other.window ≠ target.window) =
      targets.filter fun other => other.window ≠ target.window := by
  induction targets with
  | nil => simp [place]
  | cons other rest ih =>
      by_cases here : other.window = target.window
      · simp [place, here]
      · simpa [place, here] using ih

theorem filter_place_own (nodup : (targets.map Target.window).Nodup) :
    (place target targets).filter (fun other => other.window = target.window) = [target] := by
  induction targets with
  | nil => simp [place]
  | cons other rest ih =>
      obtain ⟨fresh, nodupRest⟩ := List.nodup_cons.mp nodup
      by_cases here : other.window = target.window
      · have none : rest.filter (fun other => other.window = target.window) = [] := by
          rw [List.filter_eq_nil_iff]
          intro another member same
          apply fresh
          rw [here, ← of_decide_eq_true same]
          exact List.mem_map_of_mem member
        simp [place, here, none]
      · simpa [place, here] using ih nodupRest

/-- Of two targets that are put in the same place the second one stays. -/
theorem place_place (same : first.window = second.window) :
    place second (place first targets) = place second targets := by
  induction targets with
  | nil => simp [place, same]
  | cons other rest ih =>
      by_cases here : other.window = second.window
      · simp [place, same, here]
      · simpa [place, same, here] using ih

/-- A window that has no target gets one at the end. -/
theorem place_of_absent (absent : ∀ other ∈ targets, other.window ≠ target.window) :
    place target targets = targets ++ [target] := by
  induction targets with
  | nil => rfl
  | cons other rest ih =>
      have later := ih fun another member => absent another (List.mem_cons_of_mem _ member)
      simp [place, absent other List.mem_cons_self, later]

/-- Changing the first target of a window is to put the changed one in its place. -/
theorem updateFirst_eq_place {change : Target → Target} (same : (change target).window = window)
    (isFound : targets.find? (fun other => other.window = window) = some target) :
    updateFirst window change targets = place (change target) targets := by
  induction targets with
  | nil => cases isFound
  | cons other rest ih =>
      by_cases here : other.window = window
      · obtain rfl : other = target := by simpa [here] using isFound
        rw [updateFirst, if_pos here, place, if_pos (here.trans same.symm)]
      · have later := ih (by simpa [here] using isFound)
        simp [updateFirst, place, same, here, later]

end

namespace Routing

/-- Put a target into a routing. -/
def withTarget (routing : Routing) (target : Target) : Routing :=
  { routing with targets := place target routing.targets }

variable (routing : Routing) (window : Window)

theorem find?_withTarget (target : Target) :
    (routing.withTarget target).find? target.window = some target :=
  find?_place

theorem find?_withTarget_of_ne {target : Target} (apart : window ≠ target.window) :
    (routing.withTarget target).find? window = routing.find? window :=
  find?_place_of_ne apart

theorem withTarget_withTarget {routing : Routing} {first second : Target}
    (same : first.window = second.window) :
    (routing.withTarget first).withTarget second = routing.withTarget second := by
  simp only [withTarget, place_place same]

/-- What becomes of a window's target when something lands there. A window that has none gets one
with exactly these values. -/
def landed (landing : Landing) : Target :=
  match routing.find? window with
  | some target => target.land landing
  | none => { window, flags := landing.flags, touching := landing.pointers, downTime := landing.time }

section

variable {routing window} {target : Target}

theorem landed_of_found (isFound : routing.find? window = some target) (landing : Landing) :
    routing.landed window landing = target.land landing := by
  simp only [landed, isFound]

theorem landed_of_absent (absent : routing.find? window = none) (landing : Landing) :
    routing.landed window landing =
      { window, flags := landing.flags, touching := landing.pointers, downTime := landing.time } := by
  simp only [landed, absent]

end

theorem window_landed (landing : Landing) : (routing.landed window landing).window = window := by
  cases isFound : routing.find? window with
  | some target =>
      rw [landed_of_found isFound]
      exact (window_of_find? isFound).2
  | none => rw [landed_of_absent isFound]

/-- A landing puts one target in its place. -/
theorem next_landing (landing : Landing) :
    routing.next (landing.operation window) =
      routing.withTarget (routing.landed window landing) := by
  have step : routing.next (landing.operation window) =
      (routing.touch window landing.flags landing.pointers landing.time).routing := rfl
  cases isFound : routing.find? window with
  | some target =>
      have same : (target.land landing).window = window := (window_of_find? isFound).2
      have changed : updateFirst window (·.land landing) routing.targets =
          place (target.land landing) routing.targets :=
        updateFirst_eq_place same isFound
      rw [step, landed_of_found isFound, withTarget, ← changed]
      simp only [touch, isFound]
      rfl
  | none =>
      rw [step, landed_of_absent isFound, withTarget, place_of_absent]
      · simp only [touch, isFound]
      · exact find?_eq_none_iff.mp isFound

theorem find?_next_landing (landing : Landing) :
    (routing.next (landing.operation window)).find? window =
      some (routing.landed window landing) := by
  have found := routing.find?_withTarget (routing.landed window landing)
  rw [window_landed] at found
  rw [next_landing, found]

/-- A landing leaves the targets of other windows. -/
theorem find?_next_landing_of_ne {routing : Routing} {window other : Window}
    (apart : other ≠ window) (landing : Landing) :
    (routing.next (landing.operation window)).find? other = routing.find? other := by
  rw [next_landing]
  apply find?_withTarget_of_ne
  rwa [window_landed]

/-- Landings one after another put one target in its place. -/
theorem after_landings (first : Landing) (rest : List Landing) :
    routing.after ((first :: rest).map (·.operation window)) =
      routing.withTarget ((routing.landed window first).landAll rest) := by
  -- Once the window has a target, every landing finds it and puts its successor in its place.
  have more : ∀ (landings : List Landing) (target : Target), target.window = window →
      (routing.withTarget target).after (landings.map (·.operation window)) =
        routing.withTarget (target.landAll landings) := by
    intro landings
    induction landings with
    | nil => intro target _; rfl
    | cons landing landings ih =>
        rintro target rfl
        have same : target.window = (target.land landing).window := rfl
        rw [List.map_cons, after_cons, next_landing,
          landed_of_found (routing.find?_withTarget target), withTarget_withTarget same]
        exact ih (target.land landing) rfl
  rw [List.map_cons, after_cons, next_landing]
  exact more rest _ (routing.window_landed window first)

/-- A window's target, or one without anything in it if the window has none. -/
def share : Target := (routing.find? window).getD { window }

variable {routing window} {landing : Landing}

theorem window_share (routing : Routing) (window : Window) :
    (routing.share window).window = window := by
  cases isFound : routing.find? window with
  | some target =>
      rw [share, isFound]
      exact (window_of_find? isFound).2
  | none => rw [share, isFound, Option.getD_none]

theorem share_of_found {target : Target} (isFound : routing.find? window = some target) :
    routing.share window = target := by
  rw [share, isFound, Option.getD_some]

theorem share_of_absent (absent : routing.find? window = none) :
    routing.share window = { window } := by
  rw [share, absent, Option.getD_none]

theorem exists_landed_eq (routing : Routing) (window : Window) (landing : Landing) :
    ∃ flags, routing.landed window landing =
      { routing.share window with
        flags
        touching := (routing.share window).touching ∪ landing.pointers
        downTime := (routing.share window).downTime.or landing.time } := by
  cases isFound : routing.find? window with
  | some target =>
      rw [landed_of_found isFound, share_of_found isFound]
      exact ⟨_, rfl⟩
  | none =>
      rw [landed_of_absent isFound, share_of_absent isFound]
      exact ⟨landing.flags, by simp⟩

theorem getLsbD_flags_landed {index : Nat} (other : index ≠ DispatchFlag.asIs.position) :
    (routing.landed window landing).flags.word.getLsbD index =
      ((routing.share window).flags.word.getLsbD index || landing.flags.word.getLsbD index) := by
  cases isFound : routing.find? window with
  | some target =>
      rw [landed_of_found isFound, share_of_found isFound]
      exact target.getLsbD_flags_merge _ _ _ other
  | none =>
      have nothing : Mask.none.word = 0 := by decide
      simp [landed_of_absent isFound, share_of_absent isFound, nothing]

/-- A landing does to each mode but the as-is mode what it does to any bit. -/
theorem carries_landed {landing : Landing} {flag : DispatchFlag} (other : flag ≠ .asIs) :
    (routing.landed window landing).flags.carries flag =
      ((routing.share window).flags.carries flag || landing.flags.carries flag) := by
  have apart : flag.position ≠ DispatchFlag.asIs.position := fun same =>
    other (DispatchFlag.position_injective same)
  simp only [Mask.carries_eq_getLsbD, getLsbD_flags_landed apart]

theorem mem_touching_landed {landing : Landing} {pointer : PointerId}
    (lands : pointer ∈ landing.pointers) : pointer ∈ (routing.landed window landing).touching := by
  obtain ⟨flags, landed⟩ := exists_landed_eq routing window landing
  rw [landed]
  exact PointerSet.mem_union.mpr (.inr lands)

/-- A window that has no target gets the as-is mode even from a slippery exit. -/
theorem carries_asIs_landed :
    (routing.landed window landing).flags.carries .asIs = true ↔
      ((routing.share window).flags.carries .asIs ∨ landing.flags.carries .asIs) ∧
          landing.exits = false ∨
        routing.find? window = none ∧ landing.flags.carries .asIs := by
  cases isFound : routing.find? window with
  | some target =>
      rw [landed_of_found isFound, share_of_found isFound, Target.carries_asIs_land]
      simp
  | none =>
      rw [landed_of_absent isFound, share_of_absent isFound, Mask.carries_none]
      tauto

/-- Landings that are no slippery exits come to one landing. -/
theorem landAll_landed {first : Landing} {rest : List Landing}
    (stay : ∀ landing ∈ first :: rest, landing.exits = false) :
    (routing.landed window first).landAll rest =
      routing.landed window (rest.foldl Landing.join first) := by
  induction rest generalizing first with
  | nil => rfl
  | cons second rest ih =>
      have firstStays := stay first List.mem_cons_self
      have secondStays := stay second (List.mem_cons_of_mem _ List.mem_cons_self)
      -- A landing that makes the target leaves its own flags, so joining is by cases here.
      have joined : (routing.landed window first).land second =
          routing.landed window (first.join second) := by
        cases isFound : routing.find? window with
        | some target =>
            rw [landed_of_found isFound, landed_of_found isFound,
              Target.land_land firstStays secondStays]
        | none =>
            rw [landed_of_absent isFound, landed_of_absent isFound,
              Target.land_of_stays secondStays]
            rfl
      rw [Target.landAll_cons, joined, List.foldl_cons]
      apply ih
      rw [List.forall_mem_cons, Landing.exits_join, firstStays, secondStays]
      exact ⟨rfl, fun landing member =>
        stay landing (List.mem_cons_of_mem _ (List.mem_cons_of_mem _ member))⟩

/-- The as-is mode after landings. A landing that makes the target may be a slippery exit itself. -/
theorem carries_asIs_landings {first : Landing} {rest : List Landing} :
    ((routing.landed window first).landAll rest).flags.carries .asIs = true ↔
      ((routing.share window).flags.carries .asIs ∧
        ∀ landing ∈ first :: rest, landing.exits = false) ∨
      (∃ landing later, landing :: later <:+ first :: rest ∧ landing.flags.carries .asIs ∧
        ∀ other ∈ landing :: later, other.exits = false) ∨
      (routing.find? window = none ∧ first.flags.carries .asIs ∧
        ∀ landing ∈ rest, landing.exits = false) := by
  rw [Target.carries_asIs_landAll, carries_asIs_landed, exists_suffix_cons, List.forall_mem_cons]
  generalize (∃ landing later, landing :: later <:+ rest ∧ _) = later
  generalize (∀ landing ∈ rest, _) = stay
  tauto

theorem landAll_landed_eq {first : Landing} {rest : List Landing} :
    (routing.landed window first).landAll rest =
      { routing.share window with
        flags := ((routing.landed window first).landAll rest).flags
        touching := (routing.share window).touching ∪
          PointerSet.unions ((first :: rest).map (·.pointers))
        downTime := (routing.share window).downTime.or
          ((first :: rest).findSome? (·.time)) } := by
  obtain ⟨flags, landed⟩ := exists_landed_eq routing window first
  rw [List.map_cons, PointerSet.unions_cons, ← PointerSet.union_assoc, ← or_findSome?,
    ← Option.or_assoc]
  refine (Target.landAll_eq _ _).trans ?_
  rw [landed]

/-- Landings in one window add up, in every routing that there can be. Together they put one target
in its place, or at the end if the window had none, and touch no other target. What the window
receives is what it received and all that landed; its time is the first there was; every bit of its
flags but the one of the as-is mode is there if it was there at first or in a landing. The as-is mode
is there if it was there at first or came with a landing, and neither that landing nor any later one
was a slippery exit; only the landing that makes the target may be one itself. Without slippery exits
the landings come to one. -/
theorem landings_add_up (history : List Operation) (window : Window) (first : Landing)
    (rest : List Landing) :
    let routing := ({} : Routing).after history
    let before := routing.share window
    let landings := first :: rest
    let moved := routing.after (landings.map (·.operation window))
    ∃ flags : Mask,
      let target :=
        { before with
          flags
          touching := before.touching ∪ PointerSet.unions (landings.map (·.pointers))
          downTime := before.downTime.or (landings.findSome? (·.time)) }
      moved = routing.withTarget target ∧
      moved.find? window = some target ∧
      (moved.targets.filter fun other => other.window = window) = [target] ∧
      (moved.targets.filter fun other => other.window ≠ window) =
        routing.targets.filter (fun other => other.window ≠ window) ∧
      (∀ index ≠ DispatchFlag.asIs.position,
        flags.word.getLsbD index =
          (before.flags.word.getLsbD index ||
            landings.any fun landing => landing.flags.word.getLsbD index)) ∧
      (flags.carries .asIs = true ↔
        (before.flags.carries .asIs ∧ ∀ landing ∈ landings, landing.exits = false) ∨
        (∃ landing later, landing :: later <:+ landings ∧ landing.flags.carries .asIs ∧
          ∀ other ∈ landing :: later, other.exits = false) ∨
        (routing.find? window = none ∧ first.flags.carries .asIs ∧
          ∀ landing ∈ rest, landing.exits = false)) ∧
      ((∀ landing ∈ landings, landing.exits = false) →
        moved = routing.next ((rest.foldl Landing.join first).operation window)) := by
  intro routing before landings moved
  have placed : moved = routing.withTarget ((routing.landed window first).landAll rest) :=
    routing.after_landings window first rest
  refine ⟨((routing.landed window first).landAll rest).flags, ?_⟩
  intro target
  have whole : (routing.landed window first).landAll rest = target := landAll_landed_eq
  have same : target.window = window := routing.window_share window
  rw [whole] at placed
  refine ⟨placed, ?_, ?_, ?_, ?_, carries_asIs_landings, ?_⟩
  · rw [placed, ← same, find?_withTarget]
  · have nodup : (routing.targets.map Target.window).Nodup := nodup_windows_after (by simp)
    rw [placed, ← same]
    exact filter_place_own nodup
  · rw [placed, ← same]
    exact filter_place
  · intro index other
    rw [Target.getLsbD_flags_landAll _ _ other, getLsbD_flags_landed other, List.any_cons,
      Bool.or_assoc]
  · intro stay
    rw [placed, ← whole, landAll_landed stay, next_landing]

/-- The landing that makes a target gives it the as-is mode although it is a slippery exit; the next
exit takes the mode away, and gives a pointer and no time. -/
example :
    let slipping : Landing :=
      { flags := DispatchFlag.mask [.asIs, .asSlipperyExit], pointers := .singleton 1, time := none }
    let landing : Landing :=
      { flags := DispatchFlag.mask [.foreground], pointers := .singleton 2, time := some 5 }
    let after (landings : List Landing) :=
      (({} : Routing).after (landings.map (·.operation .spy))).targets.map fun target =>
        (target.flags.carries .asIs, target.touching.toList, target.downTime)
    after [slipping, landing] = [(true, [1, 2], some 5)] ∧
      after [slipping, landing, slipping] = [(false, [1, 2], some 5)] := by
  decide

end Routing

end PointerRouting
