/-
Module: PointerRouting.Proofs.GestureEnd
Purpose: Gestures leave nothing behind. Whatever is in a routing is held there by a tie: a pointer
  that touches it, a pointer that hovers over it, or, for a window that only watches, the fact
  that nothing has been pruned since. An action makes the ties it takes hold of and no others, so
  a script that lets go of what it takes hold of leaves no tie that was not there before it.
Main exports: Gesture.Action.isValid, Gesture.letsGo, Tie, Routing.IsTied,
  Gesture.tied_play, Gesture.tied_playAll, Gesture.empty_after_letting_go
-/
import PointerRouting.Proofs.Atomicity
import PointerRouting.Proofs.Removals

namespace PointerRouting

namespace Gesture

/-- Whether the numbers of an action can be the pointers, and the device, that they stand for. -/
def Action.isValid : Action → Bool
  | down _ pointer _ | slip _ _ pointer | hoverExit _ pointer | up pointer =>
    (checkPointer pointer).isOk
  | hoverEnter _ device pointer => (checkDevice device).isOk && (checkPointer pointer).isOk
  | outside _ | pilfer _ | commit => true

/-- Whether an action takes a pointer away from wherever it is. -/
def Action.isRelease : Action → Bool
  | up _ | hoverExit .. => true
  | _ => false

/-- Whether an action takes hold of nothing but what later actions let go of: a pointer that lands
or slips is lifted, a hovering pointer leaves, and after a window has come to watch some pointer
is lifted or leaves. -/
def Action.isLetGoBy (later : List Action) : Action → Bool
  | down _ pointer _ | slip _ _ pointer => .up pointer ∈ later
  | hoverEnter _ device pointer => .hoverExit device pointer ∈ later
  | outside _ => later.any isRelease
  | hoverExit .. | pilfer _ | commit | up _ => true

/-- Whether a script lets go of all that it takes hold of. -/
def letsGo : List Action → Bool
  | [] => true
  | action :: later => action.isLetGoBy later && letsGo later

end Gesture

/-- What a target is held in a routing by. -/
inductive Tie where
  /-- A pointer touches its window. -/
  | touch (pointer : PointerId)
  /-- A pointer of a device hovers over its window. -/
  | hover (device : Number) (pointer : PointerId)
  /-- It is dead and has not been pruned. -/
  | watch

namespace Tie

/-- Whether a tie holds a target. -/
def Holds (target : Target) : Tie → Prop
  | touch pointer => pointer ∈ target.touching
  | hover device pointer => pointer ∈ target.hovering.pointers device
  | watch => target.isDead = true

/-- Nothing is in a routing without being tied to it. -/
theorem exists_holds (target : Target) : ∃ tie : Tie, tie.Holds target := by
  by_contra untied
  rw [not_exists] at untied
  apply untied watch
  simp only [Holds, Target.isDead_iff, PointerSet.eq_empty_iff]
  constructor
  · intro pointer touched
    exact untied (.touch pointer) touched
  · intro device pointer hovers
    exact untied (.hover device pointer) hovers

/-- A target that a pointer hovers over is not dead, and held by nothing else that is new. -/
theorem of_hover {tie : Tie} {target : Target} {device : Number} {id : PointerId}
    (holds : tie.Holds (target.hover device id)) :
    tie.Holds target ∧ tie ≠ watch ∨ tie = hover device id := by
  have pointers : ∀ other, (target.hover device id).hovering.pointers other =
      if other = device then (target.hovering.pointers device).insert id
      else target.hovering.pointers other :=
    fun other => HoverTable.pointers_insert target.hovering device other id
  cases tie with
  | touch pointer => exact .inl ⟨holds, nofun⟩
  | hover other pointer =>
      rw [Holds, pointers] at holds
      split at holds
      next same =>
        subst same
        rcases PointerSet.mem_insert.mp holds with before | rfl
        · exact .inl ⟨before, nofun⟩
        · exact .inr rfl
      next => exact .inl ⟨holds, nofun⟩
  | watch =>
      have none := (Target.isDead_iff.mp holds).2 device
      rw [pointers, if_pos rfl, PointerSet.eq_empty_iff] at none
      exact absurd (PointerSet.mem_insert.mpr (.inr rfl)) (none id)

end Tie

namespace Routing

/-- Whether a tie holds some target in a routing. -/
def IsTied (routing : Routing) (tie : Tie) : Prop := ∃ target ∈ routing.targets, tie.Holds target

variable {routing : Routing} {tie : Tie}

/-- Where no tie holds anything, nothing is. -/
theorem isEmpty_of_untied (untied : ∀ tie, ¬routing.IsTied tie) : routing.isEmpty = true := by
  rw [isEmpty, List.isEmpty_iff, List.eq_nil_iff_forall_not_mem]
  intro target inTargets
  obtain ⟨tie, holds⟩ := Tie.exists_holds target
  exact untied tie ⟨target, inTargets, holds⟩

/-- Touching makes ties for the pointers that land, and for a window that gets none. -/
theorem tied_touch {window : Window} {flags : Mask} {pointers : PointerSet}
    {time : Option Number}
    (tied : (routing.next (.touch window flags pointers time)).IsTied tie) :
    routing.IsTied tie ∨ (∃ pointer ∈ pointers, tie = .touch pointer) ∨
      pointers = ∅ ∧ tie = .watch := by
  obtain ⟨target, inTargets, holds⟩ := tied
  rcases mem_next inTargets with ⟨old, inOld, rfl | ⟨_, rfl⟩⟩ | ⟨_, rfl⟩
  · exact .inl ⟨_, inOld, holds⟩
  · cases tie with
    | touch pointer =>
        rcases PointerSet.mem_union.mp holds with before | lands
        · exact .inl ⟨old, inOld, before⟩
        · exact .inr (.inl ⟨pointer, lands, rfl⟩)
    | hover device pointer => exact .inl ⟨old, inOld, holds⟩
    | watch =>
        left
        refine ⟨old, inOld, Target.isDead_of_fewer holds ?_ fun _ _ hovers => hovers⟩
        intro pointer touched
        exact PointerSet.mem_union.mpr (.inl touched)
  · cases tie with
    | touch pointer => exact .inr (.inl ⟨pointer, holds, rfl⟩)
    | hover device pointer => exact absurd holds (PointerSet.not_mem_empty pointer)
    | watch => exact .inr (.inr ⟨(Target.isDead_iff.mp holds).1, rfl⟩)

/-- A landing pointer makes a tie of its own. -/
theorem tied_land {window : Window} {flags : Mask} {pointer : PointerId} {time : Option Number}
    (tied : (routing.next (.touch window flags (.singleton pointer) time)).IsTied tie) :
    routing.IsTied tie ∨ tie = .touch pointer := by
  rcases tied_touch tied with before | ⟨other, landed, rfl⟩ | ⟨none, _⟩
  · exact .inl before
  · exact .inr (congrArg Tie.touch (PointerSet.mem_singleton.mp landed))
  · exact absurd (PointerSet.mem_singleton.mpr rfl) (PointerSet.eq_empty_iff.mp none pointer)

/-- Hovering makes a tie for the pointer that comes. -/
theorem tied_hover {window : Window} {device pointer : Number}
    (tied : (routing.next (.hover window device pointer)).IsTied tie) :
    routing.IsTied tie ∨ ∃ id, checkPointer pointer = .ok id ∧ tie = .hover device id := by
  obtain ⟨target, inTargets, holds⟩ := tied
  rcases mem_next inTargets with ⟨old, inOld, rfl | ⟨_, id, valid, rfl⟩⟩ | ⟨_, id, valid, rfl⟩
  · exact .inl ⟨_, inOld, holds⟩
  · rcases Tie.of_hover holds with ⟨before, _⟩ | comes
    · exact .inl ⟨old, inOld, before⟩
    · exact .inr ⟨id, valid, comes⟩
  · rcases Tie.of_hover holds with ⟨before, notWatch⟩ | comes
    · cases tie with
      | touch pointer => exact absurd before (PointerSet.not_mem_empty pointer)
      | hover device pointer => exact absurd before (PointerSet.not_mem_empty pointer)
      | watch => exact absurd rfl notWatch
    · exact .inr ⟨id, valid, comes⟩

/-- Delivering makes no tie. -/
theorem tied_commit (tied : (routing.next .commit).IsTied tie) : routing.IsTied tie := by
  obtain ⟨target, inTargets, holds⟩ := tied
  rcases mem_next inTargets with ⟨old, inOld, rfl⟩ | adds
  · exact ⟨old, inOld, by cases tie <;> exact holds⟩
  · cases adds

/-- Claiming makes no tie. -/
theorem tied_pilfer {token : Token} (tied : (routing.next (.pilfer token)).IsTied tie) :
    routing.IsTied tie := by
  obtain ⟨target, inTargets, holds⟩ := tied
  by_cases idle : (routing.pilfer token).claimed = ∅
  · have same : routing.next (.pilfer token) = routing := routing_pilfer_of_idle idle
    exact ⟨target, same ▸ inTargets, holds⟩
  · have left : target ∈ (routing.pilfer token).routing.targets := inTargets
    rw [routing_pilfer idle, List.mem_filter] at left
    rcases mem_next inTargets with ⟨old, inOld, alters⟩ | adds
    · cases tie with
      | touch pointer =>
          rcases alters.bounds.touching pointer holds with before | lands
          · exact ⟨old, inOld, before⟩
          · cases lands
      | hover device pointer =>
          refine ⟨old, inOld, ?_⟩
          rw [Operation.Alters] at alters
          subst alters
          split at holds <;> exact holds
      | watch =>
          have alive := left.2
          rw [Tie.Holds] at holds
          simp [holds] at alive
    · cases adds

/-- A removal takes the ties that it does not keep, and with them all that only watch. -/
theorem tied_removal (removal : Removal) (tied : (removal.play routing).routing.IsTied tie) :
    routing.IsTied tie ∧
      match tie with
      | .touch pointer => ∃ window, removal.KeepsTouch window pointer
      | .hover device pointer => removal.KeepsHover device pointer
      | .watch => False := by
  obtain ⟨target, inTargets, holds⟩ := tied
  rw [removal.routing_play, thin, List.mem_filter] at inTargets
  obtain ⟨old, inOld, rfl⟩ := List.mem_map.mp inTargets.1
  have thins := removal.thins_thin old
  cases tie with
  | touch pointer =>
      have kept := thins.mem.mp holds
      exact ⟨⟨old, inOld, kept.1⟩, old.window, kept.2⟩
  | hover device pointer =>
      have kept := thins.hovering.mem.mp holds
      exact ⟨⟨old, inOld, kept.1⟩, kept.2⟩
  | watch =>
      have alive := inTargets.2
      rw [Tie.Holds] at holds
      simp [holds] at alive

end Routing

namespace Operation

/-- Whether an operation is never refused. -/
def Succeeds (operation : Operation) : Prop :=
  ∀ routing : Routing, (operation.apply routing).violation = none

/-- Operations that are never refused are all carried out. -/
theorem runAll_of_succeeds {operations : List Operation}
    (succeed : ∀ operation ∈ operations, operation.Succeeds) (routing : Routing) :
    (runAll operations routing).violation = none ∧
      (runAll operations routing).routing = routing.after operations := by
  induction operations generalizing routing with
  | nil => exact ⟨rfl, rfl⟩
  | cons operation rest ih =>
      have done := succeed operation List.mem_cons_self routing
      rw [runAll, Outcome.andThen_of_done done]
      exact ih (fun other listed => succeed other (List.mem_cons_of_mem _ listed)) _

theorem succeeds_hover {device pointer : Number} {number : Int} {id : PointerId}
    (validDevice : checkDevice device = .ok number) (valid : checkPointer pointer = .ok id)
    (window : Window) : (hover window device pointer).Succeeds := by
  intro routing
  simp only [apply, Routing.hover, validDevice, valid]
  split <;> rfl

theorem succeeds_unhover {pointer : Number} {id : PointerId}
    (valid : checkPointer pointer = .ok id) (device : Number) :
    (unhover device pointer).Succeeds := by
  intro routing
  rw [apply, Routing.unhover_of_valid valid]
  rfl

theorem succeeds_lift {pointer : Number} {id : PointerId} (valid : checkPointer pointer = .ok id) :
    (lift pointer).Succeeds := by
  intro routing
  rw [apply, Routing.lift_of_valid valid]

end Operation

theorem exists_of_isOk {ε α : Type} {result : Except ε α} (isOk : result.isOk = true) :
    ∃ value, result = .ok value := by
  cases result with
  | ok value => exact ⟨value, rfl⟩
  | error => cases isOk

namespace Gesture

namespace Action

/-- The ties that an action makes, at most. -/
def Makes : Action → Tie → Prop
  | down _ pointer _, .touch id | slip _ _ pointer, .touch id => checkPointer pointer = .ok id
  | hoverEnter _ device pointer, .hover other id => other = device ∧ checkPointer pointer = .ok id
  | outside _, .watch => True
  | _, _ => False

/-- The ties that no target is left with after an action. -/
def Cuts : Action → Tie → Prop
  | up pointer, .touch id => checkPointer pointer = .ok id
  | hoverExit device pointer, .hover other id => other = device ∧ checkPointer pointer = .ok id
  | action, .watch => action.isRelease = true
  | _, _ => False

/-- What lets go of what an action takes hold of cuts the ties that it makes. -/
theorem exists_cuts {action : Action} {later : List Action} {tie : Tie}
    (letGo : action.isLetGoBy later = true) (makes : action.Makes tie) :
    ∃ other ∈ later, other.Cuts tie := by
  cases action with
  | down window pointer flags =>
      cases tie with
      | touch id => exact ⟨.up pointer, by simpa [isLetGoBy] using letGo, makes⟩
      | hover | watch => cases makes
  | slip source destination pointer =>
      cases tie with
      | touch id => exact ⟨.up pointer, by simpa [isLetGoBy] using letGo, makes⟩
      | hover | watch => cases makes
  | hoverEnter window device pointer =>
      cases tie with
      | hover other id => exact ⟨.hoverExit device pointer, by simpa [isLetGoBy] using letGo, makes⟩
      | touch | watch => cases makes
  | outside window =>
      cases tie with
      | watch =>
          obtain ⟨other, listed, releases⟩ := List.any_eq_true.mp letGo
          refine ⟨other, listed, ?_⟩
          cases other <;> exact releases
      | touch | hover => cases makes
  | hoverExit | pilfer | commit | up => cases tie <;> cases makes

theorem not_cuts {action : Action} (holdsOn : action.isRelease = false) (tie : Tie) :
    ¬action.Cuts tie := by
  cases action with
  | hoverExit | up => cases holdsOn
  | down | outside | slip | hoverEnter | pilfer | commit =>
      cases tie with
      | touch | hover => exact not_false
      | watch => exact Bool.false_ne_true

/-- A valid action stands for operations that are never refused. -/
theorem exists_operations {action : Action} (valid : action.isValid = true) (time : Number) :
    ∃ operations, action.operations time = .ok operations ∧
      ∀ operation ∈ operations, operation.Succeeds := by
  have touches (window : Window) (flags : Mask) (pointers : PointerSet) (time : Option Number) :
      (Operation.touch window flags pointers time).Succeeds :=
    fun routing => routing.violation_touch _ _ _ _
  cases action with
  | down window pointer flags =>
      obtain ⟨id, checked⟩ := exists_of_isOk valid
      refine ⟨[.touch window flags (.singleton id) (some time)], by rw [operations, checked]; rfl, ?_⟩
      simpa using touches _ _ _ _
  | outside window =>
      refine ⟨_, rfl, ?_⟩
      simpa using touches _ _ _ _
  | slip source destination pointer =>
      obtain ⟨id, checked⟩ := exists_of_isOk valid
      refine ⟨[.touch source (DispatchFlag.mask [.asSlipperyExit]) (.singleton id) none,
        .touch destination (DispatchFlag.mask [.asSlipperyEnter, .foreground]) (.singleton id)
          (some time)], by rw [operations, checked]; rfl, ?_⟩
      simpa using ⟨touches _ _ _ _, touches _ _ _ _⟩
  | hoverEnter window device pointer =>
      rw [isValid, Bool.and_eq_true] at valid
      obtain ⟨number, checkedDevice⟩ := exists_of_isOk valid.1
      obtain ⟨id, checked⟩ := exists_of_isOk valid.2
      refine ⟨_, rfl, ?_⟩
      simpa using Operation.succeeds_hover checkedDevice checked window
  | hoverExit device pointer =>
      obtain ⟨id, checked⟩ := exists_of_isOk valid
      refine ⟨_, rfl, ?_⟩
      simpa using Operation.succeeds_unhover checked device
  | pilfer token =>
      have claims : (Operation.pilfer token).Succeeds := fun routing => routing.violation_pilfer token
      refine ⟨_, rfl, ?_⟩
      simpa using claims
  | commit =>
      have delivers : Operation.commit.Succeeds := fun _ => rfl
      refine ⟨_, rfl, ?_⟩
      simpa using delivers
  | up pointer =>
      obtain ⟨id, checked⟩ := exists_of_isOk valid
      have prunes : Operation.prune.Succeeds := fun _ => rfl
      refine ⟨_, rfl, ?_⟩
      simpa using ⟨Operation.succeeds_lift checked, prunes⟩

/-- The operations of a valid action leave no ties but those that were there and that it does not
cut, and those that it makes. -/
theorem tied_operations {action : Action} (valid : action.isValid = true) {time : Number}
    {operations : List Operation} (stands : action.operations time = .ok operations)
    {routing : Routing} {tie : Tie} (tied : (routing.after operations).IsTied tie) :
    routing.IsTied tie ∧ ¬action.Cuts tie ∨ action.Makes tie := by
  cases action with
  | down window pointer flags =>
      obtain ⟨id, checked, rfl⟩ := operations_down_eq_ok_iff.mp stands
      rcases Routing.tied_land tied with before | rfl
      · exact .inl ⟨before, not_cuts rfl tie⟩
      · exact .inr checked
  | outside window =>
      cases stands
      rcases Routing.tied_touch tied with before | ⟨other, landed, _⟩ | ⟨_, rfl⟩
      · exact .inl ⟨before, not_cuts rfl tie⟩
      · exact absurd landed (PointerSet.not_mem_empty other)
      · exact .inr trivial
  | slip source destination pointer =>
      obtain ⟨id, checked, rfl⟩ := operations_slip_eq_ok_iff.mp stands
      rcases Routing.tied_land tied with between | rfl
      · rcases Routing.tied_land between with before | rfl
        · exact .inl ⟨before, not_cuts rfl tie⟩
        · exact .inr checked
      · exact .inr checked
  | hoverEnter window device pointer =>
      cases stands
      rcases Routing.tied_hover tied with before | ⟨id, checked, rfl⟩
      · exact .inl ⟨before, not_cuts rfl tie⟩
      · exact .inr ⟨rfl, checked⟩
  | hoverExit device pointer =>
      obtain ⟨id, checked⟩ := exists_of_isOk valid
      cases stands
      have kept := Routing.tied_removal (.unhover device pointer id checked) tied
      refine .inl ⟨kept.1, ?_⟩
      cases tie with
      | touch other => exact not_false
      | hover other named =>
          rintro ⟨same, checkedToo⟩
          rw [checked] at checkedToo
          exact kept.2 ⟨same, (Except.ok.inj checkedToo).symm⟩
      | watch => exact absurd kept.2 not_false
  | pilfer token =>
      cases stands
      exact .inl ⟨Routing.tied_pilfer tied, not_cuts rfl tie⟩
  | commit =>
      cases stands
      exact .inl ⟨Routing.tied_commit tied, not_cuts rfl tie⟩
  | up pointer =>
      obtain ⟨id, checked⟩ := exists_of_isOk valid
      obtain ⟨_, standsToo, succeed⟩ := exists_operations valid time
      cases stands
      cases standsToo
      rw [← (Operation.runAll_of_succeeds succeed routing).2] at tied
      have kept := Routing.tied_removal (.up time pointer id checked) tied
      refine .inl ⟨kept.1, ?_⟩
      cases tie with
      | touch other =>
          intro checkedToo
          obtain ⟨_, lifted⟩ := kept.2
          exact lifted (Except.ok.inj (checkedToo.symm.trans checked))
      | hover other named => exact not_false
      | watch => exact absurd kept.2 not_false

end Action

/-- A valid action is not refused, and leaves no ties but those that it did not cut and those that
it makes. -/
theorem tied_play {step : Timed} (valid : step.action.isValid = true) (routing : Routing) :
    (step.play routing).violation = none ∧
      ∀ tie, (step.play routing).routing.IsTied tie →
        routing.IsTied tie ∧ ¬step.action.Cuts tie ∨ step.action.Makes tie := by
  obtain ⟨operations, stands, succeed⟩ := Action.exists_operations valid step.time
  obtain ⟨done, after⟩ := Operation.runAll_of_succeeds succeed routing
  rw [Timed.play, stands]
  refine ⟨done, fun tie tied => ?_⟩
  rw [after] at tied
  exact Action.tied_operations valid stands tied

/-- A script that lets go of what it takes hold of leaves no ties but those that were there before
it and that it did not cut. -/
theorem tied_playAll {steps : List Timed} (valid : ∀ step ∈ steps, step.action.isValid = true)
    (lets : letsGo (steps.map Timed.action) = true) (routing : Routing) :
    (playAll steps routing).violation = none ∧
      ∀ tie, (playAll steps routing).routing.IsTied tie →
        routing.IsTied tie ∧ ∀ action ∈ steps.map Timed.action, ¬action.Cuts tie := by
  induction steps generalizing routing with
  | nil => exact ⟨rfl, fun tie tied => ⟨tied, by simp⟩⟩
  | cons step rest ih =>
      rw [List.map_cons, letsGo, Bool.and_eq_true] at lets
      obtain ⟨done, tiedFirst⟩ := tied_play (valid step List.mem_cons_self) routing
      obtain ⟨restDone, tiedRest⟩ := ih (fun other listed => valid other (.tail _ listed)) lets.2
        (step.play routing).routing
      rw [playAll, Outcome.andThen_of_done done]
      refine ⟨restDone, fun tie tied => ?_⟩
      obtain ⟨between, uncut⟩ := tiedRest tie tied
      rcases tiedFirst tie between with ⟨before, uncutFirst⟩ | makes
      · exact ⟨before, List.forall_mem_cons.mpr ⟨uncutFirst, uncut⟩⟩
      · -- A tie that the action makes is cut later on.
        obtain ⟨other, listed, cuts⟩ := Action.exists_cuts lets.1 makes
        exact absurd cuts (uncut other listed)

/-- No gesture leaves anything behind. Whatever a script of valid actions does to a new routing, it
is played to its end; and if every pointer that lands or slips is lifted later, every pointer that
comes hovering leaves later, and after every window that comes to watch some pointer is lifted or
leaves, then no window takes part in the end. -/
theorem empty_after_letting_go (gesture : Gesture)
    (valid : ∀ step ∈ gesture.steps, step.action.isValid = true)
    (lets : letsGo (gesture.steps.map Timed.action) = true) :
    (gesture.play {}).violation = none ∧ (gesture.play {}).routing.isEmpty = true := by
  obtain ⟨done, tied⟩ := tied_playAll valid lets {}
  refine ⟨done, Routing.isEmpty_of_untied fun tie left => ?_⟩
  obtain ⟨⟨target, inTargets, _⟩, _⟩ := tied tie left
  cases inTargets

/-- A pointer lands in the app while the spy watches, and slips over to the spy, which claims it;
the delivery drops the app. Another pointer comes to hover over the app, the first one is lifted,
and the other one leaves. -/
def slippingGesture : Gesture :=
  [.outside .spy, .down .app 0 landingFlags, .slip .app .spy 0, .commit, .hoverEnter .app 7 1,
    .pilfer Window.spy.token, .up 0, .hoverExit 7 1].foldl append (make none none)

/-- The app takes part until the hovering pointer leaves, and then nothing does. -/
theorem slipping_gesture_leaves_nothing :
    (∀ step ∈ slippingGesture.steps, step.action.isValid = true) ∧
      letsGo (slippingGesture.steps.map Timed.action) = true ∧
      (playAll (slippingGesture.steps.take 7) {}).routing.isEmpty = false ∧
      (slippingGesture.play {}).violation = none ∧
      (slippingGesture.play {}).routing.isEmpty = true := by
  have valid : ∀ step ∈ slippingGesture.steps, step.action.isValid = true := by decide
  have lets : letsGo (slippingGesture.steps.map Timed.action) = true := by decide
  exact ⟨valid, lets, by decide, empty_after_letting_go slippingGesture valid lets⟩

end Gesture

end PointerRouting
