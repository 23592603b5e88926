/-
Module: PointerRouting.Proofs.Pilfering
Purpose: A pilfer from end to end. It moves no pointer out of the routing: what it takes from a
  window, a window of the claiming connection receives. What it leaves is settled for that
  connection, so neither asking again nor settling claims takes anything from its windows, however
  many of them share the token.
Main exports: Routing.isDown_eq, Target.partake, Routing.targets_pilfer, Routing.touching_pilfer,
  Routing.pilfer_pilfer, Routing.claimants_resolveClaims, Routing.pilfers_within_the_gesture
-/
import PointerRouting.Proofs.Atomicity

namespace PointerRouting

namespace Target

/-- What becomes of a target when a connection pilfers: a window of that connection claims what it
touches, any other one gives up what is claimed. -/
def partake (token : Token) (claimed : PointerSet) (target : Target) : Target :=
  if target.window.token = token then target.claim target.touching else target.giveUp claimed

variable {target : Target} {token : Token} {claimed : PointerSet} {pointer : PointerId}

theorem isTouched_of_mem (touched : pointer ∈ target.touching) : target.isTouched = true := by
  cases nothing : target.touching.isEmpty with
  | true => exact absurd touched (PointerSet.isEmpty_iff.mp nothing pointer)
  | false => simp [isTouched, nothing]

theorem isDead_of_mem (touched : pointer ∈ target.touching) : target.isDead = false := by
  simp [isDead, isTouched_of_mem touched]

theorem partake_of_carries (carries : target.window.token = token) :
    target.partake token claimed = target.claim target.touching :=
  if_pos carries

theorem partake_of_not_carries (apart : target.window.token ≠ token) :
    target.partake token claimed = target.giveUp claimed :=
  if_neg apart

@[simp] theorem window_partake : (target.partake token claimed).window = target.window := by
  unfold partake
  split <;> rfl

/-- A window keeps what it touches if it belongs to the connection or if nobody has claimed it. -/
theorem mem_touching_partake :
    pointer ∈ (target.partake token claimed).touching ↔
      pointer ∈ target.touching ∧ (target.window.token = token ∨ pointer ∉ claimed) := by
  by_cases carries : target.window.token = token
  · simp [partake_of_carries carries, carries, claim]
  · simp [partake_of_not_carries carries, carries]

/-- A target that has taken part in a pilfer has nothing to add to it the next time. -/
theorem partake_partake :
    (target.partake token claimed).partake token claimed = target.partake token claimed := by
  by_cases carries : target.window.token = token
  · have still : (target.partake token claimed).window.token = token := by simpa using carries
    rw [partake_of_carries still]
    apply claim_eq_self
    intro pointer touched
    rw [partake_of_carries carries] at touched ⊢
    exact mem_pilfered_claim.mpr (.inr touched)
  · have still : (target.partake token claimed).window.token ≠ token := by simpa using carries
    rw [partake_of_not_carries still]
    apply giveUp_eq_self
    intro pointer touched
    exact (mem_touching_partake.mp touched).2.resolve_left carries

end Target

namespace Routing

variable {routing : Routing} {token : Token} {pointer : PointerId}

/-- A routing is down just in case some pointer touches a window of it. -/
theorem isDown_eq (routing : Routing) : routing.isDown = !routing.touching.isEmpty := by
  rw [Bool.eq_iff_iff, isDown, List.any_eq_true, Bool.not_eq_true', ← Bool.not_eq_true,
    PointerSet.isEmpty_iff]
  simp only [mem_touching, not_forall, not_not]
  constructor
  · rintro ⟨target, inTargets, touched⟩
    have some : ¬∀ pointer, pointer ∉ target.touching := by
      rw [← PointerSet.isEmpty_iff]
      simpa [Target.isTouched] using touched
    obtain ⟨pointer, received⟩ := not_forall_not.mp some
    exact ⟨pointer, target, inTargets, received⟩
  · rintro ⟨pointer, target, inTargets, received⟩
    exact ⟨target, inTargets, Target.isTouched_of_mem received⟩

/-- A pilfer that claims anything lets every target take part in it and prunes the dead ones. -/
theorem routing_pilfer_eq (claiming : (routing.pilfer token).claimed ≠ ∅) :
    (routing.pilfer token).routing =
      { routing with
        targets := (routing.targets.map (·.partake token (routing.pilfer token).claimed)).filter
          fun target => !target.isDead } :=
  routing_pilfer claiming

theorem mem_targets_pilfer (claiming : (routing.pilfer token).claimed ≠ ∅) {target : Target} :
    target ∈ (routing.pilfer token).routing.targets ↔
      (∃ old ∈ routing.targets, old.partake token (routing.pilfer token).claimed = target) ∧
        target.isDead = false := by
  rw [routing_pilfer_eq claiming, List.mem_filter, List.mem_map, Bool.not_eq_true']

/-- A pointer that is taken from one window is received by a claiming one, so no pilfer changes
which pointers touch. -/
theorem touching_pilfer (routing : Routing) (token : Token) :
    (routing.pilfer token).routing.touching = routing.touching := by
  by_cases idle : (routing.pilfer token).claimed = ∅
  · rw [routing_pilfer_of_idle idle]
  apply PointerSet.ext_mem
  intro pointer
  rw [mem_touching, mem_touching]
  constructor
  · rintro ⟨target, left, touched⟩
    obtain ⟨⟨old, inOld, rfl⟩, _⟩ := (mem_targets_pilfer idle).mp left
    exact ⟨old, inOld, (Target.mem_touching_partake.mp touched).1⟩
  · rintro ⟨old, inOld, touched⟩
    -- Whoever keeps the pointer is alive because of it: a claimant if it is claimed, else `old`.
    obtain ⟨keeper, inTargets, kept⟩ : ∃ keeper ∈ routing.targets,
        pointer ∈ (keeper.partake token (routing.pilfer token).claimed).touching := by
      by_cases claimed : pointer ∈ (routing.pilfer token).claimed
      · obtain ⟨claimant, inTargets, carries, received⟩ := mem_claimed_pilfer.mp claimed
        exact ⟨claimant, inTargets, Target.mem_touching_partake.mpr ⟨received, .inl carries⟩⟩
      · exact ⟨old, inOld, Target.mem_touching_partake.mpr ⟨touched, .inr claimed⟩⟩
    exact ⟨_, (mem_targets_pilfer idle).mpr ⟨⟨keeper, inTargets, rfl⟩, Target.isDead_of_mem kept⟩,
      kept⟩

/-- Asked again at once, a connection claims the same pointers. -/
theorem claimed_pilfer_pilfer (routing : Routing) (token : Token) :
    ((routing.pilfer token).routing.pilfer token).claimed = (routing.pilfer token).claimed := by
  by_cases idle : (routing.pilfer token).claimed = ∅
  · rw [routing_pilfer_of_idle idle]
  apply PointerSet.ext_mem
  intro pointer
  rw [mem_claimed_pilfer, mem_claimed_pilfer]
  constructor
  · rintro ⟨target, left, carries, touched⟩
    obtain ⟨⟨old, inOld, rfl⟩, _⟩ := (mem_targets_pilfer idle).mp left
    exact ⟨old, inOld, by simpa using carries, (Target.mem_touching_partake.mp touched).1⟩
  · rintro ⟨old, inOld, carries, touched⟩
    have kept : pointer ∈ (old.partake token (routing.pilfer token).claimed).touching :=
      Target.mem_touching_partake.mpr ⟨touched, .inl carries⟩
    exact ⟨_, (mem_targets_pilfer idle).mpr ⟨⟨old, inOld, rfl⟩, Target.isDead_of_mem kept⟩,
      by simpa using carries, kept⟩

/-- Asked again at once, a connection changes nothing. -/
theorem pilfer_pilfer (routing : Routing) (token : Token) :
    ((routing.pilfer token).routing.pilfer token).routing = (routing.pilfer token).routing := by
  have again := claimed_pilfer_pilfer routing token
  by_cases idle : (routing.pilfer token).claimed = ∅
  · exact routing_pilfer_of_idle (again.trans idle)
  · have claiming : ((routing.pilfer token).routing.pilfer token).claimed ≠ ∅ := again ▸ idle
    have settled : ∀ target ∈ (routing.pilfer token).routing.targets,
        target.partake token (routing.pilfer token).claimed = id target := by
      intro target left
      obtain ⟨⟨old, _, rfl⟩, _⟩ := (mem_targets_pilfer idle).mp left
      exact Target.partake_partake
    have alive : (routing.pilfer token).routing.targets.filter (fun target => !target.isDead) =
        (routing.pilfer token).routing.targets := by
      rw [List.filter_eq_self]
      intro target left
      simp [((mem_targets_pilfer idle).mp left).2]
    rw [routing_pilfer_eq claiming, again, List.map_congr_left settled, List.map_id, alive]

/-- What the windows of a connection that has just pilfered touch is their own claim. -/
theorem own_of_mem_pilfer (claiming : (routing.pilfer token).claimed ≠ ∅) {target : Target}
    (left : target ∈ (routing.pilfer token).routing.targets)
    (carries : target.window.token = token) (touched : pointer ∈ target.touching) :
    pointer ∈ target.pilfered := by
  obtain ⟨⟨old, _, rfl⟩, _⟩ := (mem_targets_pilfer claiming).mp left
  rw [Target.partake_of_carries (by simpa using carries)] at touched ⊢
  exact Target.mem_pilfered_claim.mpr (.inr touched)

/-- Settling claims leaves the windows of a connection that has just pilfered as they are: they
yield nothing, and none of them is dead. -/
theorem claimants_resolveClaims (claiming : (routing.pilfer token).claimed ≠ ∅) :
    ((routing.pilfer token).routing.resolveClaims.routing.targets.filter
        fun target => target.window.token = token) =
      (routing.pilfer token).routing.targets.filter fun target => target.window.token = token := by
  by_cases unclaimed : (routing.pilfer token).routing.allPilfered = ∅
  · rw [resolveClaims_of_unclaimed unclaimed]
  · have settled : ∀ target ∈ (routing.pilfer token).routing.targets, target.window.token = token →
        target.yield (routing.pilfer token).routing.allPilfered = target := by
      intro target left carries
      exact Target.yield_eq_self fun _ touched _ => own_of_mem_pilfer claiming left carries touched
    -- So the filters choose the same targets, before yielding and pruning and after.
    have chosen : ∀ target ∈ (routing.pilfer token).routing.targets,
        (decide ((target.yield (routing.pilfer token).routing.allPilfered).window.token = token) &&
            !(target.yield (routing.pilfer token).routing.allPilfered).isDead) =
          decide (target.window.token = token) := by
      intro target left
      by_cases carries : target.window.token = token
      · simp [settled target left carries, carries, ((mem_targets_pilfer claiming).mp left).2]
      · simp [Target.yield, Target.giveUp, carries]
    rw [routing_resolveClaims unclaimed, List.filter_filter, List.filter_map]
    simp only [Function.comp_def, List.filter_congr chosen]
    have same : ∀ target ∈ (routing.pilfer token).routing.targets.filter
        (fun target => target.window.token = token),
        target.yield (routing.pilfer token).routing.allPilfered = id target := by
      intro target claimant
      obtain ⟨left, carries⟩ := List.mem_filter.mp claimant
      exact settled target left (of_decide_eq_true carries)
    rw [List.map_congr_left same, List.map_id]

/-- A pilfer from end to end. It claims what the windows of the connection touch, each of them its
own share, and takes it from every other window; targets that are dead by then go, and otherwise
nothing changes. Without anything to claim nothing changes at all. Every pointer that touched a
window still touches one. Asking again claims the same and changes nothing, and settling claims
leaves the windows of the connection as they are, however many share the token and whichever
pointers they touch. -/
theorem pilfers_within_the_gesture (routing : Routing) (token : Token) :
    (routing.pilfer token).violation = none ∧
    (∀ pointer, pointer ∈ (routing.pilfer token).claimed ↔
      ∃ target ∈ routing.targets, target.window.token = token ∧ pointer ∈ target.touching) ∧
    ((routing.pilfer token).claimed = ∅ → (routing.pilfer token).routing = routing) ∧
    ((routing.pilfer token).claimed ≠ ∅ →
      (routing.pilfer token).routing =
        { routing with
          targets := (routing.targets.map fun target =>
            if target.window.token = token then
              { target with pilfered := target.pilfered ∪ target.touching }
            else
              { target with
                touching := target.touching \ (routing.pilfer token).claimed }).filter
              fun target => !target.isDead } ∧
      (∀ target ∈ routing.targets, target.window.token = token → target.touching ≠ ∅ →
        { target with pilfered := target.pilfered ∪ target.touching } ∈
          (routing.pilfer token).routing.targets) ∧
      ((routing.pilfer token).routing.resolveClaims.routing.targets.filter
          fun target => target.window.token = token) =
        (routing.pilfer token).routing.targets.filter
          fun target => target.window.token = token) ∧
    (routing.pilfer token).routing.touching = routing.touching ∧
    (routing.pilfer token).routing.isDown = routing.isDown ∧
    ((routing.pilfer token).routing.pilfer token).claimed = (routing.pilfer token).claimed ∧
    ((routing.pilfer token).routing.pilfer token).routing = (routing.pilfer token).routing := by
  refine ⟨violation_pilfer routing token, fun _ => mem_claimed_pilfer, routing_pilfer_of_idle, ?_,
    touching_pilfer routing token, ?_, claimed_pilfer_pilfer routing token,
    pilfer_pilfer routing token⟩
  · intro claiming
    refine ⟨routing_pilfer claiming, ?_, claimants_resolveClaims claiming⟩
    intro target inTargets carries touching
    have alive : (target.claim target.touching).isDead = false := by
      rw [← Bool.not_eq_true, Target.isDead_iff]
      exact fun dead => touching dead.1
    exact (mem_targets_pilfer claiming).mpr
      ⟨⟨target, inTargets, Target.partake_of_carries carries⟩, alive⟩
  · rw [isDown_eq, isDown_eq, touching_pilfer]

/-- Two handles of one connection share pointer 2 and keep all they touch. Of the others, one
keeps pointer 4, which nobody claims, and one is left with nothing and goes. -/
example :
    let token (serial : Nat) : Token := { serial, label := "" }
    let target (serial connection : Nat) (touching : List PointerId) : Target :=
      { window := { serial, token := token connection, name := "" }
        touching := .ofList touching }
    (({ targets := [target 0 0 [1, 2], target 1 1 [1, 4], target 2 0 [2, 3],
          target 3 2 [2, 3]] } : Routing).pilfer (token 0)).routing.targets.map
        (fun target => (target.touching.toList, target.pilfered.toList)) =
      [([1, 2], [1, 2]), ([4], []), ([2, 3], [2, 3])] := by
  decide

end Routing

end PointerRouting
