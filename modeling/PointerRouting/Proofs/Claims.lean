/-
Module: PointerRouting.Proofs.Claims
Purpose: What the policies on claims leave behind, in closed form. Cancelling, claiming and
  settling test each target before they change it; the tests only spare targets that would not
  change, so each policy is one change made to every target, and then the dead ones go.
Main exports: Target.yield, Routing.routing_cancelExcept, Routing.mem_claimed_pilfer,
  Routing.routing_pilfer, Routing.routing_resolveClaims, Routing.settles_by_plain_difference
-/
import Mathlib.Tactic.Tauto
import PointerRouting.Routing.Pilfer
import PointerRouting.Routing.Queries

namespace PointerRouting

theorem PointerSet.mem_unions_map {targets : List Target} {pointersOf : Target → PointerSet}
    {pointer : PointerId} :
    pointer ∈ unions (targets.map pointersOf) ↔
      ∃ target ∈ targets, pointer ∈ pointersOf target := by
  rw [mem_unions]
  constructor
  · rintro ⟨_, listed, member⟩
    obtain ⟨target, inTargets, rfl⟩ := List.mem_map.mp listed
    exact ⟨target, inTargets, member⟩
  · rintro ⟨target, inTargets, member⟩
    exact ⟨pointersOf target, List.mem_map_of_mem inTargets, member⟩

namespace Target

/-- A target that keeps, of what is claimed, its own claims only. -/
def yield (target : Target) (claimed : PointerSet) : Target :=
  target.giveUp (claimed \ target.pilfered)

@[simp] theorem mem_touching_giveUp {target : Target} {pointers : PointerSet}
    {pointer : PointerId} :
    pointer ∈ (target.giveUp pointers).touching ↔
      pointer ∈ target.touching ∧ pointer ∉ pointers := by
  simp [giveUp]

@[simp] theorem mem_touching_yield {target : Target} {claimed : PointerSet}
    {pointer : PointerId} :
    pointer ∈ (target.yield claimed).touching ↔
      pointer ∈ target.touching ∧ (pointer ∈ claimed → pointer ∈ target.pilfered) := by
  simp [yield]

@[simp] theorem mem_pilfered_claim {target : Target} {pointers : PointerSet}
    {pointer : PointerId} :
    pointer ∈ (target.claim pointers).pilfered ↔
      pointer ∈ target.pilfered ∨ pointer ∈ pointers := by
  simp [claim]

@[simp] theorem window_claim (target : Target) (pointers : PointerSet) :
    (target.claim pointers).window = target.window := rfl

theorem giveUp_eq_self {target : Target} {pointers : PointerSet}
    (apart : ∀ pointer ∈ target.touching, pointer ∉ pointers) :
    target.giveUp pointers = target := by
  have same : target.touching \ pointers = target.touching := by
    apply PointerSet.ext_mem
    intro pointer
    simpa using apart pointer
  rw [giveUp, same]

theorem claim_eq_self {target : Target} {pointers : PointerSet}
    (own : ∀ pointer ∈ pointers, pointer ∈ target.pilfered) :
    target.claim pointers = target := by
  have same : target.pilfered ∪ pointers = target.pilfered := by
    apply PointerSet.ext_mem
    intro pointer
    simpa using own pointer
  rw [claim, same]

theorem giveUp_eq_self_of_lost {target : Target} {pointers : PointerSet}
    (nothing : (target.lost pointers).isEmpty = true) :
    target.giveUp pointers = target := by
  rw [PointerSet.isEmpty_iff] at nothing
  apply giveUp_eq_self
  intro pointer touched given
  apply nothing pointer
  simp [lost, touched, given]

theorem giveUp_if_loses (target : Target) (pointers : PointerSet) :
    (if (target.lost pointers).isEmpty = false then target.giveUp pointers else target) =
      target.giveUp pointers := by
  cases nothing : (target.lost pointers).isEmpty with
  | true => simp [giveUp_eq_self_of_lost nothing]
  | false => simp

theorem claim_if_touched (target : Target) :
    (if target.isTouched = true then target.claim target.touching else target) =
      target.claim target.touching := by
  cases nothing : target.touching.isEmpty with
  | true =>
      have untouched : ∀ pointer, pointer ∉ target.touching :=
        PointerSet.isEmpty_iff.mp nothing
      have same : target.claim target.touching = target := by
        apply claim_eq_self
        intro pointer touched
        exact absurd touched (untouched pointer)
      rw [same, ite_self]
  | false => simp [isTouched, nothing]

theorem yield_eq_self {target : Target} {claimed : PointerSet}
    (own : ∀ pointer ∈ target.touching, pointer ∈ claimed → pointer ∈ target.pilfered) :
    target.yield claimed = target := by
  apply giveUp_eq_self
  intro pointer touched
  simpa using own pointer touched

/-- As long as a target's own claims are among all claims, what is claimed here or anywhere but
not both is what is claimed elsewhere only. Claims of other targets may overlap in any way. -/
theorem pilferedByOthers_eq_sdiff {target : Target} {claimed : PointerSet}
    (among : ∀ pointer ∈ target.pilfered, pointer ∈ claimed) :
    target.pilferedByOthers claimed = claimed \ target.pilfered := by
  apply PointerSet.ext_mem
  intro pointer
  have own := among pointer
  simp only [pilferedByOthers, PointerSet.mem_symmDiff, PointerSet.mem_sdiff]
  tauto

end Target

namespace Routing

variable {routing : Routing} {token : Token} {pointers : PointerSet} {pointer : PointerId}

theorem mem_allPilfered :
    pointer ∈ routing.allPilfered ↔ ∃ target ∈ routing.targets, pointer ∈ target.pilfered :=
  PointerSet.mem_unions_map

theorem mem_touching :
    pointer ∈ routing.touching ↔ ∃ target ∈ routing.targets, pointer ∈ target.touching :=
  PointerSet.mem_unions_map

/-- Cancelling pointers takes them from every target whose window does not carry the token. -/
theorem routing_cancelExcept (given : pointers ≠ ∅) :
    (routing.cancelExcept pointers token).routing =
      { routing with
        targets := (routing.targets.map fun target =>
          if target.window.token = token then target else target.giveUp pointers).filter
            fun target => !target.isDead } := by
  have notEmpty : ¬pointers.isEmpty = true := fun empty =>
    given (PointerSet.isEmpty_iff_eq.mp empty)
  simp [cancelExcept, notEmpty, Outcome.andThen, prune_eq, ite_and, Target.giveUp_if_loses]

theorem claimed_pilfer :
    (routing.pilfer token).claimed =
      PointerSet.unions ((routing.targets.filter (claims token)).map Target.touching) := by
  simp only [pilfer]
  split
  next idle => exact (PointerSet.isEmpty_iff_eq.mp idle).symm
  next => rfl

/-- Pilfering claims the pointers that touch some window that carries the token. -/
theorem mem_claimed_pilfer :
    pointer ∈ (routing.pilfer token).claimed ↔
      ∃ target ∈ routing.targets,
        target.window.token = token ∧ pointer ∈ target.touching := by
  rw [claimed_pilfer, PointerSet.mem_unions_map]
  constructor
  · rintro ⟨target, claiming, touched⟩
    obtain ⟨inTargets, claims⟩ := List.mem_filter.mp claiming
    have carries : target.window.token = token := (of_decide_eq_true claims).1
    exact ⟨target, inTargets, carries, touched⟩
  · rintro ⟨target, inTargets, carries, touched⟩
    have isTouched : target.isTouched = true := by
      cases nothing : target.touching.isEmpty with
      | true => exact absurd touched (PointerSet.isEmpty_iff.mp nothing pointer)
      | false => simp [Target.isTouched, nothing]
    have claiming : target ∈ routing.targets.filter (claims token) :=
      List.mem_filter.mpr ⟨inTargets, decide_eq_true ⟨carries, isTouched⟩⟩
    exact ⟨target, claiming, touched⟩

theorem routing_pilfer_of_idle (idle : (routing.pilfer token).claimed = ∅) :
    (routing.pilfer token).routing = routing := by
  rw [claimed_pilfer, ← PointerSet.isEmpty_iff_eq] at idle
  simp [pilfer, idle]

/-- A pilfer that claims anything makes every window of the token claim what it touches, and
every other window give up what was claimed. -/
theorem routing_pilfer (claiming : (routing.pilfer token).claimed ≠ ∅) :
    (routing.pilfer token).routing =
      { routing with
        targets := (routing.targets.map fun target =>
          if target.window.token = token then target.claim target.touching
          else target.giveUp (routing.pilfer token).claimed).filter
            fun target => !target.isDead } := by
  have notEmpty := claiming
  rw [claimed_pilfer, Ne, ← PointerSet.isEmpty_iff_eq] at notEmpty
  rw [claimed_pilfer] at claiming ⊢
  simp only [pilfer, notEmpty, Bool.false_eq_true, if_false, Outcome.andThen,
    routing_cancelExcept claiming, List.map_map]
  congr 2
  apply List.map_congr_left
  intro target _
  by_cases carries : target.window.token = token
  · have claimer : claims token target = target.isTouched := by simp [claims, carries]
    simp [carries, claimer, Target.claim_if_touched]
  · simp [carries, claims]

/-- Settling claims makes every target yield to all claims. -/
theorem routing_resolveClaims (claimed : routing.allPilfered ≠ ∅) :
    routing.resolveClaims.routing =
      { routing with
        targets := (routing.targets.map (·.yield routing.allPilfered)).filter
          fun target => !target.isDead } := by
  have notEmpty : ¬routing.allPilfered.isEmpty = true := fun empty =>
    claimed (PointerSet.isEmpty_iff_eq.mp empty)
  have others : ∀ target ∈ routing.targets,
      target.giveUp (target.pilferedByOthers routing.allPilfered) =
        target.yield routing.allPilfered := by
    intro target inTargets
    rw [Target.yield, Target.pilferedByOthers_eq_sdiff]
    intro pointer own
    exact mem_allPilfered.mpr ⟨target, inTargets, own⟩
  simp [resolveClaims, notEmpty, Outcome.andThen, prune_eq, Target.giveUp_if_loses,
    List.map_congr_left others]

theorem resolveClaims_of_unclaimed (unclaimed : routing.allPilfered = ∅) :
    routing.resolveClaims = { routing } := by
  rw [← PointerSet.isEmpty_iff_eq] at unclaimed
  simp [resolveClaims, unclaimed]

/-- Whatever settling leaves has yielded to the claims there were. -/
theorem exists_of_mem_resolveClaims {target : Target}
    (left : target ∈ routing.resolveClaims.routing.targets) :
    ∃ old ∈ routing.targets, target = old.yield routing.allPilfered := by
  by_cases unclaimed : routing.allPilfered = ∅
  · rw [resolveClaims_of_unclaimed unclaimed] at left
    refine ⟨target, left, ?_⟩
    rw [unclaimed, Target.yield_eq_self]
    simp
  · rw [routing_resolveClaims unclaimed] at left
    obtain ⟨old, inTargets, rfl⟩ := List.mem_map.mp (List.mem_filter.mp left).1
    exact ⟨old, inTargets, rfl⟩

/-- A target that keeps a pointer when it yields is not dead, so settling leaves it. -/
theorem mem_resolveClaims_of_touching {target : Target} (inTargets : target ∈ routing.targets)
    (kept : pointer ∈ (target.yield routing.allPilfered).touching) :
    target.yield routing.allPilfered ∈ routing.resolveClaims.routing.targets := by
  by_cases unclaimed : routing.allPilfered = ∅
  · rw [resolveClaims_of_unclaimed unclaimed, unclaimed, Target.yield_eq_self]
    · exact inTargets
    · simp
  · rw [routing_resolveClaims unclaimed]
    apply List.mem_filter.mpr
    constructor
    · exact List.mem_map_of_mem inTargets
    · cases dead : (target.yield routing.allPilfered).isDead with
      | true =>
          rw [(Target.isDead_iff.mp dead).1] at kept
          exact absurd kept (PointerSet.not_mem_empty pointer)
      | false => rfl

/-- Where every touched pointer that is claimed is the target's own claim and nothing is dead,
settling claims changes nothing. -/
theorem resolveClaims_of_settled
    (own : ∀ target ∈ routing.targets, ∀ pointer ∈ target.touching,
      pointer ∈ routing.allPilfered → pointer ∈ target.pilfered)
    (alive : ∀ target ∈ routing.targets, target.isDead = false) :
    routing.resolveClaims.routing = routing := by
  by_cases unclaimed : routing.allPilfered = ∅
  · rw [resolveClaims_of_unclaimed unclaimed]
  · have same : routing.targets.map (·.yield routing.allPilfered) = routing.targets := by
      have each : ∀ target ∈ routing.targets, target.yield routing.allPilfered = id target := by
        intro target inTargets
        exact Target.yield_eq_self (own target inTargets)
      rw [List.map_congr_left each, List.map_id]
    have kept : routing.targets.filter (fun target => !target.isDead) = routing.targets := by
      rw [List.filter_eq_self]
      intro target inTargets
      simp [alive target inTargets]
    rw [routing_resolveClaims unclaimed, same, kept]

theorem resolveClaims_resolveClaims (routing : Routing) :
    routing.resolveClaims.routing.resolveClaims.routing = routing.resolveClaims.routing := by
  by_cases unclaimed : routing.allPilfered = ∅
  · simp only [resolveClaims_of_unclaimed unclaimed]
  · apply resolveClaims_of_settled
    · intro target left pointer touched claimed
      obtain ⟨old, inTargets, rfl⟩ := exists_of_mem_resolveClaims left
      -- A claim that is left was there before, so the target has yielded to it.
      have claimedBefore : pointer ∈ routing.allPilfered := by
        obtain ⟨claimant, claimantLeft, claims⟩ := mem_allPilfered.mp claimed
        obtain ⟨before, inBefore, rfl⟩ := exists_of_mem_resolveClaims claimantLeft
        exact mem_allPilfered.mpr ⟨before, inBefore, claims⟩
      exact (Target.mem_touching_yield.mp touched).2 claimedBefore
    · intro target left
      rw [routing_resolveClaims unclaimed] at left
      simpa using (List.mem_filter.mp left).2

/-- Settling claims, in full. Without claims nothing at all happens. Otherwise every target loses
the pointers that are claimed and not by itself, however claims overlap, keeps everything else it
holds, and goes only if that leaves it dead; the rest keep their order. What was computed as a
symmetric difference is the plain one, and settling at once again changes no target. -/
theorem settles_by_plain_difference (routing : Routing) :
    (routing.allPilfered = ∅ → routing.resolveClaims = { routing }) ∧
    (routing.allPilfered ≠ ∅ → routing.resolveClaims.routing =
      { routing with
        targets := (routing.targets.map (·.yield routing.allPilfered)).filter
          fun target => !target.isDead }) ∧
    (∀ target ∈ routing.targets,
      (∀ pointer, pointer ∈ (target.yield routing.allPilfered).touching ↔
        pointer ∈ target.touching ∧
          (pointer ∉ routing.allPilfered ∨ pointer ∈ target.pilfered)) ∧
      { target.yield routing.allPilfered with touching := target.touching } = target ∧
      target.pilferedByOthers routing.allPilfered = routing.allPilfered \ target.pilfered) ∧
    routing.resolveClaims.routing.resolveClaims.routing = routing.resolveClaims.routing := by
  refine ⟨resolveClaims_of_unclaimed, routing_resolveClaims, ?_,
    resolveClaims_resolveClaims routing⟩
  intro target inTargets
  refine ⟨?_, rfl, ?_⟩
  · intro pointer
    rw [Target.mem_touching_yield, imp_iff_not_or]
  · apply Target.pilferedByOthers_eq_sdiff
    intro pointer own
    exact mem_allPilfered.mpr ⟨target, inTargets, own⟩

/-- Two windows claim pointer 1 and one of them claims 2 as well: each keeps what it claims. -/
example :
    let target (serial : Nat) (touching pilfered : List PointerId) : Target :=
      { window := { serial, token := { serial, label := "" }, name := "" }
        touching := .ofList touching, pilfered := .ofList pilfered }
    ({ targets := [target 0 [1, 2] [1, 2], target 1 [1, 2] [1], target 2 [1, 2, 3] []] }
        : Routing).resolveClaims.routing.targets.map (·.touching.toList) =
      [[1, 2], [1], [3]] := by
  decide

end Routing

end PointerRouting
