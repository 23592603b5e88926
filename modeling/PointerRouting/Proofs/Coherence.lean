/-
Module: PointerRouting.Proofs.Coherence
Purpose: Whether touches and claims fit together. A target is incoherent on a pointer that it
  receives and does not claim while another one claims it. Only a landing makes a target
  incoherent, and settling claims makes all of them coherent again. What settling takes from the
  routing as a whole is therefore landed under a claim, and its claimants have let it go.
Main exports: Routing.Incoherent, Routing.incoherent_of_next, Routing.not_incoherent_resolved,
  Routing.landing_of_incoherent, Routing.incoherent_only_by_landing,
  Routing.mem_touching_resolveClaims, Routing.touching_resolveClaims_eq_iff,
  Routing.stale_claim_strips,
  Routing.settling_strips_stale_claims_only
-/
import Mathlib.Data.List.Induction
import PointerRouting.Proofs.Histories
import PointerRouting.Proofs.Samples

namespace PointerRouting

namespace Routing

/-- A target receives a pointer that it does not claim and that some target claims, which then
is another one. -/
def Incoherent (routing : Routing) (target : Target) (pointer : PointerId) : Prop :=
  target ∈ routing.targets ∧ pointer ∈ target.touching ∧ pointer ∉ target.pilfered ∧
    ∃ other ∈ routing.targets, pointer ∈ other.pilfered

instance (routing : Routing) (target : Target) (pointer : PointerId) :
    Decidable (routing.Incoherent target pointer) :=
  inferInstanceAs (Decidable (_ ∧ _ ∧ _ ∧ _))

variable {routing : Routing} {operation : Operation} {history : List Operation}
  {target : Target} {pointer : PointerId}

/-- A claim that is there after one of the routing's own operations was there before it, or the
operation is a pilfer that made it. -/
theorem claimed_of_next (own : operation.isOwn = true) {claimant : Target}
    (inTargets : claimant ∈ (routing.next operation).targets)
    (claims : pointer ∈ claimant.pilfered) :
    (∃ other ∈ routing.targets, pointer ∈ other.pilfered) ∨
      ∃ token, operation = .pilfer token ∧ pointer ∈ (routing.pilfer token).claimed := by
  obtain ⟨old, inOld, same, before | ⟨rfl, touched⟩⟩ := claim_of_next own inTargets claims
  · exact .inl ⟨old, inOld, before⟩
  · have carries : old.window.token = claimant.window.token := congrArg Window.token same
    exact .inr ⟨_, rfl, mem_claimed_pilfer.mpr ⟨old, inOld, carries, touched⟩⟩

/-- An operation of the routing's own leaves a target incoherent on a pointer only if it has just
landed there, or if the window was incoherent on it before. -/
theorem incoherent_of_next (own : operation.isOwn = true)
    (incoherent : (routing.next operation).Incoherent target pointer) :
    operation.Lands target.window pointer ∨
      ∃ old, old.window = target.window ∧ routing.Incoherent old pointer := by
  obtain ⟨inTargets, touched, notOwn, claimant, claimantIn, claims⟩ := incoherent
  rcases mem_next inTargets with ⟨old, inOld, alters⟩ | adds
  · have bounds := alters.bounds
    rcases bounds.touching pointer touched with before | lands
    · right
      have notOwnBefore : pointer ∉ old.pilfered := fun owned =>
        notOwn (bounds.keeps pointer owned)
      rcases claimed_of_next own claimantIn claims with claimedBefore | ⟨token, rfl, claimed⟩
      · exact ⟨old, bounds.window.symm, inOld, before, notOwnBefore, claimedBefore⟩
      · exact absurd (alters.own_claim_of_pilfer claimed touched).2 notOwn
    · rw [← bounds.window] at lands
      exact .inl lands
  · exact .inl (adds.lands touched)

/-- Settling claims leaves no target incoherent. -/
theorem not_incoherent_resolved : ¬(routing.next .resolveClaims).Incoherent target pointer := by
  rintro ⟨inTargets, touched, notOwn, claimant, claimantIn, claims⟩
  obtain ⟨old, _, rfl⟩ := exists_of_mem_resolveClaims inTargets
  obtain ⟨before, inBefore, rfl⟩ := exists_of_mem_resolveClaims claimantIn
  have claimed : pointer ∈ routing.allPilfered :=
    mem_allPilfered.mpr ⟨before, inBefore, claims⟩
  exact notOwn ((Target.mem_touching_yield.mp touched).2 claimed)

/-- A window that is incoherent on a pointer at the end of a history has been so since the
pointer landed there, and claims have not been settled since. -/
theorem landing_of_incoherent (own : ∀ operation ∈ history, operation.isOwn = true)
    (incoherent : (({} : Routing).after history).Incoherent target pointer) :
    ∃ earlier landing later, history = earlier ++ landing :: later ∧
      landing.Lands target.window pointer ∧ .resolveClaims ∉ later ∧
      ∃ landed, landed.window = target.window ∧
        (({} : Routing).after (earlier ++ [landing])).Incoherent landed pointer := by
  induction history using List.reverseRecOn generalizing target with
  | nil =>
      obtain ⟨inTargets, _⟩ := incoherent
      simp at inTargets
  | append_singleton history operation ih =>
      have isOwn : operation.isOwn = true := own operation (by simp)
      have ownBefore : ∀ operation ∈ history, operation.isOwn = true := by
        intro earlier member
        exact own earlier (List.mem_append_left _ member)
      have stepped := incoherent
      rw [after_append, after_cons, after_nil] at stepped
      rcases incoherent_of_next isOwn stepped with lands | ⟨old, sameWindow, before⟩
      · exact ⟨history, operation, [], rfl, lands, by simp, target, rfl, incoherent⟩
      · obtain ⟨earlier, landing, later, split, lands, unsettled, landed, landedWindow, since⟩ :=
          ih ownBefore before
        refine ⟨earlier, landing, later ++ [operation], by simp [split], sameWindow ▸ lands, ?_,
          landed, landedWindow.trans sameWindow, since⟩
        intro settled
        rcases List.mem_append.mp settled with inLater | last
        · exact unsettled inLater
        · rw [List.mem_singleton] at last
          subst last
          exact not_incoherent_resolved stepped

/-- Settling keeps a pointer in the routing exactly if some window receives it to which it is not
denied: nobody claims it, or a window that receives it claims it. -/
theorem mem_touching_resolveClaims :
    pointer ∈ (routing.next .resolveClaims).touching ↔
      pointer ∈ routing.touching ∧
        (pointer ∈ routing.allPilfered →
          ∃ target ∈ routing.targets, pointer ∈ target.touching ∧ pointer ∈ target.pilfered) := by
  rw [mem_touching, mem_touching]
  constructor
  · rintro ⟨target, inTargets, touched⟩
    obtain ⟨old, inOld, rfl⟩ := exists_of_mem_resolveClaims inTargets
    obtain ⟨before, own⟩ := Target.mem_touching_yield.mp touched
    exact ⟨⟨old, inOld, before⟩, fun claimed => ⟨old, inOld, before, own claimed⟩⟩
  · rintro ⟨⟨target, inTargets, touched⟩, live⟩
    by_cases claimed : pointer ∈ routing.allPilfered
    · obtain ⟨claimant, claimantIn, received, claims⟩ := live claimed
      have kept : pointer ∈ (claimant.yield routing.allPilfered).touching :=
        Target.mem_touching_yield.mpr ⟨received, fun _ => claims⟩
      exact ⟨_, mem_resolveClaims_of_touching claimantIn kept, kept⟩
    · have kept : pointer ∈ (target.yield routing.allPilfered).touching :=
        Target.mem_touching_yield.mpr ⟨touched, fun given => absurd given claimed⟩
      exact ⟨_, mem_resolveClaims_of_touching inTargets kept, kept⟩

/-- So settling leaves the pointers of a routing as they are exactly if no claim that reaches one
of them is stale. -/
theorem touching_resolveClaims_eq_iff :
    (routing.next .resolveClaims).touching = routing.touching ↔
      ∀ pointer ∈ routing.touching, pointer ∈ routing.allPilfered →
        ∃ target ∈ routing.targets, pointer ∈ target.touching ∧ pointer ∈ target.pilfered := by
  constructor
  · intro same pointer touched
    rw [← same, mem_touching_resolveClaims] at touched
    exact touched.2
  · intro live
    apply PointerSet.ext_mem
    intro pointer
    rw [mem_touching_resolveClaims]
    exact and_iff_left_of_imp (live pointer)

/-- A spy claims two pointers, one of them is lifted, and then it lands in the app. -/
def staleHistory : List Operation :=
  [.touch .spy .none (.ofList [1, 2]) none, .pilfer Window.spy.token, .lift 1,
    .touch .app .none (.singleton 1) none]

/-- Coherence along every history of a routing's own operations. No window has two targets. One
that is incoherent on a pointer had the pointer land in it since claims were last settled;
settling leaves no window incoherent; and no operation but touching makes one incoherent that was
not. -/
theorem incoherent_only_by_landing (history : List Operation)
    (own : ∀ operation ∈ history, operation.isOwn = true) :
    ((({} : Routing).after history).targets.map Target.window).Nodup ∧
    (∀ target pointer, (({} : Routing).after history).Incoherent target pointer →
      ∃ earlier flags pointers time later,
        history = earlier ++ .touch target.window flags pointers time :: later ∧
          pointer ∈ pointers ∧ .resolveClaims ∉ later) ∧
    (∀ target pointer,
      ¬((({} : Routing).after history).next .resolveClaims).Incoherent target pointer) ∧
    (∀ operation : Operation, operation.isOwn = true →
      (∀ window flags pointers time, operation ≠ .touch window flags pointers time) →
      ∀ target pointer,
        ((({} : Routing).after history).next operation).Incoherent target pointer →
          ∃ old, old.window = target.window ∧
            (({} : Routing).after history).Incoherent old pointer) := by
  refine ⟨nodup_windows_after (by simp), ?_, ?_, ?_⟩
  · intro target pointer incoherent
    obtain ⟨earlier, landing, later, rfl, lands, unsettled, _⟩ :=
      landing_of_incoherent own incoherent
    obtain ⟨flags, pointers, time, rfl, landed⟩ :=
      Operation.eq_touch_of_lands (own landing (by simp)) lands
    exact ⟨earlier, flags, pointers, time, later, rfl, landed, unsettled⟩
  · intro target pointer
    exact not_incoherent_resolved
  · intro operation isOwn noTouch target pointer incoherent
    rcases incoherent_of_next isOwn incoherent with lands | before
    · obtain ⟨flags, pointers, time, touches, _⟩ := Operation.eq_touch_of_lands isOwn lands
      exact absurd touches (noTouch _ _ _ _)
    · exact before

/-- The app is incoherent on the pointer that the spy claimed and lifted: it has landed there. -/
theorem app_incoherent_by_landing :
    (({} : Routing).after staleHistory).Incoherent
        { window := .app, touching := .singleton 1 } 1 ∧
      ∃ earlier flags pointers time later,
        staleHistory = earlier ++ .touch .app flags pointers time :: later ∧
          1 ∈ pointers ∧ .resolveClaims ∉ later :=
  ⟨by decide,
    (incoherent_only_by_landing staleHistory (by decide)).2.1
      { window := .app, touching := .singleton 1 } 1 (by decide)⟩

/-- Settling claims does not leave the touching pointers of a routing as they are: a claim that
its claimant no longer touches strips the pointer from the window it has landed in since. -/
theorem stale_claim_strips :
    ¬∀ history : List Operation, (∀ operation ∈ history, operation.isOwn = true) →
      ((({} : Routing).after history).next .resolveClaims).touching =
        (({} : Routing).after history).touching := by
  intro always
  have same := always staleHistory (by decide)
  exact absurd same (by decide)

/-- What settling takes from a routing, along every history of its own operations. A pointer is
lost exactly if it is claimed and none of its claimants receives it any more, and none is lost
exactly if there is no such pointer. To lose one takes a landing since claims were last settled,
in a window that did not claim the pointer while another did. -/
theorem settling_strips_stale_claims_only (history : List Operation)
    (own : ∀ operation ∈ history, operation.isOwn = true) :
    (∀ pointer, pointer ∈ ((({} : Routing).after history).next .resolveClaims).touching ↔
      pointer ∈ (({} : Routing).after history).touching ∧
        (pointer ∈ (({} : Routing).after history).allPilfered →
          ∃ target ∈ (({} : Routing).after history).targets,
            pointer ∈ target.touching ∧ pointer ∈ target.pilfered)) ∧
    (((({} : Routing).after history).next .resolveClaims).touching =
        (({} : Routing).after history).touching ↔
      ∀ pointer ∈ (({} : Routing).after history).touching,
        pointer ∈ (({} : Routing).after history).allPilfered →
          ∃ target ∈ (({} : Routing).after history).targets,
            pointer ∈ target.touching ∧ pointer ∈ target.pilfered) ∧
    (∀ pointer ∈ (({} : Routing).after history).touching,
      pointer ∉ ((({} : Routing).after history).next .resolveClaims).touching →
        ∃ earlier window flags pointers time later,
          history = earlier ++ .touch window flags pointers time :: later ∧
            pointer ∈ pointers ∧ .resolveClaims ∉ later ∧
            ∃ landed, landed.window = window ∧
              (({} : Routing).after
                (earlier ++ [.touch window flags pointers time])).Incoherent landed pointer) := by
  refine ⟨?_, touching_resolveClaims_eq_iff, ?_⟩
  · intro pointer
    exact mem_touching_resolveClaims
  · intro pointer touched lost
    rw [mem_touching_resolveClaims, not_and, Classical.not_imp] at lost
    obtain ⟨claimed, stale⟩ := lost touched
    obtain ⟨target, inTargets, received⟩ := mem_touching.mp touched
    have notOwn : pointer ∉ target.pilfered := fun claims =>
      stale ⟨target, inTargets, received, claims⟩
    have incoherent : (({} : Routing).after history).Incoherent target pointer :=
      ⟨inTargets, received, notOwn, mem_allPilfered.mp claimed⟩
    obtain ⟨earlier, landing, later, rfl, lands, unsettled, landed, here, since⟩ :=
      landing_of_incoherent own incoherent
    obtain ⟨flags, pointers, time, rfl, given⟩ :=
      Operation.eq_touch_of_lands (own landing (by simp)) lands
    exact ⟨earlier, target.window, flags, pointers, time, later, rfl, given, unsettled, landed,
      here, since⟩

/-- The pointer that the app loses to the spy's stale claim has landed in it under that claim. -/
theorem app_stripped_after_landing :
    1 ∉ ((({} : Routing).after staleHistory).next .resolveClaims).touching ∧
      ∃ earlier window flags pointers time later,
        staleHistory = earlier ++ .touch window flags pointers time :: later ∧
          1 ∈ pointers ∧ .resolveClaims ∉ later ∧
          ∃ landed, landed.window = window ∧
            (({} : Routing).after
              (earlier ++ [.touch window flags pointers time])).Incoherent landed 1 :=
  ⟨by decide,
    (settling_strips_stale_claims_only staleHistory (by decide)).2.2 1 (by decide) (by decide)⟩

end Routing

end PointerRouting
