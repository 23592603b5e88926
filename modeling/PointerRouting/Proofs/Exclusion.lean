/-
Module: PointerRouting.Proofs.Exclusion
Purpose: A claim excludes everybody else. What a connection has pilfered is received by its own
  windows only, and stays so along every history that does not land it elsewhere; whoever asks
  later gets none of it, in whatever order they ask.
Main exports: Routing.ReservedFor, Routing.reserved_pilfer, Routing.reserved_next,
  Routing.reserved_after, Routing.first_claimant_wins
-/
import PointerRouting.Proofs.Histories
import PointerRouting.Proofs.Samples

namespace PointerRouting

namespace Routing

/-- Only windows that carry the token receive any of the pointers. -/
def ReservedFor (token : Token) (pointers : PointerSet) (routing : Routing) : Prop :=
  ∀ target ∈ routing.targets, ∀ pointer ∈ pointers,
    pointer ∈ target.touching → target.window.token = token

variable {routing : Routing} {token : Token} {pointers : PointerSet}

/-- A pilfer reserves what it claims. -/
theorem reserved_pilfer (routing : Routing) (token : Token) :
    (routing.next (.pilfer token)).ReservedFor token (routing.pilfer token).claimed := by
  intro target inTargets pointer claimed touched
  rcases mem_next inTargets with ⟨old, _, alters⟩ | adds
  · exact (alters.own_claim_of_pilfer claimed touched).1
  · cases adds

/-- An operation keeps pointers reserved if it lands none of them elsewhere. -/
theorem reserved_next {operation : Operation} (reserved : routing.ReservedFor token pointers)
    (inside : ∀ window, ∀ pointer ∈ pointers,
      operation.Lands window pointer → window.token = token) :
    (routing.next operation).ReservedFor token pointers := by
  intro target inTargets pointer given touched
  rcases touch_of_next inTargets touched with ⟨old, inOld, same, before⟩ | lands
  · rw [← same]
    exact reserved old inOld pointer given before
  · exact inside target.window pointer given lands

theorem reserved_after {history : List Operation} (reserved : routing.ReservedFor token pointers)
    (inside : ∀ operation ∈ history, ∀ window, ∀ pointer ∈ pointers,
      operation.Lands window pointer → window.token = token) :
    (routing.after history).ReservedFor token pointers := by
  induction history generalizing routing with
  | nil => exact reserved
  | cons operation history ih =>
      apply ih
      · exact reserved_next reserved (inside operation List.mem_cons_self)
      · intro later member
        exact inside later (List.mem_cons_of_mem _ member)

/-- Nobody else can claim what is reserved. -/
theorem not_mem_claimed_of_reserved {other : Token} (reserved : routing.ReservedFor token pointers)
    (different : other ≠ token) {pointer : PointerId} (given : pointer ∈ pointers) :
    pointer ∉ (routing.pilfer other).claimed := by
  intro claimed
  obtain ⟨target, inTargets, carries, touched⟩ := mem_claimed_pilfer.mp claimed
  exact different (carries.symm.trans (reserved target inTargets pointer given touched))

/-- The first claimant wins. After a connection has pilfered, along every history that lands none
of the pilfered pointers in a window of another connection, whoever receives one of them carries
the token, and whatever another connection pilfers on the way is disjoint from them. -/
theorem first_claimant_wins (routing : Routing) (token : Token) (history : List Operation)
    (inside : ∀ operation ∈ history, ∀ window, ∀ pointer ∈ (routing.pilfer token).claimed,
      operation.Lands window pointer → window.token = token) :
    (∀ target ∈ ((routing.next (.pilfer token)).after history).targets,
      ∀ pointer ∈ (routing.pilfer token).claimed,
        pointer ∈ target.touching → target.window.token = token) ∧
    (∀ earlier other later, history = earlier ++ .pilfer other :: later → other ≠ token →
      ∀ pointer ∈ (routing.pilfer token).claimed,
        pointer ∉ (((routing.next (.pilfer token)).after earlier).pilfer other).claimed) := by
  constructor
  · exact reserved_after (reserved_pilfer routing token) inside
  · intro earlier other later split different pointer claimed
    have insideEarlier : ∀ operation ∈ earlier, ∀ window,
        ∀ pointer ∈ (routing.pilfer token).claimed,
          operation.Lands window pointer → window.token = token := by
      intro operation member
      exact inside operation (split ▸ List.mem_append_left _ member)
    have reserved := reserved_after (reserved_pilfer routing token) insideEarlier
    exact not_mem_claimed_of_reserved reserved different claimed

/-- Both windows receive pointer 1. The spy claims it and 2, another pointer lands in the app, and
the app claims in its turn. -/
theorem spy_excludes_app :
    let shared : Routing := ({} : Routing).after
      [.touch .spy .none (.ofList [1, 2]) none, .touch .app .none (.ofList [1, 3]) none]
    (shared.pilfer Window.spy.token).claimed = .ofList [1, 2] ∧
      (((shared.next (.pilfer Window.spy.token)).after
        [.touch .app .none (.singleton 4) none]).pilfer Window.app.token).claimed =
          .ofList [3, 4] ∧
      1 ∉ (((shared.next (.pilfer Window.spy.token)).after
        [.touch .app .none (.singleton 4) none]).pilfer Window.app.token).claimed := by
  intro shared
  refine ⟨by decide, by decide, ?_⟩
  have inside : ∀ operation ∈ ([.touch .app .none (.singleton 4) none,
        .pilfer Window.app.token] : List Operation), ∀ window,
      ∀ pointer ∈ (shared.pilfer Window.spy.token).claimed,
        operation.Lands window pointer → window.token = Window.spy.token := by
    intro operation member window pointer claimed lands
    simp only [List.mem_cons, List.not_mem_nil, or_false] at member
    rcases member with rfl | rfl
    · obtain ⟨_, landed⟩ := lands
      rw [PointerSet.mem_singleton] at landed
      subst landed
      exact absurd claimed (by decide)
    · cases lands
  exact (first_claimant_wins shared Window.spy.token _ inside).2
    [.touch .app .none (.singleton 4) none] Window.app.token [] rfl (by decide) 1 (by decide)

end Routing

end PointerRouting
