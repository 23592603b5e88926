/-
Module: PointerRouting.Proofs.Contention
Purpose: When windows of two connections come to claim one pointer. A claim comes from a pilfer of
  its connection and stays as long as its target lives, so a second connection can claim the
  pointer only after it has landed in a window of its own, under the first claim. Histories
  without such a landing keep the claims of different connections apart.
Main exports: Routing.ClaimedAfter, Routing.LandedUnderClaim, Routing.HandedOn,
  Routing.pilfered_of_claimed, Routing.landed_of_received, Routing.handedOn_of_contested,
  Routing.claims_of_connections_meet, Routing.contested_only_by_handing_on
-/
import Mathlib.Data.List.Induction
import PointerRouting.Proofs.Exclusion

namespace PointerRouting

namespace Routing

/-- A window claims a pointer after a history. -/
def ClaimedAfter (history : List Operation) (window : Window) (pointer : PointerId) : Prop :=
  ∃ target ∈ (({} : Routing).after history).targets,
    target.window = window ∧ pointer ∈ target.pilfered

/-- On the way through a history, a pilfer of the connection has claimed the pointer. -/
def Pilfered (history : List Operation) (token : Token) (pointer : PointerId) : Prop :=
  ∃ earlier later, history = earlier ++ .pilfer token :: later ∧
    pointer ∈ ((({} : Routing).after earlier).pilfer token).claimed

/-- On the way through a history, a pointer that the first window's connection had pilfered, and
that the first window still claimed, has landed in the second window. -/
def LandedUnderClaim (history : List Operation) (first second : Window) (pointer : PointerId) :
    Prop :=
  ∃ earlier flags pointers time later,
    history = earlier ++ .touch second flags pointers time :: later ∧ pointer ∈ pointers ∧
      Pilfered earlier first.token pointer ∧ ClaimedAfter earlier first pointer

/-- A pointer has landed in the second window under a claim of the first one, and after that the
second window's connection has pilfered it too. -/
def HandedOn (history : List Operation) (first second : Window) (pointer : PointerId) : Prop :=
  ∃ earlier later, history = earlier ++ .pilfer second.token :: later ∧
    LandedUnderClaim earlier first second pointer ∧
    pointer ∈ ((({} : Routing).after earlier).pilfer second.token).claimed

variable {history : List Operation} {first second : Window} {pointer : PointerId}

theorem Pilfered.append {token : Token} (pilfered : Pilfered history token pointer)
    (more : List Operation) : Pilfered (history ++ more) token pointer := by
  obtain ⟨earlier, later, rfl, claimed⟩ := pilfered
  exact ⟨earlier, later ++ more, by simp, claimed⟩

theorem LandedUnderClaim.append (landed : LandedUnderClaim history first second pointer)
    (more : List Operation) : LandedUnderClaim (history ++ more) first second pointer := by
  obtain ⟨earlier, flags, pointers, time, later, rfl, rest⟩ := landed
  exact ⟨earlier, flags, pointers, time, later ++ more, by simp, rest⟩

theorem HandedOn.append (handedOn : HandedOn history first second pointer)
    (more : List Operation) : HandedOn (history ++ more) first second pointer := by
  obtain ⟨earlier, later, rfl, rest⟩ := handedOn
  exact ⟨earlier, later ++ more, by simp, rest⟩

/-- Where pointers land under no claim of another connection, they are handed on within one
connection only. -/
theorem HandedOn.same_token (handedOn : HandedOn history first second pointer)
    (inside : ∀ earlier window flags pointers time later,
      history = earlier ++ .touch window flags pointers time :: later →
        ∀ claimant ∈ (({} : Routing).after earlier).targets, ∀ pointer ∈ pointers,
          pointer ∈ claimant.pilfered → claimant.window.token = window.token) :
    first.token = second.token := by
  obtain ⟨_, later, rfl, landed, _⟩ := handedOn
  obtain ⟨earlier, flags, pointers, time, since, rfl, given, _, claimed⟩ := landed
  obtain ⟨claimant, inTargets, rfl, claims⟩ := claimed
  exact inside earlier second flags pointers time (since ++ .pilfer second.token :: later)
    (by simp) claimant inTargets pointer given claims

/-- Whatever a window claims, a pilfer of its connection has claimed. -/
theorem pilfered_of_claimed (own : ∀ operation ∈ history, operation.isOwn = true)
    (claimed : ClaimedAfter history first pointer) : Pilfered history first.token pointer := by
  induction history using List.reverseRecOn with
  | nil =>
      obtain ⟨target, inTargets, _⟩ := claimed
      simp at inTargets
  | append_singleton history operation ih =>
      obtain ⟨ownBefore, ownLast⟩ := List.forall_mem_append.mp own
      have isOwn : operation.isOwn = true := ownLast operation List.mem_cons_self
      obtain ⟨claimant, inTargets, rfl, claims⟩ := claimed
      rw [after_append, after_cons, after_nil] at inTargets
      obtain ⟨old, inOld, same, before | ⟨rfl, touched⟩⟩ :=
        claim_of_next isOwn inTargets claims
      · exact (ih ownBefore ⟨old, inOld, same, before⟩).append [operation]
      · exact ⟨history, [], rfl,
          mem_claimed_pilfer.mpr ⟨old, inOld, congrArg Window.token same, touched⟩⟩

/-- Who receives a pointer that a window of another connection claims has had it land under that
claim: a pilfer leaves the pointer with its own connection, and only landings bring it back. -/
theorem landed_of_received (own : ∀ operation ∈ history, operation.isOwn = true)
    (different : first.token ≠ second.token) (claimed : ClaimedAfter history first pointer)
    {receiver : Target} (inTargets : receiver ∈ (({} : Routing).after history).targets)
    (receives : receiver.window = second) (touched : pointer ∈ receiver.touching) :
    LandedUnderClaim history first second pointer := by
  induction history using List.reverseRecOn generalizing receiver with
  | nil => simp at inTargets
  | append_singleton history operation ih =>
      obtain ⟨ownBefore, ownLast⟩ := List.forall_mem_append.mp own
      have isOwn : operation.isOwn = true := ownLast operation List.mem_cons_self
      obtain ⟨claimant, claimantIn, rfl, claims⟩ := claimed
      rw [after_append, after_cons, after_nil] at claimantIn inTargets
      obtain ⟨old, inOld, same, before | ⟨rfl, held⟩⟩ := claim_of_next isOwn claimantIn claims
      · have claimedBefore : ClaimedAfter history claimant.window pointer :=
          ⟨old, inOld, same, before⟩
        rcases touch_of_next inTargets touched with ⟨earlier, inEarlier, kept, received⟩ | lands
        · exact (ih ownBefore claimedBefore inEarlier (kept.trans receives) received).append _
        · obtain ⟨flags, pointers, time, rfl, landed⟩ := Operation.eq_touch_of_lands isOwn lands
          subst receives
          exact ⟨history, flags, pointers, time, [], rfl, landed,
            pilfered_of_claimed ownBefore claimedBefore, claimedBefore⟩
      -- The claim has just been made: whoever still receives the pointer is of the connection.
      · have made : pointer ∈ ((({} : Routing).after history).pilfer claimant.window.token).claimed :=
          mem_claimed_pilfer.mpr ⟨old, inOld, congrArg Window.token same, held⟩
        have carries := reserved_pilfer _ _ receiver inTargets pointer made touched
        exact absurd (receives ▸ carries).symm different

/-- A window that comes to claim a pointer by a pilfer takes it over from whoever of another
connection claims it. -/
theorem handedOn_of_pilfer (own : ∀ operation ∈ history, operation.isOwn = true)
    (different : first.token ≠ second.token) (claimed : ClaimedAfter history first pointer)
    {receiver : Target} (inTargets : receiver ∈ (({} : Routing).after history).targets)
    (receives : receiver.window = second) (touched : pointer ∈ receiver.touching) :
    HandedOn (history ++ [.pilfer second.token]) first second pointer := by
  have landed := landed_of_received own different claimed inTargets receives touched
  refine ⟨history, [], rfl, landed, ?_⟩
  exact mem_claimed_pilfer.mpr ⟨receiver, inTargets, congrArg Window.token receives, touched⟩

/-- A pointer that windows of two connections claim has been handed on from one to the other. -/
theorem handedOn_of_contested (own : ∀ operation ∈ history, operation.isOwn = true)
    (different : first.token ≠ second.token) (claimed : ClaimedAfter history first pointer)
    (claimedToo : ClaimedAfter history second pointer) :
    HandedOn history first second pointer ∨ HandedOn history second first pointer := by
  induction history using List.reverseRecOn with
  | nil =>
      obtain ⟨target, inTargets, _⟩ := claimed
      simp at inTargets
  | append_singleton history operation ih =>
      obtain ⟨ownBefore, ownLast⟩ := List.forall_mem_append.mp own
      have isOwn : operation.isOwn = true := ownLast operation List.mem_cons_self
      obtain ⟨one, oneIn, rfl, oneClaims⟩ := claimed
      obtain ⟨two, twoIn, rfl, twoClaims⟩ := claimedToo
      rw [after_append, after_cons, after_nil] at oneIn twoIn
      obtain ⟨oneOld, oneInOld, oneSame, oneBefore | ⟨rfl, oneTouched⟩⟩ :=
        claim_of_next isOwn oneIn oneClaims
      · obtain ⟨twoOld, twoInOld, twoSame, twoBefore | ⟨rfl, twoTouched⟩⟩ :=
          claim_of_next isOwn twoIn twoClaims
        · have handed := ih ownBefore ⟨oneOld, oneInOld, oneSame, oneBefore⟩
            ⟨twoOld, twoInOld, twoSame, twoBefore⟩
          exact handed.imp (·.append _) (·.append _)
        · exact .inl (handedOn_of_pilfer ownBefore different
            ⟨oneOld, oneInOld, oneSame, oneBefore⟩ twoInOld twoSame twoTouched)
      · obtain ⟨twoOld, twoInOld, twoSame, twoBefore | ⟨pilfers, _⟩⟩ :=
          claim_of_next isOwn twoIn twoClaims
        · exact .inr (handedOn_of_pilfer ownBefore different.symm
            ⟨twoOld, twoInOld, twoSame, twoBefore⟩ oneInOld oneSame oneTouched)
        -- One pilfer is of one connection.
        · exact absurd (Operation.pilfer.inj pilfers) different

/-- A spy claims two pointers, one of them lands in the app as well, and the app claims it. -/
def handingHistory : List Operation :=
  [.touch .spy .none (.ofList [1, 2]) none, .pilfer Window.spy.token,
    .touch .app .none (.singleton 1) none, .pilfer Window.app.token]

/-- Claims of different connections need not be disjoint: the spy, which lives on through pointer
2, still claims the pointer that the app has come to claim. -/
theorem claims_of_connections_meet :
    ¬∀ history : List Operation, (∀ operation ∈ history, operation.isOwn = true) →
      ∀ target ∈ (({} : Routing).after history).targets,
        ∀ other ∈ (({} : Routing).after history).targets,
          target.window.token ≠ other.window.token →
            ∀ pointer ∈ target.pilfered, pointer ∉ other.pilfered := by
  intro always
  have apart := always handingHistory (by decide)
    { window := .spy, touching := .singleton 2, pilfered := .ofList [1, 2] } (by decide)
    { window := .app, touching := .singleton 1, pilfered := .singleton 1 } (by decide) (by decide)
  exact apart 1 (by decide) (by decide)

/-- Claims of different connections, along every history of a routing's own operations. A pointer
that windows of two connections claim has been handed on: it has landed in one of the windows
after the other's connection had pilfered it and while the other still claimed it, and then the
connection of the one has pilfered it. So where no pointer lands in a window while a window of
another connection claims it, claims of different connections are disjoint. -/
theorem contested_only_by_handing_on (history : List Operation)
    (own : ∀ operation ∈ history, operation.isOwn = true) :
    (∀ target ∈ (({} : Routing).after history).targets,
      ∀ other ∈ (({} : Routing).after history).targets,
        target.window.token ≠ other.window.token →
          ∀ pointer, pointer ∈ target.pilfered → pointer ∈ other.pilfered →
            HandedOn history target.window other.window pointer ∨
              HandedOn history other.window target.window pointer) ∧
    ((∀ earlier window flags pointers time later,
        history = earlier ++ .touch window flags pointers time :: later →
          ∀ claimant ∈ (({} : Routing).after earlier).targets, ∀ pointer ∈ pointers,
            pointer ∈ claimant.pilfered → claimant.window.token = window.token) →
      ∀ target ∈ (({} : Routing).after history).targets,
        ∀ other ∈ (({} : Routing).after history).targets,
          target.window.token ≠ other.window.token →
            ∀ pointer ∈ target.pilfered, pointer ∉ other.pilfered) := by
  have contested : ∀ target ∈ (({} : Routing).after history).targets,
      ∀ other ∈ (({} : Routing).after history).targets,
        target.window.token ≠ other.window.token →
          ∀ pointer, pointer ∈ target.pilfered → pointer ∈ other.pilfered →
            HandedOn history target.window other.window pointer ∨
              HandedOn history other.window target.window pointer := by
    intro target inTargets other otherIn different pointer claims claimsToo
    exact handedOn_of_contested own different ⟨target, inTargets, rfl, claims⟩
      ⟨other, otherIn, rfl, claimsToo⟩
  refine ⟨contested, ?_⟩
  intro inside target inTargets other otherIn different pointer claims claimsToo
  rcases contested target inTargets other otherIn different pointer claims claimsToo with
    handed | handed
  · exact different (handed.same_token inside)
  · exact different (handed.same_token inside).symm

/-- The app claims the pointer that the spy claims: it was handed on from one to the other. -/
theorem app_claims_what_spy_claims :
    HandedOn handingHistory .spy .app 1 ∨ HandedOn handingHistory .app .spy 1 :=
  (contested_only_by_handing_on handingHistory (by decide)).1
    { window := .spy, touching := .singleton 2, pilfered := .ofList [1, 2] } (by decide)
    { window := .app, touching := .singleton 1, pilfered := .singleton 1 } (by decide) (by decide)
    1 (by decide) (by decide)

end Routing

end PointerRouting
