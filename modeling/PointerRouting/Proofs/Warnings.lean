/-
Module: PointerRouting.Proofs.Warnings
Purpose: When a router warns. Of all operations two give concerns: settling claims, where a pointer
  is claimed by more than one window, and a pilfer by a connection that touches nothing. In
  developer mode a concern is raised unless one about the same issue has been raised before, at
  whatever step of the history, and a reset does not make that forgotten.
Main exports: Operation.concern?, Operation.concerns_apply, Routing.mem_overlapping,
  Monitor.warns_observeAll, Router.concerns, Router.HasRaised, Router.mem_raised_iff_hasRaised,
  Router.warnings_once_per_issue
-/
import PointerRouting.Proofs.Audit
import PointerRouting.Proofs.FreshStart

namespace PointerRouting

/-- Whether a notice is a concern. -/
def Notice.isConcern (notice : Notice) : Bool := notice.issue?.isSome

/-- The concern that an operation gives, if it gives one. -/
def Operation.concern? (routing : Routing) : Operation → Option Notice
  | resolveClaims =>
    if routing.overlapping ≠ ∅ then some (.overlappingClaims routing.overlapping) else none
  | pilfer token =>
    if (routing.pilfer token).claimed = ∅ then some (.idleClaim token routing.device) else none
  | _ => none

theorem Notice.concerns_map {targets : List Target} {tell : Target → Notice}
    (plain : ∀ target, (tell target).isConcern = false) :
    (targets.map tell).filter isConcern = [] := by
  rw [List.filter_eq_nil_iff]
  simp [plain]

namespace Routing

variable {routing : Routing}

theorem concerns_prune (reason : PruneReason) :
    (routing.prune reason).notices.filter Notice.isConcern = [] := by
  rw [prune_eq]
  exact Notice.concerns_map fun _ => rfl

/-- The overlap that adding targets accumulates: a pointer joins it when a target claims it that was
seen before, be it before these targets or among them. -/
theorem mem_overlap_addClaims {pointer : PointerId} (targets : List Target)
    (seen overlap : PointerSet) :
    pointer ∈ (targets.foldl addClaims (seen, overlap)).2 ↔
      pointer ∈ overlap ∨
        2 ≤ targets.countP (fun target => pointer ∈ target.pilfered) ∨
          pointer ∈ seen ∧ 1 ≤ targets.countP fun target => pointer ∈ target.pilfered := by
  induction targets generalizing seen overlap with
  | nil => simp
  | cons target rest ih =>
      rw [List.foldl_cons, addClaims, ih, PointerSet.mem_union, PointerSet.mem_union,
        PointerSet.mem_inter]
      by_cases own : pointer ∈ target.pilfered
      · have counted : (target :: rest).countP (fun other => pointer ∈ other.pilfered) =
            rest.countP (fun other => pointer ∈ other.pilfered) + 1 :=
          List.countP_cons_of_pos (decide_eq_true own)
        rw [counted]
        grind
      · have passedOver : (target :: rest).countP (fun other => pointer ∈ other.pilfered) =
            rest.countP fun other => pointer ∈ other.pilfered :=
          List.countP_cons_of_neg (by simpa using own)
        rw [passedOver]
        tauto

theorem mem_overlapping {pointer : PointerId} :
    pointer ∈ routing.overlapping ↔
      2 ≤ routing.targets.countP fun target => pointer ∈ target.pilfered := by
  rw [overlapping, mem_overlap_addClaims]
  simp

/-- What is claimed twice is claimed. -/
theorem overlapping_of_unclaimed (unclaimed : routing.allPilfered = ∅) :
    routing.overlapping = ∅ := by
  rw [PointerSet.eq_empty_iff]
  intro pointer shared
  have claimants : 0 < routing.targets.countP fun target => pointer ∈ target.pilfered :=
    Nat.lt_of_lt_of_le Nat.zero_lt_two (mem_overlapping.mp shared)
  obtain ⟨target, inTargets, claims⟩ := List.countP_pos_iff.mp claimants
  exact PointerSet.eq_empty_iff.mp unclaimed pointer
    (mem_allPilfered.mpr ⟨target, inTargets, of_decide_eq_true claims⟩)

theorem claimed_pilfer_eq_empty_iff {token : Token} :
    (routing.pilfer token).claimed = ∅ ↔
      ∀ target ∈ routing.targets, target.window.token = token → target.touching = ∅ := by
  constructor
  · intro idle target inTargets carries
    rw [PointerSet.eq_empty_iff]
    intro pointer touched
    exact PointerSet.eq_empty_iff.mp idle pointer
      (mem_claimed_pilfer.mpr ⟨target, inTargets, carries, touched⟩)
  · intro untouched
    rw [PointerSet.eq_empty_iff]
    intro pointer claimed
    obtain ⟨target, inTargets, carries, touched⟩ := mem_claimed_pilfer.mp claimed
    exact PointerSet.eq_empty_iff.mp (untouched target inTargets carries) pointer touched

end Routing

/-- Among the notices of an operation there is one concern at most. -/
theorem Operation.concerns_apply (operation : Operation) (routing : Routing) :
    (operation.apply routing).notices.filter Notice.isConcern =
      (operation.concern? routing).toList := by
  cases operation with
  | resolveClaims =>
      by_cases unclaimed : routing.allPilfered = ∅
      · rw [apply, Routing.resolveClaims_of_unclaimed unclaimed, concern?,
          if_neg (not_not_intro (Routing.overlapping_of_unclaimed unclaimed))]
        rfl
      · rw [apply, Routing.notices_resolveClaims _ unclaimed, List.filter_append,
          List.filter_append, Notice.concerns_map fun _ => rfl, Notice.concerns_map fun _ => rfl,
          concern?]
        simp only [PointerSet.isEmpty_iff_eq, ne_eq, ite_not]
        split <;> rfl
  | pilfer token =>
      by_cases idle : (routing.pilfer token).claimed = ∅
      · rw [concern?, if_pos idle]
        rw [Routing.claimed_pilfer, ← PointerSet.isEmpty_iff_eq] at idle
        simp [apply, Routing.pilfer, idle, Notice.isConcern, Notice.issue?]
      · rw [apply, Routing.notices_pilfer _ _ idle, List.filter_append, List.filter_append,
          Notice.concerns_map fun _ => rfl, Notice.concerns_map fun _ => rfl, concern?, if_neg idle]
        rfl
  | bind device source =>
      simp only [apply, Routing.bind]
      split <;> rfl
  | reset => rfl
  | lift pointer => rfl
  | liftFrom pointer window =>
      simp only [apply, Routing.liftFrom_eq]
      split
      · rfl
      · split <;> rfl
  | endHovers => rfl
  | prune => exact Routing.concerns_prune _
  | touch window flags pointers time =>
      simp only [apply, Routing.touch]
      split
      · split <;> rfl
      · rfl
  | hover window device pointer =>
      simp only [apply, Routing.hover]
      split
      · rfl
      · rfl
      · split <;> rfl
  | removeToken token =>
      simp only [apply, Routing.removeToken]
      split <;> rfl
  | commit =>
      rw [apply, Routing.commit_eq]
      exact Notice.concerns_map fun _ => rfl
  | cancelExcept pointers token =>
      by_cases given : pointers = ∅
      · subst given
        rfl
      · rw [apply, Routing.notices_cancelExcept _ _ _ given, List.filter_append,
          Notice.concerns_map fun _ => rfl, Notice.concerns_map fun _ => rfl]
        rfl
  | unhover device pointer =>
      cases valid : checkPointer pointer with
      | error violation => simp [apply, Routing.unhover, valid, Routing.refuse, concern?]
      | ok id =>
          rw [apply, Routing.unhover_of_valid valid]
          exact Routing.concerns_prune _
  | unhoverDevice device => exact Routing.concerns_prune _
  | revise window change =>
      simp only [apply, Routing.revise_eq]
      split
      · rfl
      · split <;> rfl

namespace Monitor

variable {monitor : Monitor} {notice : Notice}

/-- A plain notice leaves a monitor as it is. -/
theorem observe_of_plain (plain : notice.isConcern = false) :
    (monitor.observe notice).1 = monitor := by
  have about : notice.issue? = none := by simpa [Notice.isConcern] using plain
  rw [observe, about]

/-- Plain notices do not matter for which concerns are passed on. -/
theorem concerns_passed (notices : List Notice) :
    (monitor.passed notices).filter Notice.isConcern =
      monitor.passed (notices.filter Notice.isConcern) := by
  induction notices generalizing monitor with
  | nil => rfl
  | cons notice rest ih =>
      rw [passed, List.filter_append, ih]
      cases concern : notice.isConcern with
      | false =>
          rw [observe_of_plain concern, List.filter_cons_of_neg (by simp [concern])]
          split <;> simp [concern]
      | true =>
          rw [List.filter_cons_of_pos concern, passed]
          split <;> simp [concern]

theorem passed_toList (notice? : Option Notice) :
    monitor.passed notice?.toList = (notice?.filter monitor.passes).toList := by
  cases notice? with
  | none => rfl
  | some notice =>
      rw [Option.toList_some, passed, passed, List.append_nil, Option.filter_some]
      split <;> rfl

/-- A concern is announced as a warning, to whoever records and to whoever listens. -/
theorem announce_of_concern (options : Options) (concern : notice.isConcern = true) :
    announce options notice =
      (if options.records then [.record .pilfer .warn notice.message] else []) ++
        if options.warns then [.warning ("[touchroute][pilfer] " ++ notice.message)] else [] := by
  cases notice with
  | overlappingClaims | idleClaim => rfl
  | _ => cases concern

/-- Of what leaves a monitor, the announced concerns warn. -/
theorem warns_observeAll (notices : List Notice) :
    (monitor.observeAll notices).2.filter Event.warns =
      ((monitor.passed notices).filter Notice.isConcern).flatMap (announce monitor.options) := by
  rw [events_observeAll]
  induction monitor.passed notices with
  | nil => rfl
  | cons notice rest ih =>
      rw [List.flatMap_cons, List.filter_append, ih]
      cases concern : notice.isConcern with
      | false =>
          have silent : (announce monitor.options notice).filter Event.warns = [] := by
            rw [List.filter_eq_nil_iff]
            intro event announced
            simpa [warns_of_mem_announce announced, Notice.isConcern] using concern
          rw [silent, List.filter_cons_of_neg (by simp [concern]), List.nil_append]
      | true =>
          have allWarn : (announce monitor.options notice).filter Event.warns =
              announce monitor.options notice := by
            rw [List.filter_eq_self]
            intro event announced
            rw [warns_of_mem_announce announced]
            exact concern
          rw [allWarn, List.filter_cons_of_pos concern, List.flatMap_cons]

end Monitor

namespace Router

/-- The concerns that a router raises when it carries an operation out. -/
def concerns (router : Router) (operation : Operation) : List Notice :=
  (router.monitor.passed (operation.apply router.routing).notices).filter Notice.isConcern

/-- At some step of a history the router has raised a concern about an issue. -/
def HasRaised (router : Router) (history : List Operation) (issue : Issue) : Prop :=
  ∃ earlier operation later, history = earlier ++ operation :: later ∧
    ∃ concern ∈ (router.after earlier).concerns operation, concern.issue? = some issue

variable {router : Router} {operation : Operation} {history : List Operation} {issue : Issue}

/-- An operation raises the concern that it gives, unless its issue has been raised. -/
theorem concerns_eq (router : Router) (operation : Operation) :
    router.concerns operation =
      ((operation.concern? router.routing).filter router.monitor.passes).toList := by
  rw [concerns, Monitor.concerns_passed, Operation.concerns_apply, Monitor.passed_toList]

theorem mem_raised_next :
    issue ∈ (router.next operation).monitor.raised ↔
      issue ∈ router.monitor.raised ∨
        ∃ concern ∈ router.concerns operation, concern.issue? = some issue := by
  have step : issue ∈ (router.next operation).monitor.raised ↔ _ :=
    Monitor.mem_raised_observeAll _ _
  rw [step, List.mem_filterMap]
  apply or_congr_right
  constructor
  · rintro ⟨notice, passed, about⟩
    exact ⟨notice, List.mem_filter.mpr ⟨passed, by simp [Notice.isConcern, about]⟩, about⟩
  · rintro ⟨notice, raised, about⟩
    exact ⟨notice, (List.mem_filter.mp raised).1, about⟩

theorem hasRaised_cons :
    router.HasRaised (operation :: history) issue ↔
      (∃ concern ∈ router.concerns operation, concern.issue? = some issue) ∨
        (router.next operation).HasRaised history issue := by
  constructor
  · rintro ⟨earlier, other, later, split, raised⟩
    cases earlier with
    | nil =>
        cases split
        exact .inl raised
    | cons first earlier =>
        cases split
        exact .inr ⟨earlier, other, later, rfl, raised⟩
  · rintro (raised | ⟨earlier, other, later, rfl, raised⟩)
    · exact ⟨[], operation, history, rfl, raised⟩
    · exact ⟨operation :: earlier, other, later, rfl, raised⟩

/-- A monitor remembers what it had raised and the issues that concerns were raised about. -/
theorem mem_raised_iff_hasRaised :
    issue ∈ (router.after history).monitor.raised ↔
      issue ∈ router.monitor.raised ∨ router.HasRaised history issue := by
  induction history generalizing router with
  | nil => simp [HasRaised]
  | cons operation history ih => rw [after_cons, ih, mem_raised_next, hasRaised_cons, or_assoc]

/-- Whether a router made anew has raised a concern is read off its memory. -/
instance (options : Monitor.Options) (history : List Operation) (issue : Issue) :
    Decidable ((make options).HasRaised history issue) :=
  decidable_of_iff (issue ∈ ((make options).after history).monitor.raised)
    (mem_raised_iff_hasRaised.trans (or_iff_right List.not_mem_nil))

theorem concerns_of_quiet (quiet : operation.concern? router.routing = none) :
    router.concerns operation = [] := by
  rw [concerns_eq, quiet]
  rfl

/-- In developer mode an operation that may give a concern raises it exactly when it gives it and
the issue is a new one. -/
theorem concerns_of_devMode {notice : Notice} {gives : Prop} [Decidable gives]
    (concern : operation.concern? router.routing = if gives then some notice else none)
    (about : notice.issue? = some issue) (devMode : router.monitor.options.devMode = true) :
    (router.concerns operation ≠ [] ↔ gives ∧ issue ∉ router.monitor.raised) ∧
      (router.concerns operation ≠ [] → router.concerns operation = [notice]) := by
  have passes : router.monitor.passes notice = true ↔ issue ∉ router.monitor.raised := by
    simp [Monitor.passes, about, devMode]
  rw [concerns_eq, concern, ← passes]
  by_cases given : gives <;> cases news : router.monitor.passes notice <;> simp [given, news]

theorem concerns_of_no_devMode (devMode : router.monitor.options.devMode = false) :
    router.concerns operation = [] := by
  rw [concerns_eq, Option.toList_eq_nil_iff, Option.filter_eq_none_iff]
  intro notice gives
  have concern : notice ∈ (operation.apply router.routing).notices.filter Notice.isConcern := by
    rw [Operation.concerns_apply, gives]
    exact List.mem_singleton_self notice
  obtain ⟨issue, about⟩ := Option.isSome_iff_exists.mp (List.mem_filter.mp concern).2
  simp [Monitor.passes, about, devMode]

/-- Warnings come once per issue, in every router that a history leaves, whatever operations it is
made of. What warns at a step are the concerns that are raised at it, each as one line for whoever
records and one call for whoever listens. Without developer mode there are none. In developer mode
settling claims raises one exactly when some pointer is claimed by two windows or more and no step
before has raised a concern about just the pointers that are, and its message lists these pointers;
a pilfer raises one exactly when no window of the token receives a pointer and no step before has
raised a concern about this token; and no other operation raises any. -/
theorem warnings_once_per_issue (options : Monitor.Options) (history : List Operation) :
    let fresh := make options
    let router := fresh.after history
    (∀ operation, (router.step operation).events.filter Event.warns =
      (router.concerns operation).flatMap fun concern =>
        (if options.records then [.record .pilfer .warn concern.message] else []) ++
          if options.warns then [.warning ("[touchroute][pilfer] " ++ concern.message)] else []) ∧
    (options.devMode = false → ∀ operation, router.concerns operation = []) ∧
    (options.devMode = true →
      (∃ contested : PointerSet,
        (∀ pointer, pointer ∈ contested ↔
          2 ≤ router.routing.targets.countP fun target => pointer ∈ target.pilfered) ∧
        (router.concerns .resolveClaims ≠ [] ↔
          contested ≠ ∅ ∧ ¬fresh.HasRaised history (.overlap contested)) ∧
        (router.concerns .resolveClaims ≠ [] →
          router.concerns .resolveClaims = [.overlappingClaims contested]) ∧
        (Notice.overlappingClaims contested).message = "pointers " ++
          ("[" ++ joined ", " (contested.toList.map fun pointer => Number.intText pointer.val) ++
            "]") ++ " are pilfered by more than one window.") ∧
      (∀ token,
        (router.concerns (.pilfer token) ≠ [] ↔
          (∀ target ∈ router.routing.targets, target.window.token = token →
            target.touching = ∅) ∧ ¬fresh.HasRaised history (.idleClaim token)) ∧
        (router.concerns (.pilfer token) ≠ [] →
          router.concerns (.pilfer token) = [.idleClaim token router.routing.device])) ∧
      ∀ operation, operation ≠ .resolveClaims → (∀ token, operation ≠ .pilfer token) →
        router.concerns operation = []) := by
  intro fresh router
  have kept : router.monitor.options = options := options_after _ _
  have remembers : ∀ issue, issue ∈ router.monitor.raised ↔ fresh.HasRaised history issue :=
    fun _ => mem_raised_iff_hasRaised.trans (or_iff_right List.not_mem_nil)
  refine ⟨?_, ?_, ?_⟩
  · intro operation
    change (router.monitor.observeAll (operation.apply router.routing).notices).2.filter _ = _
    rw [Monitor.warns_observeAll, kept]
    apply List.flatMap_congr
    intro concern raised
    exact Monitor.announce_of_concern options (List.mem_filter.mp raised).2
  · intro devMode operation
    exact concerns_of_no_devMode (kept ▸ devMode)
  · intro devMode
    rw [← kept] at devMode
    refine ⟨⟨router.routing.overlapping, fun _ => Routing.mem_overlapping, ?_⟩, ?_, ?_⟩
    · have settling : Operation.resolveClaims.concern? router.routing =
          if router.routing.overlapping ≠ ∅ then
            some (.overlappingClaims router.routing.overlapping)
          else none := rfl
      obtain ⟨raised, alone⟩ := concerns_of_devMode settling rfl devMode
      refine ⟨?_, alone, rfl⟩
      rw [raised, remembers]
    · intro token
      have claiming : (Operation.pilfer token).concern? router.routing =
          if (router.routing.pilfer token).claimed = ∅ then
            some (.idleClaim token router.routing.device)
          else none := rfl
      obtain ⟨raised, alone⟩ := concerns_of_devMode claiming rfl devMode
      refine ⟨?_, alone⟩
      rw [raised, remembers, Routing.claimed_pilfer_eq_empty_iff]
    · intro operation notSettling notClaiming
      apply concerns_of_quiet
      cases operation with
      | resolveClaims => exact absurd rfl notSettling
      | pilfer token => exact absurd rfl (notClaiming token)
      | _ => rfl

/-- A connection has claimed without touching anything. After a reset it claims in vain again,
which is no news, and so does another connection under the same label, which is. -/
theorem another_token_warns_under_the_same_label :
    let router := (make { devMode := true, warns := true }).after [.pilfer Window.spy.token, .reset]
    let other : Token := { Window.spy.token with serial := 2 }
    router.concerns (.pilfer Window.spy.token) = [] ∧
      router.concerns (.pilfer other) = [.idleClaim other unboundDevice] := by
  intro router other
  obtain ⟨_, _, raises⟩ := warnings_once_per_issue { devMode := true, warns := true }
    [.pilfer Window.spy.token, .reset]
  obtain ⟨_, claims, _⟩ := raises rfl
  constructor
  · by_contra again
    exact ((claims Window.spy.token).1.mp again).2 (by decide)
  · exact (claims other).2 ((claims other).1.mpr (by decide))

/-- The spy claims pointers 1 and 2, and the app lands with 1 and claims it as well. Settling that
twice, with a reset and the same dispute in between, raises one concern. -/
example :
    let dispute : List Operation :=
      [.touch .spy .none (.ofList [1, 2]) none, .pilfer Window.spy.token,
        .touch .app .none (.singleton 1) none, .pilfer Window.app.token, .resolveClaims]
    ((make { devMode := true }).heard (dispute ++ .reset :: dispute)).filterMap Notice.issue? =
      [.overlap (.singleton 1)] := by
  decide

end Router

end PointerRouting
