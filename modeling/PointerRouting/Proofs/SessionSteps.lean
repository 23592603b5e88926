/-
Module: PointerRouting.Proofs.SessionSteps
Purpose: What the operations of a session come to. Each of them concludes as the plain operation on
  its routing does: no branch on an outlet or on a memory of warnings turns it anywhere else, and no
  line that is written within a loop is in the way of the next target.
Main exports: Session.mergeInto_eq, Session.takeFrom_eq, Session.resolveClaims_eq,
  Session.pilfer_eq, Session.perform_eq, Session.ask_eq
-/
import PointerRouting.Proofs.Claims
import PointerRouting.Proofs.SessionActs
import PointerRouting.Session.Operations

namespace PointerRouting.Session

variable {World : Type} {session : Session World}

/-- Writing the line of a plain notice is telling it. -/
theorem note_eq {notice : Notice} (plain : notice.issue? = none) (session : Session World) :
    note notice session =
      session.conclude { routing := session.routing, notices := [notice] } () := by
  change EStateM.Result.ok () (session.recorded _ _ _) = .ok () (session.tell notice)
  rw [tell_of_plain plain]

theorem prune_eq (reason : PruneReason) (session : Session World) :
    prune reason session = session.conclude (session.routing.prune reason) () :=
  keepTargets_of_parts (fun target => !target.isDead) id (fun target => .pruned target.window reason)
    (fun _ _ => rfl) session

theorem commit_eq (session : Session World) :
    commit session = session.conclude session.routing.commit () :=
  keepTargets_of_parts Target.isDirect Target.settle (fun target => .filteredOut target.window)
    (fun _ _ => rfl) session

theorem bind_eq (device source : Number) (session : Session World) :
    bind device source session = session.conclude (session.routing.bind device source) () := by
  rw [bind, Routing.bind]
  cases checkDevice device <;> rfl

theorem reset_eq (session : Session World) :
    reset session = session.conclude session.routing.reset () := rfl

theorem lift_eq (pointer : Number) (session : Session World) :
    sweep (.lift pointer) session = session.conclude (session.routing.lift pointer) () :=
  sweep_eq _ _

theorem endHovers_eq (session : Session World) :
    sweep Target.Change.endHovers.edit session = session.conclude session.routing.endHovers () :=
  sweep_of_done (fun _ => rfl) session

theorem unhoverDevice_eq (device : Number) (session : Session World) :
    unhoverDevice device session =
      session.conclude (session.routing.unhoverDevice device) () := by
  have done (target : Target) : (Target.Change.unhoverDevice device).edit.result target =
      .ok (target.unhoverDevice device) := rfl
  have swept := sweep_of_done done session
  have pruned : session.routing.unhoverDevice device =
      Outcome.andThen { routing := { session.routing with
        targets := session.routing.targets.map (·.unhoverDevice device) } }
          (·.prune .deviceHoverEnded) := by
    rw [Outcome.andThen_start]
    rfl
  rw [pruned]
  exact conclude_andThen _ swept (prune_eq .deviceHoverEnded)

theorem amend_eq (window : Window) (target : Target) (edit : Target.Edit)
    (session : Session World) :
    amend window target edit session =
      session.conclude (session.routing.amend window target edit) () := by
  rw [amend, Routing.amend]
  cases edit target <;> rfl

theorem liftFrom_eq (pointer : Number) (window : Window) (session : Session World) :
    liftFrom pointer window session =
      session.conclude (session.routing.liftFrom pointer window) () := by
  rw [liftFrom, get_bind, Routing.liftFrom]
  cases session.routing.find? window with
  | none => rfl
  | some target => exact amend_eq window target (.lift pointer) session

theorem revise_eq (window : Window) (change : Target.Change) (session : Session World) :
    revise window change session =
      session.conclude (session.routing.revise window change) () := by
  rw [revise, get_bind, Routing.revise]
  cases session.routing.find? window with
  | none => rfl
  | some target => exact amend_eq window target change.edit session

theorem unhover_eq (device pointer : Number) (session : Session World) :
    unhover device pointer session =
      session.conclude (session.routing.unhover device pointer) () := by
  rw [unhover, Routing.unhover]
  cases checkPointer pointer with
  | error violation => rfl
  | ok id =>
      simp only [Outcome.andThen_assoc]
      apply conclude_andThen _ (sweep_eq (.unhover device pointer) session)
      intro moved
      exact conclude_andThen _ (note_eq rfl moved) (prune_eq .hoverEnded)

theorem alter_eq (window : Window) (change : Target → Target) (session : Session World) :
    alter window change session =
      .ok () (session.withTargets (updateFirst window change session.routing.targets)) := rfl

/-- Writing a line or not is telling a notice or none. -/
theorem noteIf_eq {notice : Notice} (plain : notice.issue? = none) (worth : Bool)
    (session : Session World) :
    noteIf worth notice session =
      .ok () (session.tellAll (if worth then [notice] else [])) := by
  cases worth with
  | false => rfl
  | true => exact note_eq plain session

/-- A target without the as-is mode, if the flags given to it are those of a slippery exit. -/
def exited (flags : Mask) (target : Target) : Target :=
  if flags.carries .asSlipperyExit then
    { target with flags := target.flags.without DispatchFlag.asIs.bit }
  else target

theorem window_exited (flags : Mask) (target : Target) :
    (exited flags target).window = target.window := by
  unfold exited
  split <;> rfl

/-- The as-is mode is taken from the target of the window, and there is a line if it had it. -/
theorem dropAsIs_eq {window : Window} {target : Target} (flags : Mask)
    (found : session.routing.find? window = some target) :
    dropAsIs window flags session =
      .ok () ((session.withTargets
        (updateFirst window (exited flags) session.routing.targets)).tellAll
          (if flags.carries .asSlipperyExit && target.flags.carries .asIs then
            [.exitDropsAsIs window] else [])) := by
  cases exits : flags.carries .asSlipperyExit with
  | false =>
      have same : exited flags = id := by
        funext target
        simp [exited, exits]
      rw [dropAsIs, exits, same, updateFirst_id]
      rfl
  | true =>
      have dropped : exited flags = fun target =>
          { target with flags := target.flags.without DispatchFlag.asIs.bit } := by
        funext target
        simp [exited, exits]
      have noted := noteIf_eq (rfl : (Notice.exitDropsAsIs window).issue? = none)
        ((session.routing.find? window).any (·.flags.carries .asIs)) session
      rw [dropAsIs, exits, dropped, if_pos rfl, get_bind, bind_of_ok noted, alter_eq, found,
        routing_tellAll]
      simp only [withTargets, routing_tellAll, tellAll_withRouting, Option.any_some,
        Bool.true_and]

/-- Merging into the target of a window, write by write, is merging into it at once. -/
theorem mergeInto_eq {window : Window} {target : Target} (flags : Mask) (pointers : PointerSet)
    (time : Option Number) (found : session.routing.find? window = some target) :
    mergeInto window flags pointers time session =
      .ok () ((session.withTargets (updateFirst window (·.merge flags pointers time)
        session.routing.targets)).tellAll
          (if target.losesAsIs flags then [.exitDropsAsIs window] else [])) := by
  have keeps (target : Target) :
      ({ target with flags := target.flags.merge flags } : Target).window = target.window := rfl
  have touches (target : Target) : (target.touch pointers).window = target.window := rfl
  have merged : (session.withTargets (updateFirst window
      (fun target => { target with flags := target.flags.merge flags })
        session.routing.targets)).routing.find? window =
          some { target with flags := target.flags.merge flags } := by
    have inTargets : session.routing.targets.find? (fun target => target.window = window) =
        some target := found
    rw [Routing.find?, targets_withTargets, find?_updateFirst keeps, inTargets]
    rfl
  have atOnce : (fun target : Target => ((exited flags { target with
      flags := target.flags.merge flags }).touch pointers).startAt time) =
        fun target => target.merge flags pointers time := by
    funext target
    simp only [exited, Target.merge]
    split <;> rfl
  -- No write changes the window, so each one finds the target that the one before it has left.
  rw [mergeInto, bind_of_ok (alter_eq _ _ _), bind_of_ok (dropAsIs_eq flags merged),
    bind_of_ok (alter_eq _ _ _), alter_eq]
  simp only [withTargets, tellAll_withRouting, routing_withRouting, withRouting_withRouting]
  rw [updateFirst_updateFirst touches, updateFirst_updateFirst (window_exited flags),
    updateFirst_updateFirst keeps, atOnce]
  rfl

theorem touch_eq (window : Window) (flags : Mask) (pointers : PointerSet) (time : Option Number)
    (session : Session World) :
    touch window flags pointers time session =
      session.conclude (session.routing.touch window flags pointers time) () := by
  rw [touch, get_bind, Routing.touch]
  cases found : session.routing.find? window with
  | none => rfl
  | some target => exact mergeInto_eq flags pointers time found

theorem joined_of_some {window : Window} {target : Target}
    (found : session.routing.find? window = some target) :
    joined window session = .ok target session := by
  rw [joined, get_bind, found]
  rfl

theorem joined_of_none {window : Window} (absent : session.routing.find? window = none) :
    joined window session =
      .ok { window } ((session.withTargets
        (session.routing.targets ++ [({ window } : Target)])).tell (.addedForHover window)) := by
  rw [joined, get_bind, absent]
  rfl

theorem hover_eq (window : Window) (device pointer : Number) (session : Session World) :
    hover window device pointer session =
      session.conclude (session.routing.hover window device pointer) () := by
  rw [hover, Routing.hover]
  cases checkDevice device with
  | error violation => rfl
  | ok _ =>
      cases looked : checkPointer pointer with
      | error violation => rfl
      | ok id =>
          have amends (target : Target) (moved : Session World) :
              amend window target (.hover device pointer) moved =
                .ok () (moved.withTargets
                  (updateFirst window (fun _ => target.hover device id) moved.routing.targets)) := by
            rw [amend, Target.Edit.hover, Target.Edit.withPointer_of_ok looked]
            rfl
          change (joined window >>= fun target => amend window target (.hover device pointer) >>=
            fun _ => note (.hovers device id window)) session = _
          cases found : session.routing.find? window with
          | some target =>
              have inPlace := updateFirst_of_find? found (·.hover device id)
              rw [bind_of_ok (joined_of_some found), bind_of_ok (amends target session), inPlace]
              rfl
          | none =>
              let joining : Target := { window }
              have atEnd : updateFirst window (fun _ => joining.hover device id)
                  (session.routing.targets ++ [joining]) =
                    session.routing.targets ++ [joining.hover device id] :=
                updateFirst_append_of_absent joining found _
              rw [bind_of_ok (joined_of_none found), bind_of_ok (amends _ _), tell_withTargets,
                withTargets_withTargets]
              simp only [targets_withTargets]
              rw [atEnd, ← tell_withTargets]
              rfl

theorem removeToken_eq (token : Token) (session : Session World) :
    removeToken token session = session.conclude (session.routing.removeToken token) () := by
  rw [removeToken, get_bind, Routing.removeToken, List.find?_eq_bind_findIdx?_getElem?,
    List.eraseP_eq_eraseIdx]
  cases carries : session.routing.targets.findIdx? fun target => target.window.token = token with
  | none => rfl
  | some place =>
      have within := (List.findIdx?_eq_some_iff_getElem.mp carries).1
      simp only [Option.bind_some, List.getElem?_eq_getElem within]
      rfl

/-- A target gives up what is taken from it and loses nothing else; there is a line if it touches
any of that. -/
theorem takeFrom_eq {place : Nat} {target : Target} {report : PointerSet → Notice}
    (plain : ∀ cancelled, (report cancelled).issue? = none) (pointers : PointerSet)
    (there : session.routing.targets[place]? = some target) :
    takeFrom place target pointers report session =
      .ok () ((session.withTargets (session.routing.targets.set place
        (if !(target.lost pointers).isEmpty then target.giveUp pointers else target))).tellAll
          (if !(target.lost pointers).isEmpty then [report (target.lost pointers)] else [])) := by
  cases touches : (target.lost pointers).isEmpty with
  | true =>
      have nothing : (target.touching ∩ pointers).isEmpty = true := touches
      simp only [Bool.not_true, Bool.false_eq_true, if_false, withTargets_set_self there,
        takeFrom, nothing, if_true]
      rfl
  | false =>
      have something : (target.touching ∩ pointers).isEmpty = false := touches
      simp only [Bool.not_false, if_true, takeFrom, something, Bool.false_eq_true, if_false]
      exact (bind_of_ok (write_eq _ _ _)).trans (note_eq (plain _) _)

/-- Reporting a target or not is reporting those that are picked. -/
theorem flatMap_ite (picks : Target → Bool) (report : Target → Notice) (targets : List Target) :
    targets.flatMap (fun target => if picks target then [report target] else []) =
      (targets.filter picks).map report := by
  induction targets with
  | nil => rfl
  | cons target rest ih => cases picked : picks target <;> simp [picked, ih]

theorem cancelAt_eq {place : Nat} {target : Target} (pointers : PointerSet) (token : Token)
    (visited : Unit) (there : session.routing.targets[place]? = some target) :
    cancelAt pointers token place target visited session =
      .ok () ((session.withTargets (session.routing.targets.set place
        (if decide (target.window.token ≠ token ∧ !(target.lost pointers).isEmpty) then
          target.giveUp pointers else target))).tellAll
        (if decide (target.window.token ≠ token ∧ !(target.lost pointers).isEmpty) then
          [.cancelledFor (target.lost pointers) target.window token] else [])) := by
  by_cases carries : target.window.token = token
  · simp only [cancelAt, carries, if_true, ne_eq, not_true_eq_false, false_and, decide_false,
      Bool.false_eq_true, if_false, withTargets_set_self there]
    rfl
  · simp only [cancelAt, carries, if_false, ne_eq, not_false_eq_true, true_and]
    simpa using takeFrom_eq (fun _ => rfl) pointers there

theorem cancelExcept_eq (pointers : PointerSet) (token : Token) (session : Session World) :
    cancelExcept pointers token session =
      session.conclude (session.routing.cancelExcept pointers token) () := by
  cases none : pointers.isEmpty with
  | true =>
      simp only [cancelExcept, Routing.cancelExcept, none, if_true]
      rfl
  | false =>
      simp only [cancelExcept, Routing.cancelExcept, none, Bool.false_eq_true, if_false]
      refine conclude_andThen _ ?_ (prune_eq .cancelled)
      rw [eachTarget_of_visits fun _ _ _ _ => cancelAt_eq pointers token _, flatMap_ite]
      rfl

theorem warnOfOverlap_eq (overlapping : PointerSet) (session : Session World) :
    warnOfOverlap overlapping session =
      session.conclude
        { routing := session.routing
          notices := if overlapping.isEmpty then [] else [.overlappingClaims overlapping] } () := by
  rw [warnOfOverlap]
  cases overlapping.isEmpty <;> rfl

theorem resolveClaims_eq (session : Session World) :
    resolveClaims session = session.conclude session.routing.resolveClaims () := by
  have all : (session.routing.targets.foldl Routing.addClaims (∅, ∅)).1 =
      session.routing.allPilfered := Routing.fst_foldl_addClaims _ _
  rw [resolveClaims, get_bind, all]
  change settleClaims session.routing.allPilfered session.routing.overlapping session = _
  cases none : session.routing.allPilfered.isEmpty with
  | true =>
      simp only [settleClaims, Routing.resolveClaims, none, if_true]
      rfl
  | false =>
      simp only [settleClaims, Routing.resolveClaims, none, Bool.false_eq_true, if_false]
      let all := session.routing.allPilfered
      let gives (target : Target) : Bool := !(target.lost (target.pilferedByOthers all)).isEmpty
      let given (routing : Routing) : Outcome :=
        { routing := { routing with
            targets := routing.targets.map fun target =>
              if gives target then target.giveUp (target.pilferedByOthers all) else target }
          notices := (routing.targets.filter gives).map fun target =>
            .cancelledElsewhere (target.lost (target.pilferedByOthers all)) target.window }
      have gave (moved : Session World) :
          eachTarget (settleAt all) () moved = moved.conclude (given moved.routing) () := by
        rw [eachTarget_of_visits fun _ target _ _ there =>
          takeFrom_eq (fun _ => rfl) (target.pilferedByOthers all) there, flatMap_ite]
        rfl
      -- The warning comes first, then what is cancelled, then what is pruned.
      have settled := conclude_andThen (fun routing => (given routing).andThen (·.prune .pilfered))
        (warnOfOverlap_eq session.routing.overlapping session)
        fun moved => conclude_andThen _ (gave moved) (prune_eq .pilfered)
      rw [← Outcome.andThen_assoc] at settled
      exact settled

theorem warnOfIdleClaim_eq (token : Token) (session : Session World) :
    warnOfIdleClaim token session =
      .ok () (session.tell (.idleClaim token session.routing.device)) := by
  rw [warnOfIdleClaim, get_bind]
  change _ = EStateM.Result.ok () (if _ then _ else session)
  split <;> rfl

/-- A window that cannot claim for the token stays as it is, and one that can claims what it
touches; what has been claimed is carried along. -/
theorem claimAt_eq {place : Nat} {target : Target} (token : Token) (claimed : PointerSet)
    (there : session.routing.targets[place]? = some target) :
    claimAt token place target claimed session =
      .ok (if Routing.claims token target then claimed ∪ target.touching else claimed)
        ((session.withTargets (session.routing.targets.set place
          (if Routing.claims token target then target.claim target.touching
            else target))).tellAll []) := by
  by_cases claims : target.window.token = token ∧ target.isTouched = true
  · have can : Routing.claims token target = true := decide_eq_true claims
    simp only [claimAt, claims.1, claims.2, can, if_true, ne_eq, not_true_eq_false, Bool.not_true,
      Bool.false_eq_true, or_self, if_false]
    rfl
  · have cannot : Routing.claims token target = false := decide_eq_false claims
    have stays : target.window.token ≠ token ∨ (!target.isTouched) = true := by
      simpa [or_iff_not_imp_left] using claims
    simp only [claimAt, stays, cannot, if_true, Bool.false_eq_true, if_false,
      withTargets_set_self there]
    rfl

/-- Going through the places, the windows of a token claim what the token claims. -/
theorem eachTarget_claimAt (token : Token) (session : Session World) :
    eachTarget (claimAt token) ∅ session =
      .ok (session.routing.pilfer token).claimed
        (session.withTargets (session.routing.targets.map fun target =>
          if Routing.claims token target then target.claim target.touching else target)) := by
  have carried : session.routing.targets.foldl (fun claimed target =>
      if Routing.claims token target then claimed ∪ target.touching else claimed) ∅ =
        (session.routing.pilfer token).claimed := by
    rw [Routing.claimed_pilfer, PointerSet.unions, List.foldl_map, List.foldl_filter]
  have silent : session.routing.targets.flatMap (fun _ => ([] : List Notice)) = [] := by simp
  rw [eachTarget_of_visits fun _ _ claimed _ => claimAt_eq token claimed, carried, silent]
  rfl

/-- Where a token claims nothing, no window claims anything. -/
theorem map_claims_of_idle {routing : Routing} {token : Token}
    (idle : (routing.pilfer token).claimed = ∅) :
    (routing.targets.map fun target =>
      if Routing.claims token target then target.claim target.touching else target) =
        routing.targets := by
  have stays (target : Target) (inTargets : target ∈ routing.targets) :
      (if Routing.claims token target then target.claim target.touching else target) =
        id target := by
    refine if_neg fun claims => ?_
    obtain ⟨carries, touched⟩ := of_decide_eq_true claims
    have untouched : target.touching = ∅ := PointerSet.eq_empty_iff.mpr fun pointer touches =>
      PointerSet.eq_empty_iff.mp idle pointer
        (Routing.mem_claimed_pilfer.mpr ⟨target, inTargets, carries, touches⟩)
    rw [Target.isTouched, PointerSet.isEmpty_iff_eq.mpr untouched] at touched
    cases touched
  rw [List.map_congr_left stays, List.map_id]

theorem pilfer_eq (token : Token) (session : Session World) :
    pilfer token session =
      session.conclude (session.routing.pilfer token) (session.routing.pilfer token).claimed := by
  rw [pilfer, bind_of_ok (eachTarget_claimAt token session)]
  have claimed : (session.routing.pilfer token).claimed = _ := Routing.claimed_pilfer
  cases none : (session.routing.pilfer token).claimed.isEmpty with
  | true =>
      rw [map_claims_of_idle (PointerSet.isEmpty_iff_eq.mp none), if_pos rfl]
      refine (bind_of_ok (warnOfIdleClaim_eq token _)).trans ?_
      rw [claimed] at none
      rw [Routing.pilfer, if_pos none]
      rfl
  | false =>
      rw [claimed] at none ⊢
      simp only [Routing.pilfer, none, Bool.false_eq_true, if_false]
      exact conclude_andThen _ (note_eq rfl _) fun moved =>
        conclude_return _ (cancelExcept_eq _ token moved)

/-- No other operation claims anything. -/
theorem claimed_apply_of_ne {operation : Operation} (other : ∀ token, operation ≠ .pilfer token)
    (routing : Routing) : (operation.apply routing).claimed = ∅ := by
  cases operation with
  | pilfer token => exact absurd rfl (other token)
  | bind | liftFrom | touch | hover | removeToken | cancelExcept | resolveClaims | unhover
  | revise =>
      simp only [Operation.apply, Routing.bind, Routing.liftFrom, Routing.touch, Routing.hover,
        Routing.removeToken, Routing.cancelExcept, Routing.resolveClaims, Routing.unhover,
        Routing.revise, Routing.amend, Outcome.andThen]
      repeat' split
      all_goals rfl
  | _ => rfl

/-- Every operation of a session concludes as the plain operation on its routing does. -/
theorem perform_eq (operation : Operation) (session : Session World) :
    perform operation session =
      session.conclude (operation.apply session.routing)
        (operation.apply session.routing).claimed := by
  by_cases claims : ∃ token, operation = .pilfer token
  · obtain ⟨token, rfl⟩ := claims
    exact pilfer_eq token session
  · rw [claimed_apply_of_ne fun token same => claims ⟨token, same⟩]
    cases operation with
    | bind device source => exact conclude_return ∅ (bind_eq device source session)
    | reset => exact conclude_return ∅ (reset_eq session)
    | lift pointer => exact conclude_return ∅ (lift_eq pointer session)
    | liftFrom pointer window => exact conclude_return ∅ (liftFrom_eq pointer window session)
    | endHovers => exact conclude_return ∅ (endHovers_eq session)
    | prune => exact conclude_return ∅ (prune_eq .noPointers session)
    | touch window flags pointers time =>
        exact conclude_return ∅ (touch_eq window flags pointers time session)
    | hover window device pointer =>
        exact conclude_return ∅ (hover_eq window device pointer session)
    | removeToken token => exact conclude_return ∅ (removeToken_eq token session)
    | commit => exact conclude_return ∅ (commit_eq session)
    | cancelExcept pointers token =>
        exact conclude_return ∅ (cancelExcept_eq pointers token session)
    | resolveClaims => exact conclude_return ∅ (resolveClaims_eq session)
    | pilfer token => exact absurd ⟨token, rfl⟩ claims
    | unhover device pointer => exact conclude_return ∅ (unhover_eq device pointer session)
    | unhoverDevice device => exact conclude_return ∅ (unhoverDevice_eq device session)
    | revise window change => exact conclude_return ∅ (revise_eq window change session)

/-- A query is answered from the routing, and the session stays as it is. -/
theorem ask_eq (query : Query) (session : Session World) :
    ask query session =
      match query.ask session.routing with
      | .ok answer => .ok answer session
      | .error violation => .error violation session := by
  rw [ask, get_bind]
  cases query.ask session.routing <;> rfl

end PointerRouting.Session
