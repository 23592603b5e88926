/-
Module: PointerRouting.Session.Operations
Purpose: The operations of a session, step by step: what they look at, what they write and where
  they have something to record or to warn about. Whether that comes to anything is up to the
  outlets and to what has been warned about, which these operations read and write themselves.
Main exports: Session.touch, Session.commit, Session.cancelExcept, Session.resolveClaims,
  Session.pilfer, Session.perform, Session.ask
-/
import PointerRouting.Operation
import PointerRouting.Session.Basic

namespace PointerRouting.Session

variable {World : Type}

/-- Take the dead targets out. -/
def prune (reason : PruneReason) : Act World Unit :=
  keepTargets (fun target => !target.isDead) id fun target => note (.pruned target.window reason)

/-- Bind the routing to a device. -/
def bind (device source : Number) : Act World Unit := do
  let device ← MonadExcept.ofExcept (checkDevice device)
  modify fun session =>
    session.withRouting { session.routing with device, source := source.word }

/-- Back to a routing as it is made. What has been warned about is not forgotten. -/
def reset : Act World Unit := do
  modify (·.withRouting {})
  note .reset

/-- Lift a pointer from one window, if it takes part. -/
def liftFrom (pointer : Number) (window : Window) : Act World Unit := do
  match (← get).routing.find? window with
  | some target => amend window target (.lift pointer)
  | none => return

/-- Take the as-is mode away from a window's target if the flags given to it say that it is exited by
a slippery touch. A mode that was there is worth a line. -/
def dropAsIs (window : Window) (flags : Mask) : Act World Unit :=
  if flags.carries .asSlipperyExit then do
    let session ← get
    noteIf ((session.routing.find? window).any (·.flags.carries .asIs)) (.exitDropsAsIs window)
    alter window fun target => { target with flags := target.flags.without DispatchFlag.asIs.bit }
  else pure ()

/-- Merge flags, pointers and a time into the target of a window. -/
def mergeInto (window : Window) (flags : Mask) (pointers : PointerSet) (time : Option Number) :
    Act World Unit := do
  alter window fun target => { target with flags := target.flags.merge flags }
  dropAsIs window flags
  alter window (·.touch pointers)
  alter window (·.startAt time)

/-- Merge a window into the gesture: into its target if it has one, as a new target otherwise. -/
def touch (window : Window) (flags : Mask) (pointers : PointerSet) (time : Option Number) :
    Act World Unit := do
  match (← get).routing.find? window with
  | some _ => mergeInto window flags pointers time
  | none =>
    append { window, flags, touching := pointers, downTime := time }
    note (.added window pointers)

/-- The target of a window, which joins the gesture to be hovered over if it has none. -/
def joined (window : Window) : Act World Target := do
  match (← get).routing.find? window with
  | some target => return target
  | none =>
    append { window }
    note (.addedForHover window)
    return { window }

/-- Let a pointer of a device hover over a window. -/
def hover (window : Window) (device pointer : Number) : Act World Unit := do
  let _ ← MonadExcept.ofExcept (checkDevice device)
  let id ← MonadExcept.ofExcept (checkPointer pointer)
  let target ← joined window
  amend window target (.hover device pointer)
  note (.hovers device id window)

/-- Remove the first target whose window carries a token. -/
def removeToken (token : Token) : Act World Unit := do
  let targets := (← get).routing.targets
  match targets.findIdx? fun target => target.window.token = token with
  | none => return
  | some place =>
    modify (·.withTargets (targets.eraseIdx place))
    match targets[place]? with
    | some removed => note (.removedByToken removed.window)
    | none => return

/-- Commit the gesture to direct dispatch. -/
def commit : Act World Unit :=
  keepTargets Target.isDirect Target.settle fun target => note (.filteredOut target.window)

/-- Take pointers from a target that touches any of them, and say which ones it loses. -/
def takeFrom (place : Nat) (target : Target) (pointers : PointerSet)
    (report : PointerSet → Notice) : Act World Unit := do
  let cancelled := target.touching ∩ pointers
  if cancelled.isEmpty then return
  write place { target with touching := target.touching \ pointers }
  note (report cancelled)

/-- Take pointers from a target unless its window carries the token. -/
def cancelAt (pointers : PointerSet) (token : Token) (place : Nat) (target : Target) (_ : Unit) :
    Act World Unit := do
  if target.window.token = token then return
  takeFrom place target pointers fun cancelled => .cancelledFor cancelled target.window token

/-- Every window that does not carry the token gives pointers up, then dead targets go. -/
def cancelExcept (pointers : PointerSet) (token : Token) : Act World Unit := do
  if pointers.isEmpty then return
  eachTarget (cancelAt pointers token) ()
  prune .cancelled

/-- Take from a target what others claim, where `all` is claimed by any. -/
def settleAt (all : PointerSet) (place : Nat) (target : Target) (_ : Unit) : Act World Unit :=
  takeFrom place target (target.pilferedByOthers all) fun cancelled =>
    .cancelledElsewhere cancelled target.window

/-- Warn about claims that overlap, once for the pointers that are shared. -/
def warnOfOverlap (overlapping : PointerSet) : Act World Unit :=
  if overlapping.isEmpty then pure ()
  else modify (·.warnedOfIssue .pilfer (overlapKey overlapping)
    (Notice.overlappingClaims overlapping).message)

/-- Settle claims, where `all` is claimed by any window and `overlapping` by more than one. -/
def settleClaims (all overlapping : PointerSet) : Act World Unit := do
  if all.isEmpty then return
  warnOfOverlap overlapping
  eachTarget (settleAt all) ()
  prune .pilfered

/-- Settle all claims. Claims that overlap are warned about and settled the same way. -/
def resolveClaims : Act World Unit := do
  let seen := (← get).routing.targets.foldl Routing.addClaims (∅, ∅)
  settleClaims seen.1 seen.2

/-- Let a target claim what it touches if its window carries the token; what the token has claimed
is carried along. -/
def claimAt (token : Token) (place : Nat) (target : Target) (claimed : PointerSet) :
    Act World PointerSet := do
  if target.window.token ≠ token ∨ !target.isTouched then return claimed
  write place (target.claim target.touching)
  return claimed ∪ target.touching

/-- Warn about a connection that claims in vain, once and in developer mode only. -/
def warnOfIdleClaim (token : Token) : Act World Unit := do
  let session ← get
  if session.outlets.devMode ∧ token ∉ session.warnedTokens then
    set { session with warnedTokens := token :: session.warnedTokens }
    modify (·.warned .pilfer (Notice.idleClaim token session.routing.device).message)

/-- The windows that carry the token claim every pointer they touch, and all other windows give
those pointers up. -/
def pilfer (token : Token) : Act World PointerSet := do
  let claimed ← eachTarget (claimAt token) ∅
  if claimed.isEmpty then
    warnOfIdleClaim token
    return ∅
  note (.pilfered token claimed)
  cancelExcept claimed token
  return claimed

/-- End the hovering of a pointer of a device everywhere, then prune. -/
def unhover (device pointer : Number) : Act World Unit := do
  let id ← MonadExcept.ofExcept (checkPointer pointer)
  sweep (.unhover device pointer)
  note (.hoverLeft device id)
  prune .hoverEnded

/-- End the hovering of a device everywhere, then prune. -/
def unhoverDevice (device : Number) : Act World Unit := do
  sweep (Target.Change.unhoverDevice device).edit
  prune .deviceHoverEnded

/-- Make a change to the target of a window, which has to take part. -/
def revise (window : Window) (change : Target.Change) : Act World Unit := do
  match (← get).routing.find? window with
  | some target => amend window target change.edit
  | none => throw (.windowNotTouched window.name)

/-- Carry an operation out. Only claiming claims pointers. -/
def perform : Operation → Act World PointerSet
  | .bind device source => do bind device source; return ∅
  | .reset => do reset; return ∅
  | .lift pointer => do sweep (.lift pointer); return ∅
  | .liftFrom pointer window => do liftFrom pointer window; return ∅
  | .endHovers => do sweep Target.Change.endHovers.edit; return ∅
  | .prune => do prune .noPointers; return ∅
  | .touch window flags pointers time => do touch window flags pointers time; return ∅
  | .hover window device pointer => do hover window device pointer; return ∅
  | .removeToken token => do removeToken token; return ∅
  | .commit => do commit; return ∅
  | .cancelExcept pointers token => do cancelExcept pointers token; return ∅
  | .resolveClaims => do resolveClaims; return ∅
  | .pilfer token => pilfer token
  | .unhover device pointer => do unhover device pointer; return ∅
  | .unhoverDevice device => do unhoverDevice device; return ∅
  | .revise window change => do revise window change; return ∅

/-- Answer a query. -/
def ask (query : Query) : Act World Answer := do
  MonadExcept.ofExcept (query.ask (← get).routing)

end PointerRouting.Session
