/-
Module: PointerRouting.Routing.Pilfer
Purpose: Claims. A connection may claim the pointers its windows touch, and every other window
  gives them up; claims that stand side by side are settled window by window.
Main exports: Routing.cancelExcept, Routing.pilfer, Routing.allPilfered, Routing.overlapping,
  Routing.resolveClaims
-/
import PointerRouting.Routing.Basic

namespace PointerRouting

namespace Target

/-- The pointers a target gives up when the given ones are taken from it. -/
def lost (target : Target) (pointers : PointerSet) : PointerSet := target.touching ∩ pointers

/-- Take pointers from a target. -/
def giveUp (target : Target) (pointers : PointerSet) : Target :=
  { target with touching := target.touching \ pointers }

/-- What the other windows of a gesture claim, where `all` is claimed by any. It is computed as
what either this window claims or any does, but not both: since every window's claims are among
all claims, that is what others claim and this window does not. -/
def pilferedByOthers (target : Target) (all : PointerSet) : PointerSet :=
  target.pilfered.symmDiff all

end Target

namespace Routing

/-- Every window that does not carry the token gives pointers up, then dead targets go. -/
def cancelExcept (routing : Routing) (pointers : PointerSet) (token : Token) : Outcome :=
  if pointers.isEmpty then { routing }
  else
    let gives (target : Target) : Bool :=
      target.window.token ≠ token ∧ !(target.lost pointers).isEmpty
    { routing := { routing with
        targets := routing.targets.map fun target =>
          if gives target then target.giveUp pointers else target }
      notices := (routing.targets.filter gives).map fun target =>
        .cancelledFor (target.lost pointers) target.window token : Outcome }
      |>.andThen (·.prune .cancelled)

/-- Whether a target can claim for a token: its window carries it and is touched. -/
def claims (token : Token) (target : Target) : Bool :=
  target.window.token = token ∧ target.isTouched

/-- The windows that carry the token claim every pointer they touch, and all other windows give
those pointers up. Without such a pointer nothing changes, which is a concern. -/
def pilfer (routing : Routing) (token : Token) : Outcome :=
  let claimed := PointerSet.unions ((routing.targets.filter (claims token)).map Target.touching)
  if claimed.isEmpty then { routing, notices := [.idleClaim token routing.device] }
  else
    let claiming := routing.targets.map fun target =>
      if claims token target then target.claim target.touching else target
    let outcome :=
      { routing := { routing with targets := claiming }
        notices := [.pilfered token claimed] : Outcome }
        |>.andThen (·.cancelExcept claimed token)
    { outcome with claimed }

/-- The pointers that some window claims. -/
def allPilfered (routing : Routing) : PointerSet :=
  PointerSet.unions (routing.targets.map Target.pilfered)

/-- One target more: its claims that were claimed before it overlap. -/
def addClaims (seen : PointerSet × PointerSet) (target : Target) : PointerSet × PointerSet :=
  (seen.1 ∪ target.pilfered, seen.2 ∪ (seen.1 ∩ target.pilfered))

/-- The pointers that more than one window claims. -/
def overlapping (routing : Routing) : PointerSet := (routing.targets.foldl addClaims (∅, ∅)).2

/-- Adding the claims of targets one by one sees the claims of all. -/
theorem fst_foldl_addClaims (targets : List Target) (seen : PointerSet × PointerSet) :
    (targets.foldl addClaims seen).1 = (targets.map Target.pilfered).foldl (· ∪ ·) seen.1 := by
  induction targets generalizing seen with
  | nil => rfl
  | cons target rest ih => rw [List.foldl_cons, ih, List.map_cons, List.foldl_cons, addClaims]

/-- Settle claims: every window gives up the pointers that others claim and it does not, then
dead targets go. Claims that overlap are a concern and are settled the same way. Without claims
nothing changes. -/
def resolveClaims (routing : Routing) : Outcome :=
  let all := routing.allPilfered
  let overlap := routing.overlapping
  if all.isEmpty then { routing }
  else
    let gives (target : Target) : Bool := !(target.lost (target.pilferedByOthers all)).isEmpty
    { routing := { routing with
        targets := routing.targets.map fun target =>
          if gives target then target.giveUp (target.pilferedByOthers all) else target }
      notices :=
        (if overlap.isEmpty then [] else [.overlappingClaims overlap]) ++
          (routing.targets.filter gives).map fun target =>
            .cancelledElsewhere (target.lost (target.pilferedByOthers all))
              target.window : Outcome }
      |>.andThen (·.prune .pilfered)

end Routing

end PointerRouting
