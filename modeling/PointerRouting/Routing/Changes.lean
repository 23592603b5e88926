/-
Module: PointerRouting.Routing.Changes
Purpose: The operations on a routing that land, lift, hover, filter and remove. Claiming pointers
  and settling claims are in `PointerRouting.Routing.Pilfer`.
Main exports: Routing.bind, Routing.reset, Routing.amend, Routing.lift, Routing.liftFrom,
  Routing.touch, Routing.hover, Routing.unhover, Routing.unhoverDevice, Routing.endHovers,
  Routing.removeToken, Routing.commit, Routing.revise
-/
import PointerRouting.Routing.Basic

namespace PointerRouting

namespace Target

/-- Merge a landing into a target: flags and pointers are added, and the time is kept if the
target has one. A slippery exit takes the as-is mode away, whoever gave it. -/
def merge (target : Target) (flags : Mask) (pointers : PointerSet) (time : Option Number) :
    Target :=
  let merged := target.flags.merge flags
  let settled :=
    if flags.carries .asSlipperyExit then merged.without DispatchFlag.asIs.bit else merged
  ({ target with flags := settled }.touch pointers).startAt time

/-- Whether merging flags into a target takes its as-is mode away. -/
def losesAsIs (target : Target) (flags : Mask) : Bool :=
  flags.carries .asSlipperyExit && (target.flags.merge flags).carries .asIs

/-- Whether a target is dispatched to directly: as it is, or entered by a slippery touch. -/
def isDirect (target : Target) : Bool :=
  target.flags.meets (DispatchFlag.mask [.asIs, .asSlipperyEnter])

/-- Make the as-is mode the only mode of a target. -/
def settle (target : Target) : Target :=
  { target with
    flags := (target.flags.without Dispatch.modeBits).merge (DispatchFlag.mask [.asIs]) }

end Target

namespace Routing

/-- Nothing changes, and a violation says why. -/
def refuse (routing : Routing) (violation : Violation) : Outcome :=
  { routing, violation := some violation }

/-- Bind a routing to the device whose gesture it follows. -/
def bind (routing : Routing) (device source : Number) : Outcome :=
  match checkDevice device with
  | .error violation => routing.refuse violation
  | .ok device => { routing := { routing with device, source := source.word } }

/-- Back to a routing as it is made. -/
def reset (_routing : Routing) : Outcome := { routing := {}, notices := [.reset] }

/-- Edit the target that a window has. If a violation stops the edit, the target is as the edit has
left it. -/
def amend (routing : Routing) (window : Window) (target : Target) (edit : Target.Edit) : Outcome :=
  match edit target with
  | .ok _ edited =>
    { routing := { routing with
        targets := updateFirst window (fun _ => edited) routing.targets } }
  | .error violation left =>
    { routing := { routing with targets := updateFirst window (fun _ => left) routing.targets }
      violation := some violation }

/-- Lift a pointer from every window. -/
def lift (routing : Routing) (pointer : Number) : Outcome :=
  let (targets, violation) := sweep (.lift pointer) routing.targets
  { routing := { routing with targets }, violation }

/-- Lift a pointer from one window, if it takes part. -/
def liftFrom (routing : Routing) (pointer : Number) (window : Window) : Outcome :=
  match routing.find? window with
  | none => { routing }
  | some target => routing.amend window target (.lift pointer)

/-- End all hovering. Targets stay, dead or not. -/
def endHovers (routing : Routing) : Outcome :=
  { routing := { routing with targets := routing.targets.map Target.endHovers } }

/-- Merge a window into the gesture: into its target if it has one, as a new target with exactly
these values otherwise. -/
def touch (routing : Routing) (window : Window) (flags : Mask) (pointers : PointerSet)
    (time : Option Number) : Outcome :=
  match routing.find? window with
  | some target =>
    { routing := { routing with
        targets := updateFirst window (·.merge flags pointers time) routing.targets }
      notices := if target.losesAsIs flags then [.exitDropsAsIs window] else [] }
  | none =>
    let target := { window, flags, touching := pointers, downTime := time : Target }
    { routing := { routing with targets := routing.targets ++ [target] }
      notices := [.added window pointers] }

/-- Let a pointer of a device hover over a window, which joins the gesture if it has to. The
device is looked at before the pointer. -/
def hover (routing : Routing) (window : Window) (device pointer : Number) : Outcome :=
  match checkDevice device, checkPointer pointer with
  | .error violation, _ => routing.refuse violation
  | .ok _, .error violation => routing.refuse violation
  | .ok _, .ok id =>
    match routing.find? window with
    | some _ =>
      { routing := { routing with
          targets := updateFirst window (·.hover device id) routing.targets }
        notices := [.hovers device id window] }
    | none =>
      let target := ({ window } : Target).hover device id
      { routing := { routing with targets := routing.targets ++ [target] }
        notices := [.addedForHover window, .hovers device id window] }

/-- Remove the first target whose window carries a token; others that share it stay. -/
def removeToken (routing : Routing) (token : Token) : Outcome :=
  match routing.targets.find? fun target => target.window.token = token with
  | none => { routing }
  | some removed =>
    { routing := { routing with
        targets := routing.targets.eraseP fun target => target.window.token = token }
      notices := [.removedByToken removed.window] }

/-- Commit the gesture to direct dispatch: the targets dispatched to directly keep the as-is mode
as their only one, and the others go. -/
def commit (routing : Routing) : Outcome :=
  let (targets, others) := compact Target.isDirect Target.settle routing.targets
  { routing := { routing with targets }
    notices := others.map fun target => .filteredOut target.window }

/-- End the hovering of a pointer of a device everywhere, then prune. -/
def unhover (routing : Routing) (device pointer : Number) : Outcome :=
  match checkPointer pointer with
  | .error violation => routing.refuse violation
  | .ok id =>
    let (targets, violation) := sweep (.unhover device pointer) routing.targets
    { routing := { routing with targets }, violation : Outcome }
      |>.andThen (fun routing => { routing, notices := [.hoverLeft device id] })
      |>.andThen (·.prune .hoverEnded)

/-- End the hovering of a device everywhere, then prune. -/
def unhoverDevice (routing : Routing) (device : Number) : Outcome :=
  let targets := routing.targets.map (·.unhoverDevice device)
  ({ routing with targets } : Routing).prune .deviceHoverEnded

/-- Make a change to the target of a window, which has to take part. -/
def revise (routing : Routing) (window : Window) (change : Target.Change) : Outcome :=
  match routing.find? window with
  | none => routing.refuse (.windowNotTouched window.name)
  | some target => routing.amend window target change.edit

/-- An edit that writes nothing before a violation is done or refused as a whole. -/
theorem amend_eq {routing : Routing} {window : Window} {target : Target} {edit : Target.Edit}
    (found : routing.find? window = some target) (atomic : edit.Atomic) :
    routing.amend window target edit =
      match edit.result target with
      | .error violation => routing.refuse violation
      | .ok edited =>
        { routing := { routing with
            targets := updateFirst window (fun _ => edited) routing.targets } } := by
  unfold amend Target.Edit.result
  cases stopped : edit target with
  | ok _ edited => rfl
  | error violation left =>
    rw [atomic _ _ _ stopped]
    simp only [updateFirst_eq_self found]
    rfl

theorem liftFrom_eq (routing : Routing) (pointer : Number) (window : Window) :
    routing.liftFrom pointer window =
      match routing.find? window with
      | none => { routing }
      | some target =>
        match target.lift pointer with
        | .error violation => routing.refuse violation
        | .ok lifted =>
          { routing := { routing with
              targets := updateFirst window (fun _ => lifted) routing.targets } } := by
  unfold liftFrom
  cases found : routing.find? window with
  | none => rfl
  | some target => exact amend_eq found (Target.Edit.atomic_lift pointer)

theorem revise_eq (routing : Routing) (window : Window) (change : Target.Change) :
    routing.revise window change =
      match routing.find? window with
      | none => routing.refuse (.windowNotTouched window.name)
      | some target =>
        match target.revise change with
        | .error violation => routing.refuse violation
        | .ok revised =>
          { routing := { routing with
              targets := updateFirst window (fun _ => revised) routing.targets } } := by
  unfold revise
  cases found : routing.find? window with
  | none => rfl
  | some target => exact amend_eq found change.atomic

theorem commit_eq (routing : Routing) :
    routing.commit =
      { routing := { routing with
          targets := (routing.targets.filter Target.isDirect).map Target.settle }
        notices := (routing.targets.filter fun target => !target.isDirect).map fun target =>
          .filteredOut target.window } := by
  simp only [commit, compact_eq]

end Routing

end PointerRouting
