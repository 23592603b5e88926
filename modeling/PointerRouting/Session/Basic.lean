/-
Module: PointerRouting.Session.Basic
Purpose: A routing together with what it is connected to: a trace, a listener for warnings,
  developer mode, and the memory of what has been warned about. Everything an operation does here
  reads and writes all of that, and it goes through the targets in their places, one by one. What
  it has done when a violation stops it stays done.
Main exports: Outlets, Session, Session.Act, Session.recorded, Session.warned,
  Session.warnedOfIssue, Session.eachTarget, Session.keepTargets
-/
import PointerRouting.Routing.Basic

namespace PointerRouting

/-- What a routing is connected to when it is made. The trace and the listener act on the world
outside; they return, and they do not reach back into the routing. -/
structure Outlets (World : Type) where
  /-- Receives routing decisions as lines of a record. -/
  trace : Option (Category → Severity → String → World → World) := none
  /-- Receives warnings. -/
  warn : Option (String → World → World) := none
  /-- Whether there are warnings about suspicious routing. -/
  devMode : Bool := false

/-- A routing with its outlets and its memory of warnings, in a world. -/
structure Session (World : Type) where
  outlets : Outlets World
  world : World
  routing : Routing := {}
  /-- The keys of the issues that have been warned about. -/
  warnedIssues : List String := []
  /-- The connections whose claim in vain has been warned about. -/
  warnedTokens : List Token := []

namespace Session

/-- Something that is done in a session. -/
abbrev Act (World Value : Type) := EStateM Violation (Session World) Value

variable {World : Type}

/-- A session as it starts: nothing is routed, and nothing has been warned about. -/
def start (outlets : Outlets World) (world : World) : Session World := { outlets, world }

/-- The session with another routing. -/
def withRouting (session : Session World) (routing : Routing) : Session World :=
  { session with routing }

/-- The session with other targets. -/
def withTargets (session : Session World) (targets : List Target) : Session World :=
  session.withRouting { session.routing with targets }

/-- Write a line, if there is a trace. -/
def recorded (session : Session World) (category : Category) (severity : Severity)
    (message : String) : Session World :=
  match session.outlets.trace with
  | some trace => { session with world := trace category severity message session.world }
  | none => session

/-- Write a warning, and tell the listener if there is one. -/
def warned (session : Session World) (category : Category) (detail : String) : Session World :=
  let recorded := session.recorded category .warn detail
  match recorded.outlets.warn with
  | some warn =>
    { recorded with
      world := warn ("[touchroute][" ++ category.text ++ "] " ++ detail) recorded.world }
  | none => recorded

/-- The key that an issue of a category is remembered by. -/
def issueKey (category : Category) (key : String) : String := category.text ++ ":" ++ key

/-- The key of claims that overlap on some pointers. -/
def overlapKey (pointers : PointerSet) : String :=
  "overlap:" ++ Number.intText pointers.bits.toNat

/-- Warn about an issue in developer mode, unless there has been a warning under its key. -/
def warnedOfIssue (session : Session World) (category : Category) (key detail : String) :
    Session World :=
  if !session.outlets.devMode then session
  else
    if issueKey category key ∈ session.warnedIssues then session
    else
      { session with warnedIssues := issueKey category key :: session.warnedIssues }.warned
        category detail

/-- Write the line of a notice. -/
def note (notice : Notice) : Act World Unit :=
  modify (·.recorded notice.category notice.severity notice.message)

/-- Write the line of a notice, or not. -/
def noteIf (worth : Bool) (notice : Notice) : Act World Unit :=
  if worth then note notice else pure ()

/-- Put a target in a place. -/
def write (place : Nat) (target : Target) : Act World Unit :=
  modify fun session => session.withTargets (session.routing.targets.set place target)

/-- Visit the target that is in a place now, with something that is carried along. -/
def visitPlace {Carried : Type} (visit : Nat → Target → Carried → Act World Carried)
    (carried : Carried) (place : Nat) : Act World Carried := do
  match (← get).routing.targets[place]? with
  | some target => visit place target carried
  | none => return carried

/-- Go through the places of the targets, in order. -/
def eachTarget {Carried : Type} (visit : Nat → Target → Carried → Act World Carried)
    (carried : Carried) : Act World Carried := do
  (List.range (← get).routing.targets.length).foldlM (visitPlace visit) carried

/-- Write what is kept of a target to the next place from the front, or do something about a target
that is not kept. -/
def keepOrPart (keeps : Target → Bool) (change : Target → Target) (part : Target → Act World Unit)
    (_ : Nat) (target : Target) (written : Nat) : Act World Nat :=
  if keeps target then do
    write written (change target)
    return written + 1
  else do
    part target
    return written

/-- Keep some targets in one pass over their places; in the end the places behind the last one
written are cut off. -/
def keepTargets (keeps : Target → Bool) (change : Target → Target)
    (part : Target → Act World Unit) : Act World Unit := do
  let written ← eachTarget (keepOrPart keeps change part) 0
  modify fun session => session.withTargets (session.routing.targets.take written)

/-- Edit the target in a place. If a violation stops the edit, the target is as the edit has left
it. -/
def editPlace (edit : Target.Edit) (place : Nat) (target : Target) : Act World Unit :=
  match edit target with
  | .ok _ edited => write place edited
  | .error violation left => do
    write place left
    throw violation

/-- Edit every target. -/
def sweep (edit : Target.Edit) : Act World Unit :=
  eachTarget (fun place target _ => editPlace edit place target) ()

/-- Change the first target of a window, in its place. -/
def alter (window : Window) (change : Target → Target) : Act World Unit :=
  modify fun session =>
    session.withTargets (updateFirst window change session.routing.targets)

/-- Edit the target that a window has. -/
def amend (window : Window) (target : Target) (edit : Target.Edit) : Act World Unit :=
  match edit target with
  | .ok _ edited => alter window fun _ => edited
  | .error violation left => do
    alter window fun _ => left
    throw violation

/-- Put a target behind all others. -/
def append (target : Target) : Act World Unit :=
  modify fun session => session.withTargets (session.routing.targets ++ [target])

end Session

end PointerRouting
