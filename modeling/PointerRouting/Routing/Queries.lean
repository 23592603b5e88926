/-
Module: PointerRouting.Routing.Queries
Purpose: Questions about a routing. Where several windows would answer, the first target decides.
  A pointer is looked at only where a target has to look at it.
Main exports: Routing.firstForeground?, Routing.isSlippery, Routing.wallpaper?, Routing.target,
  Routing.isDown, Routing.hoveredBy, Routing.isHovered, Routing.holds, Routing.touching
-/
import PointerRouting.Routing.Basic

namespace PointerRouting.Routing

/-- The first window in the foreground. -/
def firstForeground? (routing : Routing) : Option Window :=
  (routing.targets.find? (·.flags.carries .foreground)).map Target.window

/-- One pass over targets that remembers whether a slippery foreground window has been met: a
second foreground window, or one that is not slippery, decides against. -/
def soleForegroundSlips (met : Bool) : List Target → Bool
  | [] => met
  | target :: rest =>
    if target.flags.carries .foreground then
      if met || !target.window.hasConfig .slippery then false else soleForegroundSlips true rest
    else soleForegroundSlips met rest

/-- Whether there is exactly one foreground window and it is slippery. -/
def isSlippery (routing : Routing) : Bool := soleForegroundSlips false routing.targets

/-- The first wallpaper window. -/
def wallpaper? (routing : Routing) : Option Window :=
  (routing.targets.find? (·.window.hasConfig .isWallpaper)).map Target.window

/-- The target of a window, which has to take part. -/
def target (routing : Routing) (window : Window) : Except Violation Target :=
  match routing.find? window with
  | some target => .ok target
  | none => .error (.windowNotTouched window.name)

/-- Whether any pointer touches a window. -/
def isDown (routing : Routing) : Bool := routing.targets.any Target.isTouched

/-- The windows a pointer of a device hovers over, each once. -/
def hoveredBy (routing : Routing) (device pointer : Number) : Except Violation (List Window) :=
  routing.targets.foldlM
    (fun (windows : List Window) (target : Target) => do
      let hovered ← target.isHoveredBy device pointer
      return if hovered ∧ target.window ∉ windows then windows ++ [target.window] else windows)
    []

/-- Whether any pointer hovers over a window. -/
def isHovered (routing : Routing) : Bool := routing.targets.any Target.isHovered

/-- Whether a pointer touches or hovers over a window that carries the token, with any device. -/
def holds (routing : Routing) (token : Token) (pointer : Number) : Except Violation Bool :=
  routing.targets.anyM fun target =>
    if target.window.token = token then do
      if ← target.touches pointer then return true
      target.isHoveredByAny pointer
    else return false

/-- The pointers that touch some window. -/
def touching (routing : Routing) : PointerSet :=
  PointerSet.unions (routing.targets.map Target.touching)

/-- Whether no window takes part. -/
def isEmpty (routing : Routing) : Bool := routing.targets.isEmpty

end PointerRouting.Routing
