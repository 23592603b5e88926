/-
Module: PointerRouting.Notice
Purpose: What routing has to say about its decisions: plain notices that trace what was added,
  moved, cancelled and removed, and concerns about requests that make no sense together. Each
  has a category, a severity and a message. Notices report; they never steer.
Main exports: Category, Severity, PruneReason, Issue, Notice, Notice.category, Notice.severity,
  Notice.message, Notice.issue?
-/
import PointerRouting.Pointer.Set
import PointerRouting.Window

namespace PointerRouting

/-- What a notice is about. -/
inductive Category where
  /-- A target was added, or removed by its token. -/
  | window
  /-- Pointers were cancelled from windows. -/
  | pointer
  /-- A hovering pointer came or left. -/
  | hover
  /-- Pointers were claimed, or cancelled because of a claim. -/
  | pilfer
  /-- A dispatch mode was taken away. -/
  | policy
  /-- Targets were pruned, or the routing was reset. -/
  | state
deriving DecidableEq, Repr

/-- The published name of a category. -/
def Category.text : Category → String
  | .window => "window"
  | .pointer => "pointer"
  | .hover => "hover"
  | .pilfer => "pilfer"
  | .policy => "policy"
  | .state => "state"

/-- The categories in the order in which they are published. -/
def Category.all : List Category := [.window, .pointer, .hover, .pilfer, .policy, .state]

/-- How much a notice matters, from low to high. -/
inductive Severity where
  | trace
  | info
  | warn
deriving DecidableEq, Repr

/-- The place of a severity in the order. -/
def Severity.rank : Severity → Nat
  | .trace => 0
  | .info => 1
  | .warn => 2

/-- The published name of a severity. -/
def Severity.text : Severity → String
  | .trace => "trace"
  | .info => "info"
  | .warn => "warn"

/-- The severities from low to high. -/
def Severity.all : List Severity := [.trace, .info, .warn]

/-- Why dead targets were pruned. -/
inductive PruneReason where
  | noPointers
  | cancelled
  | pilfered
  | hoverEnded
  | deviceHoverEnded
deriving DecidableEq, Repr

/-- The published text of a reason. -/
def PruneReason.text : PruneReason → String
  | .noPointers => "no pointers"
  | .cancelled => "pointers cancelled"
  | .pilfered => "pilfered"
  | .hoverEnded => "hover ended"
  | .deviceHoverEnded => "device hover ended"

/-- What a concern is about; a concern about the same thing is not raised twice. -/
inductive Issue where
  /-- These pointers are claimed by more than one window. -/
  | overlap (pointers : PointerSet)
  /-- This connection claimed without touching anything. -/
  | idleClaim (token : Token)
deriving DecidableEq

/-- A decision that is worth a line. -/
inductive Notice where
  | added (window : Window) (pointers : PointerSet)
  | addedForHover (window : Window)
  | removedByToken (window : Window)
  | hovers (device : Number) (pointer : PointerId) (window : Window)
  | hoverLeft (device : Number) (pointer : PointerId)
  | exitDropsAsIs (window : Window)
  | filteredOut (window : Window)
  | cancelledFor (pointers : PointerSet) (window : Window) (token : Token)
  | cancelledElsewhere (pointers : PointerSet) (window : Window)
  | pilfered (token : Token) (pointers : PointerSet)
  | pruned (window : Window) (reason : PruneReason)
  | reset
  /-- A concern: pointers are claimed by more than one window. -/
  | overlappingClaims (pointers : PointerSet)
  /-- A concern: a connection claimed without touching a pointer of the device. -/
  | idleClaim (token : Token) (device : Int)
deriving DecidableEq

namespace Notice

/-- What a notice is about. -/
def category : Notice → Category
  | added .. | addedForHover .. | removedByToken .. => .window
  | hovers .. | hoverLeft .. => .hover
  | exitDropsAsIs .. | filteredOut .. => .policy
  | cancelledFor .. => .pointer
  | cancelledElsewhere .. | pilfered .. | overlappingClaims .. | idleClaim .. => .pilfer
  | pruned .. | reset => .state

/-- How much a notice matters. -/
def severity : Notice → Severity
  | added .. | addedForHover .. | hovers .. | hoverLeft .. | pruned .. | reset => .trace
  | removedByToken .. | exitDropsAsIs .. | filteredOut .. | cancelledFor ..
  | cancelledElsewhere .. | pilfered .. => .info
  | overlappingClaims .. | idleClaim .. => .warn

/-- A text in single quotes. -/
def quoted (text : String) : String := "'" ++ text ++ "'"

/-- What a notice says. -/
def message : Notice → String
  | added window pointers => "added " ++ quoted window.name ++ " with pointers " ++ pointers.text
  | addedForHover window => "added " ++ quoted window.name ++ " for hover"
  | removedByToken window => "removed " ++ quoted window.name ++ " by token"
  | hovers device pointer window =>
    "device " ++ device.text ++ " pointer " ++ pointer.number.text ++ " hovers " ++
      quoted window.name
  | hoverLeft device pointer =>
    "device " ++ device.text ++ " pointer " ++ pointer.number.text ++ " left"
  | exitDropsAsIs window => "slippery exit drops DISPATCH_AS_IS from " ++ quoted window.name
  | filteredOut window => "filtered out " ++ quoted window.name ++ " (not dispatched as-is)"
  | cancelledFor pointers window token =>
    "cancelled " ++ pointers.text ++ " from " ++ quoted window.name ++ " for token " ++
      quoted token.label
  | cancelledElsewhere pointers window =>
    "cancelled " ++ pointers.text ++ " from " ++ quoted window.name ++ " (pilfered elsewhere)"
  | pilfered token pointers => "token " ++ quoted token.label ++ " pilfered " ++ pointers.text
  | pruned window reason => "pruned " ++ quoted window.name ++ " (" ++ reason.text ++ ")"
  | reset => "reset"
  | overlappingClaims pointers =>
    "pointers " ++ pointers.text ++ " are pilfered by more than one window."
  | idleClaim token device =>
    "token " ++ quoted token.label ++ " requested a pilfer but touches no pointers of device " ++
      Number.intText device ++ "."

/-- The issue of a concern; plain notices have none. -/
def issue? : Notice → Option Issue
  | overlappingClaims pointers => some (.overlap pointers)
  | idleClaim token _ => some (.idleClaim token)
  | _ => none

/-- Concerns are what warns. -/
theorem severity_eq_warn_iff {notice : Notice} :
    notice.severity = .warn ↔ notice.issue?.isSome = true := by
  cases notice <;> simp [severity, issue?]

end Notice

end PointerRouting
