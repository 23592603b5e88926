/-
Module: PointerRouting.Operation
Purpose: What can be asked of a routing, as data: the operations that change it and the queries
  that do not. A history of a routing is a list of operations.
Main exports: Operation, Operation.apply, Operation.runAll, Query, Answer, Query.ask
-/
import PointerRouting.Routing.Changes
import PointerRouting.Routing.Pilfer
import PointerRouting.Routing.Queries

namespace PointerRouting

/-- The operations on a routing. -/
inductive Operation where
  | bind (device source : Number)
  | reset
  | lift (pointer : Number)
  | liftFrom (pointer : Number) (window : Window)
  | endHovers
  | prune
  | touch (window : Window) (flags : Mask) (pointers : PointerSet) (time : Option Number)
  | hover (window : Window) (device pointer : Number)
  | removeToken (token : Token)
  | commit
  | cancelExcept (pointers : PointerSet) (token : Token)
  | resolveClaims
  | pilfer (token : Token)
  | unhover (device pointer : Number)
  | unhoverDevice (device : Number)
  | revise (window : Window) (change : Target.Change)

/-- Carry an operation out. -/
def Operation.apply : Operation → Routing → Outcome
  | bind device source, routing => routing.bind device source
  | reset, routing => routing.reset
  | lift pointer, routing => routing.lift pointer
  | liftFrom pointer window, routing => routing.liftFrom pointer window
  | endHovers, routing => routing.endHovers
  | prune, routing => routing.prune .noPointers
  | touch window flags pointers time, routing => routing.touch window flags pointers time
  | hover window device pointer, routing => routing.hover window device pointer
  | removeToken token, routing => routing.removeToken token
  | commit, routing => routing.commit
  | cancelExcept pointers token, routing => routing.cancelExcept pointers token
  | resolveClaims, routing => routing.resolveClaims
  | pilfer token, routing => routing.pilfer token
  | unhover device pointer, routing => routing.unhover device pointer
  | unhoverDevice device, routing => routing.unhoverDevice device
  | revise window change, routing => routing.revise window change

/-- Carry operations out one after another, up to the first violation. -/
def Operation.runAll : List Operation → Routing → Outcome
  | [], routing => { routing }
  | operation :: rest, routing => (operation.apply routing).andThen (runAll rest)

/-- The queries on a routing. -/
inductive Query where
  | binding
  | firstForeground
  | isSlippery
  | wallpaper
  | target (window : Window)
  | isDown
  | hoveredBy (device pointer : Number)
  | isHovered
  | holds (token : Token) (pointer : Number)
  | touching
  | isEmpty
  | text

/-- What a query is answered with. -/
inductive Answer where
  | binding (device : Int) (source : BitVec 32)
  | window (window : Option Window)
  | windows (windows : List Window)
  | truth (value : Bool)
  | target (target : Target)
  | pointers (pointers : PointerSet)
  | text (text : String)
deriving DecidableEq

/-- Answer a query. -/
def Query.ask : Query → Routing → Except Violation Answer
  | binding, routing => return .binding routing.device routing.source
  | firstForeground, routing => return .window routing.firstForeground?
  | isSlippery, routing => return .truth routing.isSlippery
  | wallpaper, routing => return .window routing.wallpaper?
  | target window, routing => return .target (← routing.target window)
  | isDown, routing => return .truth routing.isDown
  | hoveredBy device pointer, routing => return .windows (← routing.hoveredBy device pointer)
  | isHovered, routing => return .truth routing.isHovered
  | holds token pointer, routing => return .truth (← routing.holds token pointer)
  | touching, routing => return .pointers routing.touching
  | isEmpty, routing => return .truth routing.isEmpty
  | text, routing => return .text routing.text

end PointerRouting
