/-
Module: PointerRouting.Router
Purpose: A routing under observation: every operation acts on the routing, and the notices it
  gives go to the monitor when it is over. `PointerRouting.Proofs.Delivery` has routers side by
  side with sessions, which report while they work.
Main exports: Router, Router.make, Step, Router.perform, Router.step
-/
import PointerRouting.Monitor
import PointerRouting.Operation

namespace PointerRouting

/-- A routing with its monitor. -/
structure Router where
  routing : Routing := {}
  monitor : Monitor := {}
deriving DecidableEq

/-- What one step of a router leaves behind. -/
structure Step where
  router : Router
  events : List Event
  claimed : PointerSet
  violation : Option Violation

namespace Router

/-- A router as it is made: no device, no targets, nothing raised. -/
def make (options : Monitor.Options) : Router := { monitor := { options } }

/-- Do something to the routing and hand its notices to the monitor. -/
def perform (router : Router) (action : Routing → Outcome) : Step :=
  let outcome := action router.routing
  let (monitor, events) := router.monitor.observeAll outcome.notices
  { router := { routing := outcome.routing, monitor }
    events
    claimed := outcome.claimed
    violation := outcome.violation }

/-- Carry an operation out. -/
def step (router : Router) (operation : Operation) : Step := router.perform operation.apply

end Router

end PointerRouting
