/-
Module: PointerRouting.Proofs.Samples
Purpose: The windows that closed instances speak of. General results do not mention them.
Main exports: Window.alone, Window.spy, Window.app
-/
import PointerRouting.Window

namespace PointerRouting.Window

/-- A window with a connection of its own, under the label that is its name. -/
def alone (serial : Nat) (name : String) : Window :=
  { serial, token := { serial, label := name }, name }

/-- A window that watches what others receive. -/
def spy : Window := alone 0 "spy"

/-- A window that is there to be used. -/
def app : Window := alone 1 "app"

end PointerRouting.Window
