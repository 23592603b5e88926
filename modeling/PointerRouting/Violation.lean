/-
Module: PointerRouting.Violation
Purpose: The preconditions a caller can break. Routing has no recoverable failures: an operation
  succeeds or reports which of three rules its caller broke, and with which value.
Main exports: ViolationCode, Violation, Violation.message, Report
-/
import PointerRouting.Number.Text

namespace PointerRouting

/-- The closed set of broken preconditions. -/
inductive ViolationCode where
  | windowNotTouched
  | invalidPointerId
  | invalidDeviceId
deriving DecidableEq, Repr

/-- The published name of a code. -/
def ViolationCode.text : ViolationCode → String
  | .windowNotTouched => "TR_WINDOW_NOT_TOUCHED"
  | .invalidPointerId => "TR_INVALID_POINTER_ID"
  | .invalidDeviceId => "TR_INVALID_DEVICE_ID"

/-- A broken precondition with the value that broke it. -/
inductive Violation where
  /-- A lookup that must succeed named a window that takes no part. -/
  | windowNotTouched (windowName : String)
  /-- A pointer id was no integer from 0 to 31. -/
  | pointerOutOfRange (pointer : Number)
  /-- A device id was no integer of safe magnitude. -/
  | deviceNotSafe (device : Number)
deriving DecidableEq

namespace Violation

/-- The code a violation is published under. -/
def code : Violation → ViolationCode
  | .windowNotTouched _ => .windowNotTouched
  | .pointerOutOfRange _ => .invalidPointerId
  | .deviceNotSafe _ => .invalidDeviceId

/-- What a violation says. -/
def message : Violation → String
  | .windowNotTouched windowName => "Could not find " ++ windowName
  | .pointerOutOfRange pointer => "pointer id " ++ pointer.text ++ " is outside 0..31"
  | .deviceNotSafe device => "device id " ++ device.text ++ " is not a safe integer"

end Violation

/-- A violation as its reader gets it: a code and a message. -/
structure Report where
  code : ViolationCode
  message : String
deriving DecidableEq

namespace Report

/-- The kind under which every report is raised, whatever its code. -/
def kind : String := "TouchRoutingError"

/-- A report without a message of its own says its code; an empty message is a message. -/
def make (code : ViolationCode) (message : Option String) : Report :=
  { code, message := message.getD code.text }

/-- The report of a violation. -/
def ofViolation (violation : Violation) : Report := make violation.code (some violation.message)

end Report

end PointerRouting
