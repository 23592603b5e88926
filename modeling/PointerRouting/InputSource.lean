/-
Module: PointerRouting.InputSource
Purpose: The sources that events come from. A source is a word made of class bits and device
  bits; routing carries it for its reader only.
Main exports: InputSource, InputSource.word, InputSource.all, InputSource.text
-/
import PointerRouting.Listing

namespace PointerRouting

/-- The named sources. -/
inductive InputSource where
  | unknown
  | keyboard
  | dpad
  | gamepad
  | touchscreen
  | mouse
  | stylus
  | trackball
  | mouseRelative
  | touchpad
  | touchNavigation
  | joystick
  | rotaryEncoder
deriving DecidableEq, Repr

namespace InputSource

/-- The sources in the order in which they are published and listed. -/
def all : List InputSource :=
  [unknown, keyboard, dpad, gamepad, touchscreen, mouse, stylus, trackball, mouseRelative,
    touchpad, touchNavigation, joystick, rotaryEncoder]

/-- The bits of a source. -/
def word : InputSource → BitVec 32
  | unknown => 0x00000000
  | keyboard => 0x00000101
  | dpad => 0x00000201
  | gamepad => 0x00000401
  | touchscreen => 0x00001002
  | mouse => 0x00002002
  | stylus => 0x00004002
  | trackball => 0x00010004
  | mouseRelative => 0x00020004
  | touchpad => 0x00100008
  | touchNavigation => 0x00200000
  | joystick => 0x01000010
  | rotaryEncoder => 0x00400000

/-- The published name of a source. -/
def name : InputSource → String
  | unknown => "UNKNOWN"
  | keyboard => "KEYBOARD"
  | dpad => "DPAD"
  | gamepad => "GAMEPAD"
  | touchscreen => "TOUCHSCREEN"
  | mouse => "MOUSE"
  | stylus => "STYLUS"
  | trackball => "TRACKBALL"
  | mouseRelative => "MOUSE_RELATIVE"
  | touchpad => "TOUCHPAD"
  | touchNavigation => "TOUCH_NAVIGATION"
  | joystick => "JOYSTICK"
  | rotaryEncoder => "ROTARY_ENCODER"

/-- The sources by name, in their order. -/
def published : List (String × Nat) := all.map fun source => (source.name, source.word.toNat)

/-- The named sources other than `unknown` all of whose bits are in a word. -/
def within (bits : BitVec 32) : List InputSource :=
  all.filter fun source => source.word ≠ 0 ∧ bits &&& source.word = source.word

/-- The bits that some listed source accounts for. -/
def covered (sources : List InputSource) : BitVec 32 :=
  sources.foldl (fun word source => word ||| source.word) 0

/-- The text of a word of sources: the names within it in their order, then the bits that none
of them accounts for, in at least eight digits. -/
def text (bits : BitVec 32) : String :=
  if bits = 0 then unknown.name
  else
    let listed := within bits
    let leftover := bits &&& ~~~covered listed
    joined " | " (listed.map name ++ if leftover = 0 then [] else [hexText 8 leftover])

end InputSource

end PointerRouting
