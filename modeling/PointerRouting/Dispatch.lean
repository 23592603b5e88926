/-
Module: PointerRouting.Dispatch
Purpose: How a window is given the events of a gesture: under one of four modes, with independent
  attributes beside the mode. Both are bits of one mask.
Main exports: DispatchFlag, DispatchFlag.bit, DispatchFlag.all, Mask.carries, Dispatch.modeBits,
  Dispatch.text
-/
import PointerRouting.Listing
import PointerRouting.Mask

namespace PointerRouting

/-- The named bits of a dispatch mask. -/
inductive DispatchFlag where
  /-- The window is the foreground target of the gesture. -/
  | foreground
  /-- Another visible window obscures this one at the touch location. -/
  | obscured
  /-- Pointers of the gesture may be split across windows. -/
  | split
  /-- Coordinates are delivered as zero. -/
  | zeroCoordinates
  /-- Mode: the event is delivered as it is. -/
  | asIs
  /-- Mode: the window hears of a touch outside it. -/
  | asOutside
  /-- Mode: the pointer slipped out of the window. -/
  | asSlipperyExit
  /-- Mode: the pointer slipped into the window. -/
  | asSlipperyEnter
  /-- Another window overlaps this one somewhere, not necessarily at the touch. -/
  | partiallyObscured
deriving DecidableEq, Repr

namespace DispatchFlag

/-- The flags in ascending order of their bits. -/
def all : List DispatchFlag :=
  [foreground, obscured, split, zeroCoordinates, asIs, asOutside, asSlipperyExit,
    asSlipperyEnter, partiallyObscured]

/-- The position of a flag's bit. -/
def position : DispatchFlag → Nat
  | foreground => 0
  | obscured => 1
  | split => 2
  | zeroCoordinates => 3
  | asIs => 8
  | asOutside => 9
  | asSlipperyExit => 12
  | asSlipperyEnter => 13
  | partiallyObscured => 14

/-- The word with only a flag's bit. -/
def bit (flag : DispatchFlag) : BitVec 32 := BitVec.twoPow 32 flag.position

/-- The published name of a flag. -/
def name : DispatchFlag → String
  | foreground => "FOREGROUND"
  | obscured => "WINDOW_IS_OBSCURED"
  | split => "SPLIT"
  | zeroCoordinates => "ZERO_COORDS"
  | asIs => "DISPATCH_AS_IS"
  | asOutside => "DISPATCH_AS_OUTSIDE"
  | asSlipperyExit => "DISPATCH_AS_SLIPPERY_EXIT"
  | asSlipperyEnter => "DISPATCH_AS_SLIPPERY_ENTER"
  | partiallyObscured => "WINDOW_IS_PARTIALLY_OBSCURED"

/-- The flags by name, in ascending order of their bits. -/
def published : List (String × Nat) := all.map fun flag => (flag.name, flag.bit.toNat)

/-- The word of several flags. -/
def bits (flags : List DispatchFlag) : BitVec 32 :=
  flags.foldl (fun word flag => word ||| flag.bit) 0

/-- The mask of several flags. -/
def mask (flags : List DispatchFlag) : Mask := .ofWord (bits flags)

end DispatchFlag

/-- Whether a mask carries a dispatch flag. -/
def Mask.carries (mask : Mask) (flag : DispatchFlag) : Bool := mask.covers (.ofWord flag.bit)

namespace Dispatch

/-- The bits that choose a mode of delivery. -/
def modeBits : BitVec 32 :=
  DispatchFlag.bits [.asIs, .asOutside, .asSlipperyEnter, .asSlipperyExit]

/-- The bits that have a name. -/
def namedBits : BitVec 32 := DispatchFlag.bits DispatchFlag.all

/-- The parts of a mask's text: the names of its named bits in ascending order, then the bits
without a name in hexadecimal. -/
def parts (bits : BitVec 32) : List String :=
  let names := (DispatchFlag.all.filter fun flag => bits &&& flag.bit ≠ 0).map DispatchFlag.name
  let unnamed := bits &&& ~~~namedBits
  if unnamed = 0 then names else names ++ [hexText 1 unnamed]

/-- The text of a dispatch mask. A mask stored as zero is written `0x0`; one that was stored as
something else and still has no bits has no parts and so no text. -/
def text (mask : Mask) : String :=
  if mask.stored = 0 then "0x0" else joined " | " (parts mask.word)

end Dispatch

end PointerRouting
