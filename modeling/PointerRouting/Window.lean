/-
Module: PointerRouting.Window
Purpose: Windows as routing sees them. A window is known by its handle alone: names are for
  readers and may coincide, and several handles may carry one connection token. Serial numbers
  tell handles and tokens apart.
Main exports: Token, InputConfig, Window, Window.hasConfig
-/
import PointerRouting.Mask

namespace PointerRouting

/-- A connection. Its serial number is its identity; the label is for readers. -/
structure Token where
  serial : Nat
  label : String
deriving DecidableEq, Inhabited

/-- The named bits of a window's input configuration. -/
inductive InputConfig where
  | noInputChannel
  | notVisible
  | notFocusable
  | notTouchable
  | preventSplitting
  | duplicateTouchToWallpaper
  | isWallpaper
  | pauseDispatching
  | trustedOverlay
  | watchOutsideTouch
  | slippery
deriving DecidableEq, Repr

namespace InputConfig

/-- The configuration bits in ascending order. -/
def all : List InputConfig :=
  [noInputChannel, notVisible, notFocusable, notTouchable, preventSplitting,
    duplicateTouchToWallpaper, isWallpaper, pauseDispatching, trustedOverlay,
    watchOutsideTouch, slippery]

/-- The position of a configuration bit. -/
def position : InputConfig → Nat
  | noInputChannel => 0
  | notVisible => 1
  | notFocusable => 2
  | notTouchable => 3
  | preventSplitting => 4
  | duplicateTouchToWallpaper => 5
  | isWallpaper => 6
  | pauseDispatching => 7
  | trustedOverlay => 8
  | watchOutsideTouch => 9
  | slippery => 10

/-- The word with only a configuration bit. -/
def bit (config : InputConfig) : BitVec 32 := BitVec.twoPow 32 config.position

/-- The published name of a configuration bit. -/
def name : InputConfig → String
  | noInputChannel => "NO_INPUT_CHANNEL"
  | notVisible => "NOT_VISIBLE"
  | notFocusable => "NOT_FOCUSABLE"
  | notTouchable => "NOT_TOUCHABLE"
  | preventSplitting => "PREVENT_SPLITTING"
  | duplicateTouchToWallpaper => "DUPLICATE_TOUCH_TO_WALLPAPER"
  | isWallpaper => "IS_WALLPAPER"
  | pauseDispatching => "PAUSE_DISPATCHING"
  | trustedOverlay => "TRUSTED_OVERLAY"
  | watchOutsideTouch => "WATCH_OUTSIDE_TOUCH"
  | slippery => "SLIPPERY"

/-- The configurations by name: the one without bits, then the bits in ascending order. -/
def published : List (String × Nat) :=
  ("DEFAULT", 0) :: all.map fun config => (config.name, config.bit.toNat)

end InputConfig

/-- A window handle. -/
structure Window where
  serial : Nat
  token : Token
  name : String
  config : Mask := .none
deriving DecidableEq, Inhabited

/-- Whether a window's configuration has a bit. -/
def Window.hasConfig (window : Window) (config : InputConfig) : Bool :=
  window.config.covers (.ofWord config.bit)

end PointerRouting
