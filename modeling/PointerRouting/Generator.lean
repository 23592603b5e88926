/-
Module: PointerRouting.Generator
Purpose: A seeded generator for randomised checks of routing. Its state is one word that moves by
  a fixed odd stride, and a draw mixes the word it has moved to; the same seed therefore replays
  the same draws.
Main exports: Generator, Generator.seeded, Generator.next, Generator.fraction, Generator.int,
  Generator.bool, Generator.pick
-/
import PointerRouting.Number.Rounding

namespace PointerRouting

/-- A generator is the word it has moved to. -/
structure Generator where
  state : BitVec 32
deriving DecidableEq

namespace Generator

/-- How far one draw moves the state. -/
def stride : BitVec 32 := 0x6d2b79f5

/-- The generator of a seed, taken as a 32-bit word. -/
def seeded (seed : Number) : Generator := ⟨seed.word⟩

/-- The mixing of a state into a draw. -/
def mix (state : BitVec 32) : BitVec 32 :=
  let first := (state ^^^ (state >>> 15)) * (state ||| 1)
  let second := first ^^^ (first + (first ^^^ (first >>> 7)) * (first ||| 61))
  second ^^^ (second >>> 14)

/-- Draw a word. -/
def next (generator : Generator) : BitVec 32 × Generator :=
  let state := generator.state + stride
  (mix state, ⟨state⟩)

/-- Draw a number from zero up to one: a word as a fraction of 2^32, which needs no rounding. -/
def fraction (generator : Generator) : Number × Generator :=
  let (draw, moved) := generator.next
  (.finite ((draw.toNat : Rat) / 2 ^ (32 : Nat)), moved)

/-- Draw an integer between two bounds, both included, in whichever order they come. Bounds that
leave no integer between them, or are not finite, still cost a draw. -/
def int (generator : Generator) (bound other : Number) : Number × Generator :=
  let low := (bound.min other).ceil
  let high := (bound.max other).floor
  let (draw, moved) := generator.fraction
  let count := (high.sub low).add 1
  (low.add (draw.mul count).floor, moved)

/-- Draw true with the given chance. -/
def bool (generator : Generator) (chance : Number) : Bool × Generator :=
  let (draw, moved) := generator.fraction
  (draw.below chance, moved)

/-- The chance of a draw of true that does not name one. -/
def evenChance : Number := .finite (1 / 2)

/-- Why nothing could be picked. -/
inductive PickFailure where
  /-- There was nothing to pick from; nothing is drawn. -/
  | noItems
  /-- The place that was drawn holds no item. -/
  | missingItem
deriving DecidableEq

/-- What a failure to pick says. -/
def PickFailure.message : PickFailure → String
  | .noItems => "createRng.pick: items must not be empty"
  | .missingItem => "createRng.pick: index out of range"

/-- The item at a drawn place. -/
def itemAt {α : Type} (items : List (Option α)) (place : Number) : Option α := do
  let index ← place.toInt?
  if 0 ≤ index then (items[index.toNat]?).join else none

/-- Pick one of the items; places may be empty. -/
def pick {α : Type} (generator : Generator) (items : List (Option α)) :
    Except PickFailure α × Generator :=
  if items.isEmpty then (.error .noItems, generator)
  else
    let (place, moved) := generator.int 0 (.ofInt (items.length - 1))
    match itemAt items place with
    | some item => (.ok item, moved)
    | none => (.error .missingItem, moved)

end Generator

end PointerRouting
