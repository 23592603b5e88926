/-
Module: PointerRouting.Proofs.Replay
Purpose: What calls leave of a generator. Whatever is asked of it, a call moves it by one draw, or
  not at all when it is to pick from nothing; so after any calls, failed ones among them, it is the
  generator of the seed that lies so many strides further on, and answers as that one does. The
  stride is odd, so it takes 2^32 draws, and no fewer, to come back.
Main exports: Generator.Call, Generator.Call.perform, Generator.performAll, Generator.advance,
  Generator.exists_answer, Generator.performAll_append, Generator.moved_performAll,
  Generator.advance_eq_self_iff, Generator.minimalPeriod_step, Generator.advance_seeded,
  Generator.replays_with_full_period
-/
import Mathlib.Data.Nat.GCD.Basic
import Mathlib.Dynamics.PeriodicPts.Defs
import PointerRouting.Proofs.BoundedDraws

namespace PointerRouting.Generator

variable {Item : Type}

/-- What a generator can be asked for. -/
inductive Call (Item : Type) where
  | fraction
  | int (bound other : Number)
  | bool (chance : Number)
  | pick (items : List (Option Item))

/-- What a generator answers. -/
inductive Reply (Item : Type) where
  | number (value : Number)
  | truth (value : Bool)
  | picked (outcome : Except PickFailure Item)

/-- Answer a call. -/
def Call.perform (generator : Generator) : Call Item → Reply Item × Generator
  | fraction => generator.fraction.map .number id
  | int bound other => (generator.int bound other).map .number id
  | bool chance => (generator.bool chance).map .truth id
  | pick items => (generator.pick items).map .picked id

/-- Answer calls one after another. A call that fails does not keep the later ones from being
made. -/
def performAll (generator : Generator) : List (Call Item) → List (Reply Item) × Generator
  | [] => ([], generator)
  | call :: calls =>
    let (reply, moved) := call.perform generator
    (performAll moved calls).map (reply :: ·) id

/-- How many draws a call costs. -/
def Call.cost : Call Item → Nat
  | pick [] => 0
  | _ => 1

/-- How many draws calls cost together. -/
def costs (calls : List (Call Item)) : Nat := (calls.map Call.cost).sum

/-- The generator moved by one draw. -/
def step (generator : Generator) : Generator := generator.next.2

/-- The generator moved by so many draws. -/
def advance (generator : Generator) (draws : Nat) : Generator := step^[draws] generator

/-- Picking from some places asks for one of them, and fails if there is nothing at it. -/
theorem pick_of_ne_nil (generator : Generator) {items : List (Option Item)}
    (nonempty : items ≠ []) :
    generator.pick items =
      ((itemAt items (generator.int 0 (.ofInt (items.length - 1))).1).elim
        (.error PickFailure.missingItem) .ok, generator.step) := by
  have notEmpty : items.isEmpty = false := by simpa using nonempty
  have moved : (generator.int 0 (.ofInt (items.length - 1))).2 = generator.step := rfl
  simp only [pick, notEmpty, ← moved]
  cases itemAt items (generator.int 0 (.ofInt (items.length - 1))).1 with
  | none => rfl
  | some item => rfl

/-- A call other than to pick from nothing makes its answer from the word of one draw. -/
theorem exists_answer {call : Call Item} (asks : call ≠ .pick []) :
    ∃ answer : BitVec 32 → Reply Item, ∀ generator : Generator,
      call.perform generator = (answer generator.next.1, generator.step) := by
  cases call with
  | fraction =>
      exact ⟨fun word => .number (.finite (word.toNat / 2 ^ (32 : Nat))), fun _ => rfl⟩
  | int bound other => exact ⟨fun word => .number (placed word.toNat bound other), fun _ => rfl⟩
  | bool chance =>
      exact ⟨fun word => .truth ((Number.finite (word.toNat / 2 ^ (32 : Nat))).below chance),
        fun _ => rfl⟩
  | pick items =>
      have nonempty : items ≠ [] := fun none => asks (congrArg Call.pick none)
      refine ⟨fun word => .picked ((itemAt items
        (placed word.toNat 0 (.ofInt (items.length - 1)))).elim (.error .missingItem) .ok), ?_⟩
      intro generator
      rw [Call.perform, pick_of_ne_nil generator nonempty]
      rfl

theorem Call.cost_of_ne {call : Call Item} (asks : call ≠ .pick []) : call.cost = 1 := by
  cases call with
  | pick items =>
      cases items with
      | nil => exact absurd rfl asks
      | cons => rfl
  | _ => rfl

/-- A call moves the generator by the draws that it costs. -/
theorem moved_perform (call : Call Item) (generator : Generator) :
    (call.perform generator).2 = generator.advance call.cost := by
  by_cases nothing : call = .pick []
  · rw [nothing]
    rfl
  · obtain ⟨answer, performs⟩ := exists_answer nothing
    rw [performs, Call.cost_of_ne nothing]
    rfl

theorem performAll_append (generator : Generator) (first second : List (Call Item)) :
    performAll generator (first ++ second) =
      (performAll (performAll generator first).2 second).map ((performAll generator first).1 ++ ·)
        id := by
  induction first generalizing generator with
  | nil => rfl
  | cons call calls ih =>
      simp only [List.cons_append, performAll, ih]
      rfl

/-- Calls move the generator by the draws that they cost together. -/
theorem moved_performAll (calls : List (Call Item)) (generator : Generator) :
    (performAll generator calls).2 = generator.advance (costs calls) := by
  induction calls generalizing generator with
  | nil => rfl
  | cons call calls ih =>
      have next : (performAll generator (call :: calls)).2 =
          (performAll (call.perform generator).2 calls).2 := rfl
      rw [next, ih, moved_perform, advance, advance, ← Function.iterate_add_apply, costs, costs,
        List.map_cons, List.sum_cons, Nat.add_comm]
      rfl

/-- So many draws move the state by as many strides. -/
theorem state_advance (generator : Generator) (draws : Nat) :
    (generator.advance draws).state = generator.state + BitVec.ofNat 32 (draws * 0x6d2b79f5) := by
  induction draws with
  | zero => simp [advance]
  | succ draws ih =>
      have next : (generator.advance (draws + 1)).state =
          (generator.advance draws).state + stride := by
        rw [advance, Function.iterate_succ_apply']
        rfl
      rw [next, ih, Nat.add_mul, Nat.one_mul, BitVec.ofNat_add, BitVec.add_assoc]
      rfl

/-- Since the stride is odd, only multiples of 2^32 draws lead back. -/
theorem advance_eq_self_iff (generator : Generator) (draws : Nat) :
    generator.advance draws = generator ↔ 2 ^ 32 ∣ draws := by
  have odd : Nat.Coprime (2 ^ 32) 0x6d2b79f5 := by decide +kernel
  have back : generator.advance draws = generator ↔
      (generator.advance draws).state = generator.state := by
    cases generator.advance draws
    cases generator
    rw [mk.injEq]
  rw [back, state_advance, BitVec.add_right_eq_self, BitVec.toNat_eq, BitVec.toNat_ofNat]
  exact Nat.dvd_iff_mod_eq_zero.symm.trans (Nat.Coprime.dvd_mul_right odd)

/-- The cycle of a generator has the length 2^32, whatever its seed. -/
theorem minimalPeriod_step (generator : Generator) :
    Function.minimalPeriod step generator = 2 ^ 32 := by
  apply Nat.dvd_antisymm
  · have back : Function.IsPeriodicPt step (2 ^ 32) generator :=
      (advance_eq_self_iff generator (2 ^ 32)).mpr (Nat.dvd_refl _)
    exact back.minimalPeriod_dvd
  · have back := Function.isPeriodicPt_minimalPeriod step generator
    exact (advance_eq_self_iff generator _).mp back

/-- Draws lead from the generator of a seed to that of the seed so many strides further on. -/
theorem advance_seeded (seed : Int) (draws : Nat) :
    (seeded (.ofInt seed)).advance draws =
      seeded (.ofInt ((seed + draws * 0x6d2b79f5) % 2 ^ 32)) := by
  have strides : BitVec.ofNat 32 (draws * 0x6d2b79f5) =
      BitVec.ofInt 32 (draws * 0x6d2b79f5 : Nat) := (BitVec.ofInt_natCast _ _).symm
  have states : ((seeded (.ofInt seed)).advance draws).state =
      (seeded (.ofInt ((seed + draws * 0x6d2b79f5) % 2 ^ 32))).state := by
    rw [state_advance]
    simp only [seeded, Number.word_ofInt]
    rw [strides, ← BitVec.ofInt_add, ← BitVec.toInt_inj, BitVec.toInt_ofInt, BitVec.toInt_ofInt,
      Nat.cast_mul]
    exact (Int.emod_bmod _ _).symm
  exact congrArg mk states

/-- The generator of a seed is also that of the seed as published, the word that the seed stands
for. -/
theorem seeded_word (seed : Number) : seeded (.ofInt seed.word.toNat) = seeded seed := by
  rw [seeded, seeded, Number.word_ofInt, BitVec.ofInt_natCast, BitVec.ofNat_toNat,
    BitVec.setWidth_eq]

/-- What is asked of a generator can be replayed from where it left off. To pick from nothing fails
and draws nothing; every other call draws one word and answers by it alone, also the picking of an
item that turns out to be missing, which fails. After any calls the generator is the one of the seed
that lies on by a stride for each draw that they cost, modulo 2^32, so whatever is asked next is
answered as by that one. A seed that is an integer may be counted from as it is; any seed may be
counted from as the word that it is published as, and a seed that is no integer as that word only,
since the word has lost its fraction. Back at its start the generator is after 2^32 draws, and never
before. -/
theorem replays_with_full_period (seed : Number) (calls more : List (Call Item)) :
    let start := seeded seed
    let draws := costs calls
    (∀ generator : Generator,
      (Call.pick ([] : List (Option Item))).perform generator =
        (.picked (.error .noItems), generator)) ∧
    (∀ call : Call Item, call ≠ .pick [] →
      ∃ answer : BitVec 32 → Reply Item, ∀ generator : Generator,
        call.perform generator = (answer generator.next.1, generator.next.2)) ∧
    (∀ (generator : Generator) (items : List (Option Item)), items ≠ [] →
      itemAt items (generator.int 0 (.ofInt (items.length - 1))).1 = none →
        (Call.pick items).perform generator = (.picked (.error .missingItem), generator.next.2)) ∧
    (∀ value : Int, seed = .ofInt value ∨ value = seed.word.toNat →
      let reached := seeded (.ofInt ((value + draws * 0x6d2b79f5) % 2 ^ 32))
      (performAll start calls).2 = reached ∧
        performAll start (calls ++ more) =
          ((performAll start calls).1 ++ (performAll reached more).1,
            (performAll reached more).2)) ∧
    ((performAll start calls).2 = start ↔ 2 ^ 32 ∣ draws) ∧
    Function.minimalPeriod (fun generator : Generator => generator.next.2) start = 2 ^ 32 := by
  intro start draws
  refine ⟨fun _ => rfl, fun _ asks => exists_answer asks, ?_, ?_, ?_, minimalPeriod_step start⟩
  · intro generator items nonempty missing
    rw [Call.perform, pick_of_ne_nil generator nonempty, missing]
    rfl
  · intro value stands reached
    have same : start = seeded (.ofInt value) := by
      rcases stands with whole | published
      · rw [← whole]
      · rw [published, seeded_word]
    have moved : (performAll start calls).2 = reached := by
      rw [moved_performAll, same, advance_seeded]
    refine ⟨moved, ?_⟩
    rw [performAll_append, moved]
    rfl
  · rw [moved_performAll]
    exact advance_eq_self_iff start draws

/-- From seed -1 five calls, of which one picks from nothing and one hits a gap, cost four draws:
the sixth is answered as the first one of the seed that lies four strides on. -/
theorem seed_minus_1_replayed :
    let start := seeded (.ofInt (-1))
    let calls : List (Call String) :=
      [.fraction, .pick [], .pick [none], .int 1 6, .bool evenChance]
    let more : List (Call String) := [.fraction]
    let reached := seeded (.ofInt ((-1 + 4 * 0x6d2b79f5) % 2 ^ 32))
    (Call.pick ([none] : List (Option String))).perform start =
        (.picked (.error .missingItem), start.next.2) ∧
      performAll start (calls ++ more) =
        ((performAll start calls).1 ++ (performAll reached more).1,
          (performAll reached more).2) := by
  intro start calls more reached
  obtain ⟨_, _, misses, replays, _⟩ :=
    replays_with_full_period (.ofInt (-1)) calls more
  exact ⟨misses start [none] (by decide) (by decide +kernel), (replays (-1) (.inl rfl)).2⟩

end PointerRouting.Generator
