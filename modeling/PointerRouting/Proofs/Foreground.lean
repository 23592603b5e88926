/-
Module: PointerRouting.Proofs.Foreground
Purpose: The foreground of a gesture. Whether its pointers may slip is decided in one pass over the
  targets that remembers no more than whether a slippery foreground window has been met. What the
  pass decides is a count: there is exactly one foreground window, wherever its target stands, and
  that window is slippery.
Main exports: Window.hasConfig_eq_getLsbD, Routing.foreground, Routing.SoleForeground,
  Routing.soleForegroundSlips_iff, Routing.slippery_by_sole_foreground
-/
import PointerRouting.Proofs.Histories
import PointerRouting.Proofs.Modes
import PointerRouting.Proofs.Samples
import PointerRouting.Routing.Queries

namespace PointerRouting

theorem InputConfig.position_lt (config : InputConfig) : config.position < 32 := by
  cases config <;> decide

/-- A window is configured with a bit just in case its configuration has the bit. -/
theorem Window.hasConfig_eq_getLsbD (window : Window) (config : InputConfig) :
    window.hasConfig config = window.config.word.getLsbD config.position :=
  window.config.covers_twoPow config.position_lt

namespace Routing

/-- The targets in the foreground, in their order. -/
def foreground (targets : List Target) : List Target :=
  targets.filter (·.flags.carries .foreground)

/-- A target has the bit of a foreground window, and no target before it or after it has. -/
def SoleForeground (routing : Routing) (sole : Target) : Prop :=
  ∃ before after, routing.targets = before ++ sole :: after ∧
    sole.flags.word.getLsbD DispatchFlag.foreground.position = true ∧
    ∀ other ∈ before ++ after,
      other.flags.word.getLsbD DispatchFlag.foreground.position = false

variable {target : Target} {rest targets : List Target}

theorem foreground_cons_of_carries (carries : target.flags.carries .foreground = true) :
    foreground (target :: rest) = target :: foreground rest :=
  List.filter_cons_of_pos carries

theorem foreground_cons_of_not_carries (carries : target.flags.carries .foreground = false) :
    foreground (target :: rest) = foreground rest :=
  List.filter_cons_of_neg (by simp [carries])

/-- The pass finds that, after a slippery foreground window, no further window is in the foreground;
and before any, that exactly one is and that it is slippery. -/
theorem soleForegroundSlips_iff {met : Bool} :
    soleForegroundSlips met targets = true ↔
      met = true ∧ foreground targets = [] ∨
        met = false ∧
          ∃ sole, foreground targets = [sole] ∧ sole.window.hasConfig .slippery = true := by
  induction targets generalizing met with
  | nil => simp [soleForegroundSlips, foreground]
  | cons target rest ih =>
      cases carries : target.flags.carries .foreground with
      | false =>
          rw [soleForegroundSlips, foreground_cons_of_not_carries carries, ← ih]
          simp [carries]
      | true =>
          rw [soleForegroundSlips, foreground_cons_of_carries carries, if_pos carries]
          cases met with
          | true => simp
          | false =>
              cases slips : target.window.hasConfig .slippery with
              | false => simp [slips]
              | true => simp [ih, slips]

/-- To be the only target in the foreground is to be all of the foreground. -/
theorem soleForeground_iff {routing : Routing} {sole : Target} :
    routing.SoleForeground sole ↔ foreground routing.targets = [sole] := by
  simp only [SoleForeground, foreground, List.filter_eq_cons_iff, List.filter_eq_nil_iff,
    ← Mask.carries_eq_getLsbD, List.mem_append, Bool.not_eq_true]
  constructor
  · rintro ⟨before, after, split, carries, others⟩
    exact ⟨before, after, split, fun other first => others other (.inl first), carries,
      fun other last => others other (.inr last)⟩
  · rintro ⟨before, after, split, first, carries, last⟩
    refine ⟨before, after, split, carries, ?_⟩
    rintro other (listed | listed)
    · exact first other listed
    · exact last other listed

/-- The first foreground window is that of the first target in the foreground. -/
theorem firstForeground?_eq (routing : Routing) :
    routing.firstForeground? = (foreground routing.targets).head?.map Target.window := by
  rw [firstForeground?, foreground, List.head?_filter]

/-- The pointers of a gesture may slip just in case exactly one target has the bit of a foreground
window, with any number of others before it and after it, and its window has the bit of a slippery
one. The only target in the foreground is the one whose window is found as the first foreground
window. -/
theorem slippery_by_sole_foreground (routing : Routing) :
    (routing.isSlippery = true ↔
      ∃ sole, routing.SoleForeground sole ∧
        sole.window.config.word.getLsbD InputConfig.slippery.position = true) ∧
    ∀ sole, routing.SoleForeground sole → routing.firstForeground? = some sole.window := by
  constructor
  · rw [isSlippery, soleForegroundSlips_iff]
    simp only [soleForeground_iff, Window.hasConfig_eq_getLsbD, Bool.false_eq_true, false_and,
      false_or, true_and]
  · intro sole isSole
    rw [firstForeground?_eq, soleForeground_iff.mp isSole]
    rfl

/-- A slippery app in the foreground. -/
def slipperyApp : Target :=
  { window := { Window.app with config := .ofWord InputConfig.slippery.bit }
    flags := DispatchFlag.mask [.foreground, .asIs] }

/-- The app between two targets that are not in the foreground; the last window is slippery too. -/
def appInTheMiddle : Routing where
  targets :=
    [{ window := .spy, flags := DispatchFlag.mask [.asOutside] }, slipperyApp,
      { window := { slipperyApp.window with serial := 2 }, flags := DispatchFlag.mask [.asIs] }]

/-- It is the app in the middle that decides. -/
theorem app_in_the_middle_slips :
    appInTheMiddle.SoleForeground slipperyApp ∧ appInTheMiddle.isSlippery = true ∧
      appInTheMiddle.firstForeground? = some slipperyApp.window := by
  have sole : appInTheMiddle.SoleForeground slipperyApp := by
    refine ⟨[_], [_], rfl, ?_, ?_⟩
    · decide
    · decide
  obtain ⟨slips, first⟩ := slippery_by_sole_foreground appInTheMiddle
  exact ⟨sole, slips.mpr ⟨slipperyApp, sole, by decide⟩, first slipperyApp sole⟩

end Routing

end PointerRouting
