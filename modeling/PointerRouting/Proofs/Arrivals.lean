/-
Module: PointerRouting.Proofs.Arrivals
Purpose: Targets stand in the order in which they arrived. A window has one target at most, an
  operation takes targets out and may add one at the end, and so the order in the routing is the
  order of creation along every history. Whoever looks a window up finds the only one there is,
  and a pointer hovers over as many windows as there are targets it hovers over.
Main exports: Operation.enters?, Routing.CreatedAt, Routing.CreatedBefore,
  Routing.pairwise_created, Routing.arrivals_next, Routing.find?_eq_some_iff,
  Routing.hoveredBy_number, Routing.targets_in_order_of_arrival
-/
import Mathlib.Data.List.Induction
import Mathlib.Data.List.Nodup
import PointerRouting.Proofs.Histories
import PointerRouting.Proofs.Samples

namespace PointerRouting

namespace Operation

/-- The window that an operation makes a target for if it has none. -/
def enters? : Operation → Option Window
  | touch window .. => some window
  | hover window .. => some window
  | _ => none

/-- Targets are added by touching and by hovering alone. -/
theorem Adds.touch_or_hover {operation : Operation} {routing : Routing} {new : Target}
    (adds : operation.Adds routing new) :
    (∃ flags pointers time, operation = .touch new.window flags pointers time) ∨
      ∃ device pointer, operation = .hover new.window device pointer := by
  cases operation with
  | touch window flags pointers time =>
      obtain ⟨_, rfl⟩ := adds
      exact .inl ⟨flags, pointers, time, rfl⟩
  | hover window device pointer =>
      obtain ⟨_, _, _, rfl⟩ := adds
      exact .inr ⟨device, pointer, rfl⟩
  | _ => cases adds

end Operation

/-- The answer to a pointer that can be is what the hover table says, also for a device without
hovering pointers. -/
theorem Target.isHoveredBy_of_valid (target : Target) (device : Number) {pointer : Number}
    {id : PointerId} (valid : checkPointer pointer = .ok id) :
    target.isHoveredBy device pointer = .ok (decide (id ∈ target.hovering.pointers device)) := by
  cases listed : target.hovering.hasDevice device with
  | true =>
      simp only [isHoveredBy, listed, if_true, valid]
      rfl
  | false =>
      have unlisted : device ∉ target.hovering.devices := by simpa [HoverTable.hasDevice] using listed
      have none : target.hovering.pointers device = ∅ := by
        simpa [HoverTable.mem_devices] using unlisted
      simp [isHoveredBy, listed, none, pure, Except.pure]

namespace Routing

/-- The target that a window has at the end of a history was made by the operation at a step: the
window had none before it and has had one ever since. -/
def CreatedAt (history : List Operation) (window : Window) (step : Nat) : Prop :=
  step < history.length ∧ (({} : Routing).after (history.take step)).find? window = none ∧
    ∀ later, step < later → later ≤ history.length →
      (({} : Routing).after (history.take later)).find? window ≠ none

/-- The target of the first window was made before the target of the second one. -/
def CreatedBefore (history : List Operation) (first second : Window) : Prop :=
  ∃ early late, CreatedAt history first early ∧ CreatedAt history second late ∧ early < late

variable {routing : Routing} {history : List Operation} {operation : Operation} {window : Window}

theorem mem_windows_iff :
    window ∈ routing.targets.map Target.window ↔ routing.find? window ≠ none := by
  rw [Ne, find?_eq_none_iff]
  simp

/-- A target that outlives one more operation stays the one it was. -/
theorem CreatedAt.append {step : Nat} (created : CreatedAt history window step)
    (present : (({} : Routing).after (history ++ [operation])).find? window ≠ none) :
    CreatedAt (history ++ [operation]) window step := by
  obtain ⟨inside, absent, since⟩ := created
  refine ⟨by simp; omega, ?_, ?_⟩
  · rw [List.take_append_of_le_length (by omega)]
    exact absent
  · intro later after bound
    rw [List.length_append, List.length_singleton] at bound
    by_cases last : later = history.length + 1
    · rw [List.take_of_length_le (by simp; omega)]
      exact present
    · rw [List.take_append_of_le_length (by omega)]
      exact since later after (by omega)

/-- A target that was not there before the last operation was made by it. -/
theorem createdAt_last (absent : (({} : Routing).after history).find? window = none)
    (present : (({} : Routing).after (history ++ [operation])).find? window ≠ none) :
    CreatedAt (history ++ [operation]) window history.length := by
  refine ⟨by simp, ?_, ?_⟩
  · rw [List.take_append_of_le_length (Nat.le_refl _), List.take_length]
    exact absent
  · intro later after bound
    rw [List.length_append, List.length_singleton] at bound
    rw [List.take_of_length_le (by simp; omega)]
    exact present

/-- Every target was made at some step. -/
theorem exists_createdAt (present : (({} : Routing).after history).find? window ≠ none) :
    ∃ step, CreatedAt history window step := by
  induction history using List.reverseRecOn with
  | nil => exact absurd rfl present
  | append_singleton history operation ih =>
      by_cases absent : (({} : Routing).after history).find? window = none
      · exact ⟨history.length, createdAt_last absent present⟩
      · obtain ⟨step, created⟩ := ih absent
        exact ⟨step, created.append present⟩

theorem CreatedBefore.append {first second : Window}
    (before : CreatedBefore history first second)
    (firstStays : (({} : Routing).after (history ++ [operation])).find? first ≠ none)
    (secondStays : (({} : Routing).after (history ++ [operation])).find? second ≠ none) :
    CreatedBefore (history ++ [operation]) first second := by
  obtain ⟨early, late, firstCreated, secondCreated, order⟩ := before
  exact ⟨early, late, firstCreated.append firstStays, secondCreated.append secondStays, order⟩

/-- Targets stand in the order of their creation: what an operation leaves keeps its order, and
what it adds comes last. -/
theorem pairwise_created (history : List Operation) :
    ((({} : Routing).after history).targets.map Target.window).Pairwise
      (CreatedBefore history) := by
  induction history using List.reverseRecOn with
  | nil => exact List.Pairwise.nil
  | append_singleton history operation ih =>
      have stepped : ({} : Routing).after (history ++ [operation]) =
          (({} : Routing).after history).next operation := by simp
      have stays : ∀ window ∈
          ((({} : Routing).after history).next operation).targets.map Target.window,
          (({} : Routing).after (history ++ [operation])).find? window ≠ none := by
        intro window listed
        rw [stepped]
        exact mem_windows_iff.mp listed
      rw [stepped]
      -- Either the windows left over keep their order, or the new one follows windows that were
      -- made at earlier steps.
      rcases targets_next (({} : Routing).after history) operation with
        stems | ⟨new, adds, grown⟩
      · have windows := stems.windows_sublist fun _ _ alters => alters.bounds.window
        apply (ih.sublist windows).imp_of_mem
        intro first second firstListed secondListed before
        exact before.append (stays first firstListed) (stays second secondListed)
      · rw [grown, List.map_append, List.map_singleton] at stays ⊢
        rw [List.pairwise_append]
        refine ⟨?_, List.pairwise_singleton _ _, ?_⟩
        · apply ih.imp_of_mem
          intro first second firstListed secondListed before
          exact before.append (stays first (List.mem_append_left _ firstListed))
            (stays second (List.mem_append_left _ secondListed))
        · intro window listed other joins
          rw [List.mem_singleton] at joins
          subst joins
          obtain ⟨step, created⟩ := exists_createdAt (mem_windows_iff.mp listed)
          have newStays := stays new.window (by simp)
          exact ⟨step, history.length,
            created.append (stays window (List.mem_append_left _ listed)),
            createdAt_last adds.find?_eq_none newStays, created.1⟩

/-- An operation leaves some of the targets, in order, and adds one at most, at the end. -/
theorem arrivals_next (routing : Routing) (operation : Operation) :
    ∃ kept added, (routing.next operation).targets = kept ++ added ∧
      (kept.map Target.window).Sublist (routing.targets.map Target.window) ∧
      (operation = .reset → kept ++ added = []) ∧
      (added = [] ∨ ∃ new, added = [new] ∧ routing.find? new.window = none ∧
        ((∃ flags pointers time, operation = .touch new.window flags pointers time) ∨
          ∃ device pointer, operation = .hover new.window device pointer)) := by
  rcases routing.targets_next operation with stems | ⟨new, adds, grown⟩
  · refine ⟨_, [], (List.append_nil _).symm,
      stems.windows_sublist fun _ _ alters => alters.bounds.window, ?_, .inl rfl⟩
    rintro rfl
    rfl
  · refine ⟨_, [new], grown, List.Sublist.refl _, ?_, .inr ⟨new, rfl, adds.find?_eq_none, ?_⟩⟩
    · rintro rfl
      cases adds
    · exact adds.touch_or_hover

/-- Whoever has a target has entered at some step of the history. -/
theorem mem_entered {target : Target}
    (inTargets : target ∈ (({} : Routing).after history).targets) :
    target.window ∈ history.filterMap Operation.enters? := by
  induction history using List.reverseRecOn generalizing target with
  | nil => simp at inTargets
  | append_singleton history operation ih =>
      rw [after_append, after_cons, after_nil] at inTargets
      rw [List.filterMap_append, List.mem_append]
      rcases mem_next inTargets with ⟨old, inOld, alters⟩ | adds
      · rw [alters.bounds.window]
        exact .inl (ih inOld)
      · right
        rcases adds.touch_or_hover with ⟨_, _, _, rfl⟩ | ⟨_, _, rfl⟩ <;>
          exact List.mem_singleton_self _

/-- Where serial numbers tell the windows of a history apart, they tell its targets apart. -/
theorem nodup_serials
    (nodup : ((({} : Routing).after history).targets.map Target.window).Nodup)
    (apart : ∀ one ∈ history.filterMap Operation.enters?,
      ∀ two ∈ history.filterMap Operation.enters?, one.serial = two.serial → one = two) :
    ((({} : Routing).after history).targets.map fun target => target.window.serial).Nodup := by
  have serials : ((({} : Routing).after history).targets.map fun target => target.window.serial) =
      ((({} : Routing).after history).targets.map Target.window).map Window.serial := by
    rw [List.map_map]
    rfl
  rw [serials]
  apply List.Nodup.map_on _ nodup
  intro one oneListed two twoListed same
  obtain ⟨oneTarget, oneIn, rfl⟩ := List.mem_map.mp oneListed
  obtain ⟨twoTarget, twoIn, rfl⟩ := List.mem_map.mp twoListed
  exact apart _ (mem_entered oneIn) _ (mem_entered twoIn) same

/-- Where no window has two targets, the one that is found is the only one. -/
theorem find?_eq_some_iff (nodup : (routing.targets.map Target.window).Nodup) {target : Target} :
    routing.find? window = some target ↔ target ∈ routing.targets ∧ target.window = window := by
  constructor
  · exact window_of_find?
  · rintro ⟨inTargets, rfl⟩
    have present := mem_windows_iff.mp (List.mem_map_of_mem inTargets)
    obtain ⟨found, isFound⟩ := Option.ne_none_iff_exists'.mp present
    obtain ⟨foundIn, same⟩ := window_of_find? isFound
    rw [isFound, List.inj_on_of_nodup_map nodup foundIn inTargets same]

/-- One target more is asked whether the pointer hovers over its window. -/
def gather (device pointer : Number) (windows : List Window) (target : Target) :
    Except Violation (List Window) := do
  let hovered ← target.isHoveredBy device pointer
  return if hovered ∧ target.window ∉ windows then windows ++ [target.window] else windows

theorem gather_of_error {device pointer : Number} {target : Target} {violation : Violation}
    (answer : target.isHoveredBy device pointer = .error violation) (windows : List Window) :
    gather device pointer windows target = .error violation := by
  rw [gather, answer]
  rfl

theorem gather_of_ok {device pointer : Number} {target : Target} {hovered : Bool}
    (answer : target.isHoveredBy device pointer = .ok hovered) (windows : List Window) :
    gather device pointer windows target =
      .ok (if hovered ∧ target.window ∉ windows then windows ++ [target.window] else windows) := by
  rw [gather, answer]
  rfl

/-- Asked one target after another, windows without repetition are gathered without repetition:
those of the targets that say yes, unless a target refuses to answer. -/
theorem foldlM_gather_eq_ok_iff {device pointer : Number} {targets : List Target}
    {seen windows : List Window} (nodup : (seen ++ targets.map Target.window).Nodup) :
    targets.foldlM (gather device pointer) seen = .ok windows ↔
      (∀ target ∈ targets, ∃ hovered, target.isHoveredBy device pointer = .ok hovered) ∧
        windows = seen ++
          (targets.filter fun target => target.isHoveredBy device pointer = .ok true).map
            Target.window := by
  induction targets generalizing seen with
  | nil => simp [pure, Except.pure, eq_comm]
  | cons target rest ih =>
      rw [List.foldlM_cons]
      cases answer : target.isHoveredBy device pointer with
      | error violation =>
          have refuses : ¬∃ hovered, target.isHoveredBy device pointer = .ok hovered := by
            simp [answer]
          rw [gather_of_error answer]
          constructor
          · intro gathered
            cases gathered
          · rintro ⟨answers, _⟩
            exact absurd (answers target List.mem_cons_self) refuses
      | ok hovered =>
          have fresh : target.window ∉ seen := by
            intro member
            exact (List.nodup_append.mp nodup).2.2 _ member target.window (by simp) rfl
          rw [gather_of_ok answer]
          cases hovered with
          | true =>
              have nodupRest : ((seen ++ [target.window]) ++ rest.map Target.window).Nodup := by
                simpa using nodup
              rw [if_pos ⟨rfl, fresh⟩]
              change rest.foldlM (gather device pointer) (seen ++ [target.window]) = _ ↔ _
              simpa [answer] using ih nodupRest
          | false =>
              have nodupRest : (seen ++ rest.map Target.window).Nodup := by
                rw [List.map_cons, List.nodup_middle, List.nodup_cons] at nodup
                exact nodup.2
              rw [if_neg (by simp)]
              change rest.foldlM (gather device pointer) seen = _ ↔ _
              simpa [answer] using ih nodupRest

/-- Where no window has two targets, a pointer hovers over exactly one window for each target that
says it does. -/
theorem hoveredBy_eq_ok_iff {device pointer : Number} {windows : List Window}
    (nodup : (routing.targets.map Target.window).Nodup) :
    routing.hoveredBy device pointer = .ok windows ↔
      (∀ target ∈ routing.targets, ∃ hovered,
        target.isHoveredBy device pointer = .ok hovered) ∧
        windows = (routing.targets.filter fun target =>
          target.isHoveredBy device pointer = .ok true).map Target.window := by
  have fresh : ([] ++ routing.targets.map Target.window).Nodup := nodup
  exact foldlM_gather_eq_ok_iff fresh

/-- A pointer that can be is asked about without fail, and the windows it hovers over are those of
the targets whose hover tables list it. -/
theorem hoveredBy_number (nodup : (routing.targets.map Target.window).Nodup) (device : Number)
    (pointer : PointerId) :
    routing.hoveredBy device pointer.number =
      .ok ((routing.targets.filter fun target =>
        pointer ∈ target.hovering.pointers device).map Target.window) := by
  have answers : ∀ target : Target, target.isHoveredBy device pointer.number =
      .ok (decide (pointer ∈ target.hovering.pointers device)) := by
    intro target
    exact target.isHoveredBy_of_valid device (checkPointer_number pointer)
  rw [hoveredBy_eq_ok_iff nodup]
  refine ⟨fun target _ => ⟨_, answers target⟩, ?_⟩
  simp [answers]

/-- The order of arrival, along every history, revisions of targets included. No window has two
targets, and no serial number has where serial numbers tell windows apart, whatever their tokens
and names. Every target was made at some step, and targets stand in the strict order of these
steps. An operation leaves some of the targets, in order, and adds one at the end at most, for a
window that it touches or lets a pointer hover over and that had none; a reset leaves none. So the
target that is found for a window is the only one, and a pointer that is asked about hovers over
exactly one window for each target that says so. -/
theorem targets_in_order_of_arrival (history : List Operation) :
    ((({} : Routing).after history).targets.map Target.window).Nodup ∧
    ((∀ one ∈ history.filterMap Operation.enters?, ∀ two ∈ history.filterMap Operation.enters?,
        one.serial = two.serial → one = two) →
      ((({} : Routing).after history).targets.map fun target => target.window.serial).Nodup) ∧
    (∀ target ∈ (({} : Routing).after history).targets,
      ∃ step, CreatedAt history target.window step) ∧
    ((({} : Routing).after history).targets.map Target.window).Pairwise
      (CreatedBefore history) ∧
    (∀ operation, ∃ kept added,
      ((({} : Routing).after history).next operation).targets = kept ++ added ∧
        (kept.map Target.window).Sublist
          ((({} : Routing).after history).targets.map Target.window) ∧
        (operation = .reset → kept ++ added = []) ∧
        (added = [] ∨ ∃ new, added = [new] ∧
          (({} : Routing).after history).find? new.window = none ∧
          ((∃ flags pointers time, operation = .touch new.window flags pointers time) ∨
            ∃ device pointer, operation = .hover new.window device pointer))) ∧
    (∀ window target, (({} : Routing).after history).find? window = some target ↔
      target ∈ (({} : Routing).after history).targets ∧ target.window = window) ∧
    (∀ device pointer windows,
      (({} : Routing).after history).hoveredBy device pointer = .ok windows ↔
        (∀ target ∈ (({} : Routing).after history).targets, ∃ hovered,
          target.isHoveredBy device pointer = .ok hovered) ∧
          windows = ((({} : Routing).after history).targets.filter fun target =>
            target.isHoveredBy device pointer = .ok true).map Target.window) ∧
    (∀ device (pointer : PointerId),
      (({} : Routing).after history).hoveredBy device pointer.number =
        .ok (((({} : Routing).after history).targets.filter fun target =>
          pointer ∈ target.hovering.pointers device).map Target.window)) := by
  have nodup : ((({} : Routing).after history).targets.map Target.window).Nodup :=
    nodup_windows_after (by simp)
  refine ⟨nodup, ?_, ?_, pairwise_created history, ?_, fun _ _ => find?_eq_some_iff nodup,
    fun _ _ _ => hoveredBy_eq_ok_iff nodup, hoveredBy_number nodup⟩
  · intro apart
    exact nodup_serials nodup apart
  · intro target inTargets
    exact exists_createdAt (mem_windows_iff.mp (List.mem_map_of_mem inTargets))
  · intro operation
    exact arrivals_next _ operation

/-- A handle that shares its token and its name with the spy. -/
def namesake : Window := { Window.spy with serial := 2 }

/-- The spy, its namesake and the app are touched; the spy loses its target and gets one again,
behind the two others. -/
def returningHistory : List Operation :=
  [.touch .spy .none (.singleton 1) none, .touch namesake .none (.singleton 2) none,
    .touch .app .none (.singleton 3) none, .lift 1, .prune,
    .touch .spy .none (.singleton 4) none]

/-- Namesakes have a target each, and the spy, which came back, is the youngest of the three. -/
theorem returning_spy_comes_last :
    [2, 1, 0].Nodup ∧ CreatedBefore returningHistory namesake .spy := by
  have arrivals := targets_in_order_of_arrival returningHistory
  have order : [namesake, .app, .spy].Pairwise (CreatedBefore returningHistory) :=
    arrivals.2.2.2.1
  exact ⟨arrivals.2.1 (by decide), (List.pairwise_cons.mp order).1 .spy (by decide)⟩

end Routing

end PointerRouting
