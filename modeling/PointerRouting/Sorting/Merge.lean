/-
Module: PointerRouting.Sorting.Merge
Purpose: Merging two neighbouring runs from the end at which the shorter one is consumed first.
  Items leave one by one until one run has won several times in a row; from then on whole
  stretches leave, found by galloping, for as long as the stretches are long. How many wins it
  takes is the patience, which every merge hands on to the next. Items that the comparison
  leaves unordered keep the order of their runs.
Main exports: Sorting.Pace, Sorting.merging, Sorting.mergeRuns, Sorting.mergeRuns_perm
-/
import PointerRouting.Sorting.Search

namespace PointerRouting.Sorting

variable {α : Type} (precedes : α → α → Bool)

/-- A stretch of this length is long, and the first merge takes this many wins to gallop. -/
def longStretch : Nat := 7

/-- Whether the item of the right run leaves before the item of the left run: at the front if it
precedes it, at the back if it does not. -/
def Side.rightLeaves : Side → α → α → Bool
  | .front, left, right => precedes right left
  | .back, left, right => !precedes right left

/-- How a merge goes on. -/
inductive Pace where
  /-- One by one; a run has won so many times in a row. -/
  | single (leftWins rightWins : Nat)
  /-- By stretches, beginning with the left run; patience shrinks if it is done again. -/
  | gallop (again : Bool)
  /-- By stretches, now the right run, after a stretch of the left one. -/
  | gallopRight (leftWins : Nat)
  /-- One by one again after galloping, with more patience. -/
  | slow

/-- The patience with which a merge goes on at a pace. -/
def Pace.patience : Pace → Nat → Nat
  | .gallop true, patience => max 1 (patience - 1)
  | .slow, patience => patience + 1
  | _, patience => patience

/-- The wins of the left run in a row. -/
def Pace.leftWins : Pace → Nat
  | .single leftWins _ => leftWins
  | _ => 0

/-- The wins of the right run in a row. -/
def Pace.rightWins : Pace → Nat
  | .single _ rightWins => rightWins
  | _ => 0

/-- The pace after a run has won again: galloping, if it has won as often as patience asks. -/
def Pace.afterWin (patience leftWins rightWins : Nat) : Pace :=
  if patience ≤ max leftWins rightWins then .gallop false else .single leftWins rightWins

/-- The pace after a stretch of each run. -/
def Pace.afterStretches (leftWins rightWins : Nat) : Pace :=
  if longStretch ≤ max leftWins rightWins then .gallop true else .slow

/-- Whether only the last item is left of the run that is held back: the left run at the front,
the right run at the back. That item leaves last. -/
def Side.holdsLast : Side → List α → List α → Bool
  | .front, leftRest, _ => leftRest.isEmpty
  | .back, _, rightRest => rightRest.isEmpty

/-- The runs in the order in which the run that is held back leaves last. -/
def Side.closing : Side → List α → List α → List α
  | .front, left, right => right ++ left
  | .back, left, right => left ++ right

/-- Merge two runs, given in the order in which their items leave, and tell the patience at the
end. -/
def merging (side : Side) (pace : Pace) (patience : Nat) :
    (left right : List α) → List α × Nat
  | [], right => (right, patience)
  | left, [] => (left, patience)
  | left :: leftRest, right :: rightRest =>
    if side.holdsLast leftRest rightRest then
      (side.closing (left :: leftRest) (right :: rightRest), patience)
    else
      let patience := pace.patience patience
      match pace with
      | .gallop _ =>
        let wins := reach side (side.rightLeaves precedes · right) (left :: leftRest)
        let (rest, last) := merging side (.gallopRight wins) patience
          ((left :: leftRest).drop wins) rightRest
        ((left :: leftRest).take wins ++ right :: rest, last)
      | .gallopRight leftWins =>
        let wins := reach side (!side.rightLeaves precedes left ·) (right :: rightRest)
        let (rest, last) := merging side (.afterStretches leftWins wins) patience
          leftRest ((right :: rightRest).drop wins)
        ((right :: rightRest).take wins ++ left :: rest, last)
      | pace =>
        if side.rightLeaves precedes left right then
          let (rest, last) := merging side (.afterWin patience 0 (pace.rightWins + 1)) patience
            (left :: leftRest) rightRest
          (right :: rest, last)
        else
          let (rest, last) := merging side (.afterWin patience (pace.leftWins + 1) 0) patience
            leftRest (right :: rightRest)
          (left :: rest, last)
termination_by left right => left.length + right.length
decreasing_by
  all_goals simp only [List.length_cons, List.length_drop]; omega

/-- Merge runs of which it is known that the first item of the right one leaves first at the front
and the last item of the left one leaves first at the back. -/
def mergeTrimmed (patience : Nat) (left right : List α) : List α × Nat :=
  match right, left.reverse with
  | next :: after, last :: before =>
    if left.length ≤ right.length then
      let (rest, patience) := merging precedes .front (.single 0 0) patience left after
      (next :: rest, patience)
    else
      let (rest, patience) := merging precedes .back (.single 0 0) patience before right.reverse
      ((last :: rest).reverse, patience)
  | _, _ => (left ++ right, patience)

/-- Merge two neighbouring runs. What the left run has before the first item of the right one, and
what the right run has after the last item of the left one, is in place already. -/
def mergeRuns (patience : Nat) (left right : List α) : List α × Nat :=
  match right with
  | [] => (left, patience)
  | first :: _ =>
    let kept := reach .front (precedes first) left
    match (left.drop kept).getLast? with
    | none => (left ++ right, patience)
    | some last =>
      let moving := right.length - reach .back (precedes · last) right.reverse
      let (merged, patience) := mergeTrimmed precedes patience (left.drop kept) (right.take moving)
      (left.take kept ++ merged ++ right.drop moving, patience)

theorem closing_perm (side : Side) (left right : List α) :
    (side.closing left right).Perm (left ++ right) := by
  cases side with
  | front => exact List.perm_append_comm
  | back => exact .refl _

/-- What is left after a stretch of the left run and an item of the right one. -/
theorem perm_leftStretch {left rightRest rest : List α} {right : α} {wins : Nat}
    (perm : rest.Perm (left.drop wins ++ rightRest)) :
    (left.take wins ++ right :: rest).Perm (left ++ right :: rightRest) := by
  have whole : left.take wins ++ (left.drop wins ++ right :: rightRest) =
      left ++ right :: rightRest := by
    rw [← List.append_assoc, List.take_append_drop]
  rw [← whole]
  exact ((perm.cons right).trans List.perm_middle.symm).append_left _

/-- What is left after a stretch of the right run and an item of the left one. -/
theorem perm_rightStretch {leftRest right rest : List α} {left : α} {wins : Nat}
    (perm : rest.Perm (leftRest ++ right.drop wins)) :
    (right.take wins ++ left :: rest).Perm (left :: leftRest ++ right) := by
  refine List.perm_middle.trans ?_
  rw [List.cons_append]
  refine List.Perm.cons left ?_
  refine (perm.append_left (right.take wins)).trans ?_
  rw [← List.append_assoc]
  refine (List.perm_append_comm.append_right _).trans ?_
  rw [List.append_assoc, List.take_append_drop]

/-- A merge has the items of both runs. -/
theorem merging_perm (side : Side) (pace : Pace) (patience : Nat) (left right : List α) :
    (merging precedes side pace patience left right).1.Perm (left ++ right) := by
  fun_induction merging precedes side pace patience left right with
  | case1 => exact .refl _
  | case2 => simp
  | case3 => exact closing_perm ..
  | case4 _ _ _ _ _ _ _ _ _ _ _ result ih => exact perm_leftStretch (by simpa [result] using ih)
  | case5 _ _ _ _ _ _ _ _ _ _ _ result ih => exact perm_rightStretch (by simpa [result] using ih)
  | case6 _ _ _ _ _ _ _ _ _ _ _ _ _ result ih =>
    exact ((by simpa [result] using ih : List.Perm _ _).cons _).trans List.perm_middle.symm
  | case7 _ _ _ _ _ _ _ _ _ _ _ _ _ result ih =>
    exact (by simpa [result] using ih : List.Perm _ _).cons _

theorem mergeTrimmed_perm (patience : Nat) (left right : List α) :
    (mergeTrimmed precedes patience left right).1.Perm (left ++ right) := by
  unfold mergeTrimmed
  split
  next next after last before backwards =>
    split
    · exact ((merging_perm ..).cons next).trans List.perm_middle.symm
    · refine (List.reverse_perm _).trans (((merging_perm ..).cons last).trans ?_)
      rw [← List.cons_append, ← backwards]
      exact (List.reverse_perm _).append (List.reverse_perm _)
  · exact .refl _

/-- Merging neighbours keeps every item as often as it occurs. -/
theorem mergeRuns_perm (patience : Nat) (left right : List α) :
    (mergeRuns precedes patience left right).1.Perm (left ++ right) := by
  unfold mergeRuns
  split
  · simp
  next first rest =>
    simp only
    split
    · exact .refl _
    next last found =>
      refine (((mergeTrimmed_perm ..).append_left _).append_right _).trans ?_
      rw [List.append_assoc, List.append_assoc, List.take_append_drop, ← List.append_assoc,
        List.take_append_drop]

end PointerRouting.Sorting
