/-
Module: PointerRouting.Sorting.MergeOrder
Purpose: Merging two runs that are in order gives a run in order, from whichever end they are
  merged and however often the merge gallops. What every step keeps is that both runs are in the
  order in which their items leave, and that the last item of the run that is held back follows
  all of the other run.
Main exports: Sorting.Side.Follows, Sorting.Mergeable, Sorting.pairwise_merging,
  Sorting.inOrder_mergeRuns
-/
import PointerRouting.Sorting.Merge
import PointerRouting.Sorting.Order

namespace PointerRouting.Sorting

variable {α : Type} {precedes : α → α → Bool} {among : α → Prop}

/-- In the order in which items leave at one end: the later item does not precede the earlier one
at the front, and is not preceded by it at the back. -/
def Side.Follows (precedes : α → α → Bool) : Side → α → α → Prop
  | .front, earlier, later => precedes later earlier = false
  | .back, earlier, later => precedes earlier later = false

theorem Side.Follows.trans (order : StrictWeak precedes among) {side : Side}
    {first second third : α} (amongFirst : among first) (amongSecond : among second)
    (amongThird : among third) (one : side.Follows precedes first second)
    (two : side.Follows precedes second third) : side.Follows precedes first third := by
  cases side with
  | front => exact order.follows amongFirst amongSecond amongThird one two
  | back => exact order.follows amongThird amongSecond amongFirst two one

/-- Where the right item leaves, the left item follows it. -/
theorem follows_of_rightLeaves (order : StrictWeak precedes among) {side : Side} {left right : α}
    (amongLeft : among left) (amongRight : among right)
    (leaves : side.rightLeaves precedes left right = true) :
    side.Follows precedes right left := by
  cases side with
  | front => exact order.asymm amongRight amongLeft leaves
  | back =>
    have stays : precedes right left = false := by simpa [Side.rightLeaves] using leaves
    exact stays

/-- Where the right item stays, it follows the left item. -/
theorem follows_of_not_rightLeaves (order : StrictWeak precedes among) {side : Side}
    {left right : α} (amongLeft : among left) (amongRight : among right)
    (stays : side.rightLeaves precedes left right = false) :
    side.Follows precedes left right := by
  cases side with
  | front => exact stays
  | back =>
    exact order.asymm amongRight amongLeft (by simpa [Side.rightLeaves] using stays)

/-- What leaves before a left item leaves before the ones that follow it. -/
theorem rightLeaves_of_follows (order : StrictWeak precedes among) {side : Side}
    {left later right : α} (amongLeft : among left) (amongLater : among later)
    (amongRight : among right) (leaves : side.rightLeaves precedes left right = true)
    (follows : side.Follows precedes left later) :
    side.rightLeaves precedes later right = true := by
  cases side with
  | front => exact order.precedes_later amongRight amongLeft amongLater leaves follows
  | back =>
    have stays : precedes right left = false := by simpa [Side.rightLeaves] using leaves
    simpa [Side.rightLeaves] using order.follows amongLater amongLeft amongRight follows stays

/-- What a left item leaves before stays, and so do the right items that follow it. -/
theorem not_rightLeaves_of_follows (order : StrictWeak precedes among) {side : Side}
    {left right later : α} (amongLeft : among left) (amongRight : among right)
    (amongLater : among later) (stays : side.rightLeaves precedes left right = false)
    (follows : side.Follows precedes right later) :
    side.rightLeaves precedes left later = false := by
  cases side with
  | front => exact order.follows amongLeft amongRight amongLater stays follows
  | back =>
    have leaves : precedes right left = true := by simpa [Side.rightLeaves] using stays
    simpa [Side.rightLeaves] using
      order.earlier_precedes amongLeft amongLater amongRight leaves follows

/-- Runs that can be merged: both are in the order in which items leave, and the last item of the
run that is held back follows all of the other run. -/
structure Mergeable (precedes : α → α → Bool) (among : α → Prop) (side : Side)
    (left right : List α) : Prop where
  among_left : ∀ item ∈ left, among item
  among_right : ∀ item ∈ right, among item
  left_ordered : left.Pairwise (side.Follows precedes)
  right_ordered : right.Pairwise (side.Follows precedes)
  held_left : side = .front → ∀ before last, left = before ++ [last] →
    ∀ item ∈ right, side.Follows precedes item last
  held_right : side = .back → ∀ before last, right = before ++ [last] →
    ∀ item ∈ left, side.Follows precedes item last

/-- After a stretch of each run the rest can be merged. -/
theorem Mergeable.drop {side : Side} {left right : List α}
    (mergeable : Mergeable precedes among side left right) (leftCount rightCount : Nat) :
    Mergeable precedes among side (left.drop leftCount) (right.drop rightCount) where
  among_left item member := mergeable.among_left item (List.mem_of_mem_drop member)
  among_right item member := mergeable.among_right item (List.mem_of_mem_drop member)
  left_ordered := mergeable.left_ordered.sublist (List.drop_sublist ..)
  right_ordered := mergeable.right_ordered.sublist (List.drop_sublist ..)
  held_left front before last rest item member := by
    refine mergeable.held_left front (left.take leftCount ++ before) last ?_ item
      (List.mem_of_mem_drop member)
    rw [List.append_assoc, ← rest, List.take_append_drop]
  held_right back before last rest item member := by
    refine mergeable.held_right back (right.take rightCount ++ before) last ?_ item
      (List.mem_of_mem_drop member)
    rw [List.append_assoc, ← rest, List.take_append_drop]

/-- A stretch of the left run, an item of the right one and a merge of the rest. -/
theorem pairwise_leftStretch (order : StrictWeak precedes among) {side : Side}
    {left rightRest rest : List α} {right : α} (wins : Nat)
    (mergeable : Mergeable precedes among side left (right :: rightRest))
    (before : ∀ item ∈ left.take wins, side.rightLeaves precedes item right = false)
    (after : ∀ item ∈ left.drop wins, side.rightLeaves precedes item right = true)
    (perm : rest.Perm (left.drop wins ++ rightRest))
    (ordered : rest.Pairwise (side.Follows precedes)) :
    (left.take wins ++ right :: rest).Pairwise (side.Follows precedes) := by
  have amongRight := mergeable.among_right right List.mem_cons_self
  obtain ⟨rightFirst, _⟩ := List.pairwise_cons.mp mergeable.right_ordered
  have split := mergeable.left_ordered
  rw [← List.take_append_drop wins left] at split
  obtain ⟨stretch, _, across⟩ := List.pairwise_append.mp split
  refine List.pairwise_append.mpr ⟨stretch, List.pairwise_cons.mpr ⟨fun item member => ?_, ordered⟩,
    fun item inStretch other member => ?_⟩
  · rcases List.mem_append.mp (perm.mem_iff.mp member) with onLeft | onRight
    · exact follows_of_rightLeaves order
        (mergeable.among_left item (List.mem_of_mem_drop onLeft)) amongRight (after item onLeft)
    · exact rightFirst item onRight
  · have amongItem := mergeable.among_left item (List.mem_of_mem_take inStretch)
    have beforeRight := follows_of_not_rightLeaves order amongItem amongRight
      (before item inStretch)
    rcases List.mem_cons.mp member with rfl | later
    · exact beforeRight
    · rcases List.mem_append.mp (perm.mem_iff.mp later) with onLeft | onRight
      · exact across item inStretch other onLeft
      · exact beforeRight.trans order amongItem amongRight
          (mergeable.among_right other (List.mem_cons_of_mem _ onRight)) (rightFirst other onRight)

/-- A stretch of the right run, an item of the left one and a merge of the rest. -/
theorem pairwise_rightStretch (order : StrictWeak precedes among) {side : Side}
    {leftRest right rest : List α} {left : α} (wins : Nat)
    (mergeable : Mergeable precedes among side (left :: leftRest) right)
    (before : ∀ item ∈ right.take wins, side.rightLeaves precedes left item = true)
    (after : ∀ item ∈ right.drop wins, side.rightLeaves precedes left item = false)
    (perm : rest.Perm (leftRest ++ right.drop wins))
    (ordered : rest.Pairwise (side.Follows precedes)) :
    (right.take wins ++ left :: rest).Pairwise (side.Follows precedes) := by
  have amongLeft := mergeable.among_left left List.mem_cons_self
  obtain ⟨leftFirst, _⟩ := List.pairwise_cons.mp mergeable.left_ordered
  have split := mergeable.right_ordered
  rw [← List.take_append_drop wins right] at split
  obtain ⟨stretch, _, across⟩ := List.pairwise_append.mp split
  refine List.pairwise_append.mpr ⟨stretch, List.pairwise_cons.mpr ⟨fun item member => ?_, ordered⟩,
    fun item inStretch other member => ?_⟩
  · rcases List.mem_append.mp (perm.mem_iff.mp member) with onLeft | onRight
    · exact leftFirst item onLeft
    · exact follows_of_not_rightLeaves order amongLeft
        (mergeable.among_right item (List.mem_of_mem_drop onRight)) (after item onRight)
  · have amongItem := mergeable.among_right item (List.mem_of_mem_take inStretch)
    have beforeLeft := follows_of_rightLeaves order amongLeft amongItem (before item inStretch)
    rcases List.mem_cons.mp member with rfl | later
    · exact beforeLeft
    · rcases List.mem_append.mp (perm.mem_iff.mp later) with onLeft | onRight
      · exact beforeLeft.trans order amongItem amongLeft
          (mergeable.among_left other (List.mem_cons_of_mem _ onLeft)) (leftFirst other onLeft)
      · exact across item inStretch other onRight

/-- A merge comes out in the order in which items leave. -/
theorem pairwise_merging (order : StrictWeak precedes among) {side : Side} {pace : Pace}
    {patience : Nat} {left right : List α} (mergeable : Mergeable precedes among side left right) :
    (merging precedes side pace patience left right).1.Pairwise (side.Follows precedes) := by
  have stopsLeft : ∀ {left rightRest : List α} {right : α},
      Mergeable precedes among side left (right :: rightRest) →
      left.Pairwise fun earlier later => side.rightLeaves precedes earlier right = true →
        side.rightLeaves precedes later right = true := by
    intro left rightRest right mergeable
    refine mergeable.left_ordered.imp_of_mem fun earlier later follows leaves => ?_
    exact rightLeaves_of_follows order (mergeable.among_left _ earlier)
      (mergeable.among_left _ later) (mergeable.among_right _ List.mem_cons_self) leaves follows
  have stopsRight : ∀ {leftRest right : List α} {left : α},
      Mergeable precedes among side (left :: leftRest) right →
      right.Pairwise fun earlier later => (!side.rightLeaves precedes left earlier) = true →
        (!side.rightLeaves precedes left later) = true := by
    intro leftRest right left mergeable
    refine mergeable.right_ordered.imp_of_mem fun earlier later follows stays => ?_
    simp only [Bool.not_eq_true'] at stays ⊢
    exact not_rightLeaves_of_follows order (mergeable.among_left _ List.mem_cons_self)
      (mergeable.among_right _ earlier) (mergeable.among_right _ later) stays follows
  fun_induction merging precedes side pace patience left right with
  | case1 => exact mergeable.right_ordered
  | case2 => exact mergeable.left_ordered
  | case3 pace patience left leftRest right rightRest holds =>
    cases side with
    | front =>
      have alone : leftRest = [] := by simpa [Side.holdsLast] using holds
      subst alone
      refine List.pairwise_append.mpr ⟨mergeable.right_ordered, mergeable.left_ordered, ?_⟩
      intro item member last isLast
      rw [List.mem_singleton.mp isLast]
      exact mergeable.held_left rfl [] left rfl item member
    | back =>
      have alone : rightRest = [] := by simpa [Side.holdsLast] using holds
      subst alone
      refine List.pairwise_append.mpr ⟨mergeable.left_ordered, mergeable.right_ordered, ?_⟩
      intro item member last isLast
      rw [List.mem_singleton.mp isLast]
      exact mergeable.held_right rfl [] right rfl item member
  | case4 patience left leftRest right rightRest _ again wins rest last grown result ih =>
    have perm := merging_perm precedes side (.gallopRight wins) grown
      ((left :: leftRest).drop wins) rightRest
    have ordered := ih (mergeable.drop wins 1)
    rw [result] at perm ordered
    have reached := reach_spec side (stopsLeft mergeable)
    exact pairwise_leftStretch order wins mergeable reached.1 reached.2 perm ordered
  | case5 patience left leftRest right rightRest _ leftWins wins rest last grown result ih =>
    have perm := merging_perm precedes side (.afterStretches leftWins wins) grown leftRest
      ((right :: rightRest).drop wins)
    have ordered := ih (mergeable.drop 1 wins)
    rw [result] at perm ordered
    have reached := reach_spec side (stopsRight mergeable)
    exact pairwise_rightStretch order wins mergeable
      (fun item member => by simpa using reached.1 item member)
      (fun item member => by simpa using reached.2 item member) perm ordered
  | case6 patience left leftRest right rightRest _ pace _ _ leaves rest last grown result ih =>
    have perm := merging_perm precedes side (.afterWin grown 0 (pace.rightWins + 1)) grown
      (left :: leftRest) rightRest
    have ordered := ih (mergeable.drop 0 1)
    rw [result] at perm ordered
    have rests := (List.pairwise_cons.mp (stopsLeft mergeable)).1
    refine pairwise_leftStretch order 0 mergeable (by simp)
      (fun item member => ?_) perm ordered
    rcases List.mem_cons.mp member with rfl | later
    · exact leaves
    · exact rests item later leaves
  | case7 patience left leftRest right rightRest _ pace _ _ stays rest last grown result ih =>
    have perm := merging_perm precedes side (.afterWin grown (pace.leftWins + 1) 0) grown
      leftRest (right :: rightRest)
    have ordered := ih (mergeable.drop 1 0)
    rw [result] at perm ordered
    have rests := (List.pairwise_cons.mp (stopsRight mergeable)).1
    refine pairwise_rightStretch order 0 mergeable (by simp)
      (fun item member => ?_) perm ordered
    rcases List.mem_cons.mp member with rfl | later
    · simpa using stays
    · simpa using rests item later (by simpa using stays)

/-- Trimmed runs come out in order. -/
theorem inOrder_mergeTrimmed (order : StrictWeak precedes among) (patience : Nat)
    {left right : List α} (all : ∀ item ∈ left ++ right, among item)
    (leftOrder : InOrder precedes left) (rightOrder : InOrder precedes right)
    (firstLeaves : ∀ first after, right = first :: after →
      ∀ item ∈ left, precedes first item = true)
    (lastStays : ∀ before last, left = before ++ [last] →
      ∀ item ∈ right, precedes item last = true) :
    InOrder precedes (mergeTrimmed precedes patience left right).1 := by
  have amongLeft : ∀ item ∈ left, among item := fun item member =>
    all item (List.mem_append_left _ member)
  have amongRight : ∀ item ∈ right, among item := fun item member =>
    all item (List.mem_append_right _ member)
  unfold mergeTrimmed
  split
  next next after last before backwards =>
    have whole : left = before.reverse ++ [last] := by
      rw [← List.reverse_reverse left, backwards, List.reverse_cons]
    obtain ⟨nextFirst, afterOrder⟩ := List.pairwise_cons.mp rightOrder
    have lastMember : last ∈ left := by simp [whole]
    split
    · have mergeable : Mergeable precedes among .front left after :=
        { among_left := amongLeft
          among_right := fun item member => amongRight item (List.mem_cons_of_mem _ member)
          left_ordered := leftOrder
          right_ordered := afterOrder
          held_left := fun _ before last isLast item member =>
            order.asymm (amongRight item (List.mem_cons_of_mem _ member))
              (amongLeft last (by simp [isLast]))
              (lastStays before last isLast item (List.mem_cons_of_mem _ member))
          held_right := by simp }
      refine List.pairwise_cons.mpr ⟨fun item member => ?_, pairwise_merging order mergeable⟩
      rcases List.mem_append.mp ((merging_perm ..).mem_iff.mp member) with onLeft | onRight
      · exact order.asymm (amongRight next List.mem_cons_self) (amongLeft item onLeft)
          (firstLeaves next after rfl item onLeft)
      · exact nextFirst item onRight
    · have backOrder := List.pairwise_reverse.mpr leftOrder
      rw [backwards] at backOrder
      obtain ⟨lastFirst, beforeOrder⟩ := List.pairwise_cons.mp backOrder
      have inLeft : ∀ item ∈ before, item ∈ left := fun item member => by simp [whole, member]
      have mergeable : Mergeable precedes among .back before (next :: after).reverse :=
        { among_left := fun item member => amongLeft item (inLeft item member)
          among_right := fun item member => amongRight item (List.mem_reverse.mp member)
          left_ordered := beforeOrder
          right_ordered := List.pairwise_reverse.mpr rightOrder
          held_left := by simp
          held_right := fun _ others first isLast item member => by
            have starts : next :: after = first :: others.reverse := by
              rw [← List.reverse_reverse (next :: after), isLast]; simp
            exact order.asymm (amongRight first (by simp [starts]))
              (amongLeft item (inLeft item member))
              (firstLeaves first others.reverse starts item (inLeft item member)) }
      refine List.pairwise_reverse.mpr
        (List.pairwise_cons.mpr ⟨fun item member => ?_, pairwise_merging order mergeable⟩)
      rcases List.mem_append.mp ((merging_perm ..).mem_iff.mp member) with onLeft | onRight
      · exact lastFirst item onLeft
      · have inRight := List.mem_reverse.mp onRight
        exact order.asymm (amongRight item inRight) (amongLeft last lastMember)
          (lastStays before.reverse last whole item inRight)
  next right _ _ none =>
    cases right with
    | nil => simpa using leftOrder
    | cons next after =>
      cases backwards : left.reverse with
      | nil => simpa [List.reverse_eq_nil_iff.mp backwards] using rightOrder
      | cons last before => exact absurd backwards (none next after last before rfl)

/-- The items of a run that an item does not precede stand before those that it does. -/
theorem reach_front_spec (order : StrictWeak precedes among) {items : List α} {first : α}
    (amongFirst : among first) (all : ∀ item ∈ items, among item)
    (ordered : InOrder precedes items) :
    (∀ item ∈ items.take (reach .front (precedes first) items), precedes first item = false) ∧
      ∀ item ∈ items.drop (reach .front (precedes first) items), precedes first item = true := by
  apply reach_spec
  refine ordered.imp_of_mem fun inEarlier inLater follows leaves => ?_
  exact order.precedes_later amongFirst (all _ inEarlier) (all _ inLater) leaves follows

/-- The items of a run that precede an item stand before those that do not. -/
theorem reach_back_spec (order : StrictWeak precedes among) {items : List α} {last : α}
    (amongLast : among last) (all : ∀ item ∈ items, among item)
    (ordered : InOrder precedes items) :
    let moving := items.length - reach .back (precedes · last) items.reverse
    (∀ item ∈ items.take moving, precedes item last = true) ∧
      ∀ item ∈ items.drop moving, precedes item last = false := by
  have backwards : items.reverse.Pairwise fun earlier later =>
      precedes earlier last = true → precedes later last = true := by
    refine (List.pairwise_reverse.mpr ordered).imp_of_mem
      fun inEarlier inLater follows leaves => ?_
    exact order.earlier_precedes amongLast (all _ (List.mem_reverse.mp inLater))
      (all _ (List.mem_reverse.mp inEarlier)) leaves follows
  obtain ⟨settled, moves⟩ := reach_spec .back backwards
  rw [List.take_reverse] at settled
  rw [List.drop_reverse] at moves
  exact ⟨fun item member => moves item (List.mem_reverse.mpr member),
    fun item member => settled item (List.mem_reverse.mpr member)⟩

/-- What the first item of a run does not precede, no item of the run precedes. -/
theorem precedes_eq_false_of_first (order : StrictWeak precedes among) {first item : α}
    {after : List α} (amongItem : among item) (all : ∀ other ∈ first :: after, among other)
    (ordered : InOrder precedes (first :: after)) (stays : precedes first item = false) :
    ∀ other ∈ first :: after, precedes other item = false := by
  intro other member
  obtain ⟨firstFirst, _⟩ := List.pairwise_cons.mp ordered
  rcases List.mem_cons.mp member with rfl | later
  · exact stays
  · exact order.follows amongItem (all first List.mem_cons_self) (all other member) stays
      (firstFirst other later)

/-- What does not precede the last item of a run precedes no item of the run. -/
theorem precedes_eq_false_of_last (order : StrictWeak precedes among) {last other : α}
    {before : List α} (amongOther : among other) (all : ∀ item ∈ before ++ [last], among item)
    (ordered : InOrder precedes (before ++ [last])) (stays : precedes other last = false) :
    ∀ item ∈ before ++ [last], precedes other item = false := by
  intro item member
  obtain ⟨_, _, lastLast⟩ := List.pairwise_append.mp ordered
  rcases List.mem_append.mp member with earlier | isLast
  · exact order.follows (all item member) (all last (by simp)) amongOther
      (lastLast item earlier last List.mem_cons_self) stays
  · rw [List.mem_singleton.mp isLast]
    exact stays

/-- A run between what is kept of the left one and what is placed of the right one: it has the rest
of both. -/
theorem inOrder_between {kept lower upper placed merged : List α}
    (leftOrder : InOrder precedes (kept ++ lower)) (rightOrder : InOrder precedes (upper ++ placed))
    (ordered : InOrder precedes merged) (perm : merged.Perm (lower ++ upper))
    (keptFirst : ∀ item ∈ kept, ∀ other ∈ upper ++ placed, precedes other item = false)
    (placedLast : ∀ item ∈ lower, ∀ other ∈ placed, precedes other item = false) :
    InOrder precedes (kept ++ merged ++ placed) := by
  obtain ⟨keptOrder, _, keptLower⟩ := List.pairwise_append.mp leftOrder
  obtain ⟨_, placedOrder, upperPlaced⟩ := List.pairwise_append.mp rightOrder
  rw [InOrder, List.append_assoc]
  refine List.pairwise_append.mpr
    ⟨keptOrder, List.pairwise_append.mpr ⟨ordered, placedOrder, ?_⟩, ?_⟩
  · intro item inMerged other isPlaced
    rcases List.mem_append.mp (perm.mem_iff.mp inMerged) with inLower | inUpper
    · exact placedLast item inLower other isPlaced
    · exact upperPlaced item inUpper other isPlaced
  · intro item isKept other follows
    rcases List.mem_append.mp follows with inMerged | isPlaced
    · rcases List.mem_append.mp (perm.mem_iff.mp inMerged) with inLower | inUpper
      · exact keptLower item isKept other inLower
      · exact keptFirst item isKept other (List.mem_append_left _ inUpper)
    · exact keptFirst item isKept other (List.mem_append_right _ isPlaced)

/-- Merging neighbours that are in order gives a run in order. -/
theorem inOrder_mergeRuns (order : StrictWeak precedes among) (patience : Nat)
    {left right : List α} (all : ∀ item ∈ left ++ right, among item)
    (leftOrder : InOrder precedes left) (rightOrder : InOrder precedes right) :
    InOrder precedes (mergeRuns precedes patience left right).1 := by
  have amongLeft : ∀ item ∈ left, among item := fun item member =>
    all item (List.mem_append_left _ member)
  have amongRight : ∀ item ∈ right, among item := fun item member =>
    all item (List.mem_append_right _ member)
  unfold mergeRuns
  split
  · exact leftOrder
  next first after =>
    have amongFirst := amongRight first List.mem_cons_self
    obtain ⟨kept, moved⟩ := reach_front_spec order amongFirst amongLeft leftOrder
    have keptFirst : ∀ item ∈ left.take (reach .front (precedes first) left),
        ∀ other ∈ first :: after, precedes other item = false := fun item member =>
      precedes_eq_false_of_first order (amongLeft item (List.mem_of_mem_take member)) amongRight
        rightOrder (kept item member)
    generalize reach .front (precedes first) left = count at keptFirst moved ⊢
    have whole : left.take count ++ left.drop count = left := List.take_append_drop ..
    simp only
    split
    next none =>
      rw [List.getLast?_eq_none_iff] at none
      rw [none, List.append_nil] at whole
      rw [whole] at keptFirst
      exact List.pairwise_append.mpr ⟨leftOrder, rightOrder, keptFirst⟩
    next last found =>
      obtain ⟨before, ends⟩ := List.getLast?_eq_some_iff.mp found
      have lowerOrder : InOrder precedes (left.drop count) :=
        leftOrder.sublist (List.drop_sublist ..)
      have amongLower : ∀ item ∈ left.drop count, among item := fun item member =>
        amongLeft item (List.mem_of_mem_drop member)
      have amongLast : among last := amongLower last (by simp [ends])
      obtain ⟨goes, placed⟩ := reach_back_spec order amongLast amongRight rightOrder
      generalize (first :: after).length - reach .back (precedes · last) (first :: after).reverse =
        moving at goes placed ⊢
      have firstLeaves : ∀ leading rest, (first :: after).take moving = leading :: rest →
          ∀ item ∈ left.drop count, precedes leading item = true := by
        intro leading rest taken item member
        cases moving with
        | zero => simp at taken
        | succ moving =>
          rw [List.take_succ_cons] at taken
          rw [← (List.cons.inj taken).1]
          exact moved item member
      have lastStays : ∀ others other, left.drop count = others ++ [other] →
          ∀ item ∈ (first :: after).take moving, precedes item other = true := by
        intro others other same item member
        rw [ends] at same
        rw [← List.singleton_inj.mp (List.append_inj' same rfl).2]
        exact goes item member
      have placedLast : ∀ item ∈ left.drop count, ∀ other ∈ (first :: after).drop moving,
          precedes other item = false := by
        intro item member other isPlaced
        rw [ends] at lowerOrder amongLower member
        exact precedes_eq_false_of_last order (amongRight other (List.mem_of_mem_drop isPlaced))
          amongLower lowerOrder (placed other isPlaced) item member
      have parts : (first :: after).take moving ++ (first :: after).drop moving =
          first :: after := List.take_append_drop ..
      have merged := inOrder_mergeTrimmed order patience
        (fun item member => (List.mem_append.mp member).elim (amongLower item)
          fun onRight => amongRight item (List.mem_of_mem_take onRight))
        lowerOrder (rightOrder.sublist (List.take_sublist ..)) firstLeaves lastStays
      exact inOrder_between (whole.symm ▸ leftOrder) (parts.symm ▸ rightOrder) merged
        (mergeTrimmed_perm ..) (parts.symm ▸ keptFirst) placedLast

end PointerRouting.Sorting
