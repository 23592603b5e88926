/-
Module: PointerRouting.Sorting.Order
Purpose: What it means for a list to be in order under a comparison that may leave items
  unordered, and the laws of a comparison under which sorting yields such a list.
Main exports: Sorting.InOrder, Sorting.StrictWeak, Sorting.StrictWeak.trans,
  Sorting.StrictWeak.precedes_later, Sorting.StrictWeak.earlier_precedes
-/

namespace PointerRouting.Sorting

variable {α : Type} (precedes : α → α → Bool)

/-- In order: no item precedes one that stands before it. -/
def InOrder (items : List α) : Prop :=
  items.Pairwise fun earlier later => precedes later earlier = false

/-- A strict weak order among some items: nothing precedes what precedes it, and where a second
item does not precede a first nor a third the second, the third does not precede the first. -/
structure StrictWeak (among : α → Prop) : Prop where
  asymm : ∀ {first second}, among first → among second →
    precedes first second = true → precedes second first = false
  follows : ∀ {first second third}, among first → among second → among third →
    precedes second first = false → precedes third second = false → precedes third first = false

variable {precedes} {among : α → Prop}

theorem StrictWeak.trans (order : StrictWeak precedes among) {first second third : α}
    (amongFirst : among first) (amongSecond : among second) (amongThird : among third)
    (one : precedes first second = true) (two : precedes second third = true) :
    precedes first third = true := by
  cases outcome : precedes first third with
  | true => rfl
  | false =>
    have := order.follows amongSecond amongThird amongFirst
      (order.asymm amongSecond amongThird two) outcome
    simp [one] at this

/-- What precedes an item precedes the items that follow it. -/
theorem StrictWeak.precedes_later (order : StrictWeak precedes among) {item earlier later : α}
    (amongItem : among item) (amongEarlier : among earlier) (amongLater : among later)
    (before : precedes item earlier = true) (follows : precedes later earlier = false) :
    precedes item later = true := by
  cases outcome : precedes item later with
  | true => rfl
  | false =>
    have := order.follows amongEarlier amongLater amongItem follows outcome
    simp [before] at this

/-- Where an item precedes another, so do the items that it follows. -/
theorem StrictWeak.earlier_precedes (order : StrictWeak precedes among)
    {item earlier later : α} (amongItem : among item) (amongEarlier : among earlier)
    (amongLater : among later) (before : precedes later item = true)
    (follows : precedes later earlier = false) : precedes earlier item = true := by
  cases outcome : precedes earlier item with
  | true => rfl
  | false =>
    have := order.follows amongItem amongEarlier amongLater outcome follows
    simp [before] at this

end PointerRouting.Sorting
