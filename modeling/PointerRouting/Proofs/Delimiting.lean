/-
Module: PointerRouting.Proofs.Delimiting
Purpose: Where a part of a text ends. Two texts with more text behind each can come to the same
  although they differ, as "1" with "2" behind it and "12" with nothing do. What may stand behind
  them is therefore part of what makes them legible. A part ends where the first character stands
  that it cannot contain; parts follow one another behind separators, within brackets, in listings
  and line by line.
Main exports: OpensWith, Avoids, Tells, Tells.of_avoids, Tells.before, Tells.closed, Tells.joined,
  forall₂_of_joined_mapIdx
-/
import Mathlib.Data.List.Forall2
import PointerRouting.Listing

namespace PointerRouting

/-- A text that starts with one of some characters. -/
def OpensWith (stops : List Char) (text : String) : Prop :=
  ∃ stop ∈ stops, text.toList.head? = some stop

/-- A text that has none of some characters in it. -/
def Avoids (stops : List Char) (text : String) : Prop := ∀ stop ∈ stops, stop ∉ text.toList

-- The characters to look at are those listed; a search for an instance may settle for one that goes
-- through all characters there are.
instance (stops : List Char) (text : String) : Decidable (OpensWith stops text) :=
  List.decidableBEx (fun stop => text.toList.head? = some stop) stops

instance (stops : List Char) (text : String) : Decidable (Avoids stops text) :=
  List.decidableBAll (fun stop => stop ∉ text.toList) stops

/-- Two texts, each with more text of a certain kind behind it, come to the same only if something
holds, and only if what stands behind them is the same. -/
def Tells (follows : String → Prop) (first second : String) (fact : Prop) : Prop :=
  ∀ ⦃left right : String⦄, follows left → follows right →
    first ++ left = second ++ right → fact ∧ left = right

section

variable {stops : List Char} {text more : String}

theorem OpensWith.append (opens : OpensWith stops text) (more : String) :
    OpensWith stops (text ++ more) := by
  obtain ⟨stop, listed, head⟩ := opens
  refine ⟨stop, listed, ?_⟩
  rw [String.toList_append, List.head?_append, head]
  rfl

theorem OpensWith.of_append (written : text ≠ "") (opens : OpensWith stops (text ++ more)) :
    OpensWith stops text := by
  obtain ⟨stop, listed, head⟩ := opens
  refine ⟨stop, listed, ?_⟩
  cases chars : text.toList with
  | nil => exact absurd (String.toList_eq_nil_iff.mp chars) written
  | cons char rest =>
      rw [String.toList_append, chars] at head
      exact head

theorem OpensWith.mono {others : List Char} (listed : ∀ stop ∈ stops, stop ∈ others)
    (opens : OpensWith stops text) : OpensWith others text := by
  obtain ⟨stop, isStop, head⟩ := opens
  exact ⟨stop, listed stop isStop, head⟩

theorem Avoids.not_opensWith (avoids : Avoids stops text) : ¬OpensWith stops text := by
  rintro ⟨stop, listed, head⟩
  exact avoids stop listed (List.mem_of_head? head)

theorem Avoids.append (avoids : Avoids stops text) (avoidsMore : Avoids stops more) :
    Avoids stops (text ++ more) := by
  intro stop listed
  rw [String.toList_append, List.mem_append, not_or]
  exact ⟨avoids stop listed, avoidsMore stop listed⟩

theorem Avoids.joined {separator : String} {parts : List String}
    (avoidsSeparator : Avoids stops separator) (avoids : ∀ part ∈ parts, Avoids stops part) :
    Avoids stops (joined separator parts) := by
  induction parts with
  | nil => exact fun _ _ => List.not_mem_nil
  | cons part rest ih =>
      obtain ⟨first, others⟩ := List.forall_mem_cons.mp avoids
      cases rest with
      | nil => exact first
      | cons => exact (first.append avoidsSeparator).append (ih others)

end

/-- A text does not go on where another one ends, if it avoids what stands there. -/
theorem eq_nil_of_avoids {stops : List Char} {text more rest : List Char}
    (avoids : ∀ stop ∈ stops, stop ∉ text ++ more)
    (opens : ∃ stop ∈ stops, (more ++ rest).head? = some stop) : more = [] := by
  obtain ⟨stop, listed, head⟩ := opens
  cases more with
  | nil => rfl
  | cons char more =>
      cases head
      exact absurd (List.mem_append_right text List.mem_cons_self) (avoids _ listed)

section Listings

variable {Item : Type} {write : Item → String} {separator : String} {comma close : Char}

/-- The texts of items, each behind a separator. -/
def trailed (separator : String) (write : Item → String) (items : List Item) : String :=
  items.foldr (fun item text => separator ++ (write item ++ text)) ""

theorem joined_cons (item : Item) (items : List Item) :
    joined separator ((item :: items).map write) =
      write item ++ trailed separator write items := by
  induction items generalizing item with
  | nil => exact (String.append_empty).symm
  | cons next items ih =>
      rw [List.map_cons, List.map_cons, joined, ← List.map_cons, ih,
        String.append_assoc]
      · rfl
      · exact List.cons_ne_nil _ _

theorem opensWith_trailed (separates : OpensWith [comma] separator) {text : String}
    (closes : OpensWith [close] text) (items : List Item) :
    OpensWith [comma, close] (trailed separator write items ++ text) := by
  cases items with
  | nil =>
      rw [trailed, List.foldr_nil, String.empty_append]
      exact closes.mono (by simp)
  | cons item items =>
      exact ((separates.mono (by simp)).append _).append text

/-- What stands behind a listing does not go on with it. -/
theorem not_opensWith_trailed (separates : OpensWith [comma] separator) (apart : comma ≠ close)
    (item : Item) (items : List Item) (text : String) :
    ¬OpensWith [close] (trailed separator write (item :: items) ++ text) := by
  rintro ⟨stop, isClose, head⟩
  obtain ⟨other, isComma, separatorHead⟩ := (separates.append _).append text
  rw [List.mem_singleton] at isClose isComma
  cases head.symm.trans separatorHead
  exact apart (isComma.symm.trans isClose)

end Listings

theorem joined_empty_cons (text : String) (rest : List String) :
    joined "" (text :: rest) = text ++ joined "" rest := by
  cases rest with
  | nil => exact String.append_empty.symm
  | cons next rest =>
      rw [joined, String.append_empty]
      exact List.cons_ne_nil next rest

namespace Tells

variable {follows inner : String → Prop} {first second firstMore secondMore : String}
  {fact factMore : Prop}

/-- Texts end where the first character stands that neither has in it. -/
theorem of_avoids {stops : List Char} (avoidsFirst : Avoids stops first)
    (avoidsSecond : Avoids stops second) (told : first = second → fact) :
    Tells (OpensWith stops) first second fact := by
  intro left right opensLeft opensRight same
  have chars := congrArg String.toList same
  rw [String.toList_append, String.toList_append, List.append_eq_append_iff] at chars
  have agree : first = second := by
    apply String.toList_inj.mp
    rcases chars with ⟨more, longer, rest⟩ | ⟨more, longer, rest⟩
    · rw [Avoids, longer] at avoidsSecond
      rw [OpensWith, rest] at opensLeft
      rw [longer, eq_nil_of_avoids avoidsSecond opensLeft, List.append_nil]
    · rw [Avoids, longer] at avoidsFirst
      rw [OpensWith, rest] at opensRight
      rw [longer, eq_nil_of_avoids avoidsFirst opensRight, List.append_nil]
  refine ⟨told agree, ?_⟩
  rw [agree] at same
  exact String.append_right_inj _ |>.mp same

theorem imp (told : Tells follows first second fact) (further : fact → factMore) :
    Tells follows first second factMore := by
  intro left right followsLeft followsRight same
  exact (told followsLeft followsRight same).imp_left further

theorem symm (told : Tells follows first second fact) : Tells follows second first fact := by
  intro left right followsLeft followsRight same
  exact (told followsRight followsLeft same.symm).imp_right Eq.symm

/-- A text tells nothing new from itself. -/
theorem of_fact (text : String) (holds : fact) : Tells follows text text fact :=
  fun _ _ _ _ same => ⟨holds, (String.append_right_inj text).mp same⟩

/-- No text and one that cannot follow are never taken for one another. -/
theorem of_empty (apart : ∀ rest, ¬follows (second ++ rest)) : Tells follows "" second fact := by
  intro left right followsLeft _ same
  rw [String.empty_append] at same
  exact absurd (same ▸ followsLeft) (apart right)

/-- What is told whatever follows is told before anything in particular. -/
theorem anywhere (told : Tells (fun _ => True) first second fact) :
    Tells follows first second fact :=
  fun _ _ _ _ same => told trivial trivial same

/-- What both texts open with tells nothing. -/
theorem prepend (opening : String) (told : Tells follows first second fact) :
    Tells follows (opening ++ first) (opening ++ second) fact := by
  intro left right followsLeft followsRight same
  rw [String.append_assoc, String.append_assoc] at same
  exact told followsLeft followsRight ((String.append_right_inj opening).mp same)

/-- Two parts are told one after the other, if the first of them is told before the separator. -/
theorem before (separator : String) (separates : ∀ rest, inner (separator ++ rest))
    (told : Tells inner first second fact)
    (toldMore : Tells follows firstMore secondMore factMore) :
    Tells follows (first ++ (separator ++ firstMore)) (second ++ (separator ++ secondMore))
      (fact ∧ factMore) := by
  intro left right followsLeft followsRight same
  simp only [String.append_assoc] at same
  obtain ⟨isFact, rest⟩ := told (separates _) (separates _) same
  obtain ⟨isMore, ends⟩ :=
    toldMore followsLeft followsRight ((String.append_right_inj separator).mp rest)
  exact ⟨⟨isFact, isMore⟩, ends⟩

/-- With a closing behind them that ends them, texts are told whatever follows. -/
theorem closed (closing : String) (closes : ∀ rest, inner (closing ++ rest))
    (told : Tells inner first second fact) :
    Tells (fun _ => True) (first ++ closing) (second ++ closing) fact := by
  intro left right _ _ same
  rw [String.append_assoc, String.append_assoc] at same
  obtain ⟨isFact, rest⟩ := told (closes left) (closes right) same
  exact ⟨isFact, (String.append_right_inj closing).mp rest⟩

section Listings

variable {Item : Type} {write : Item → String} {separator : String} {comma close : Char}
  (separates : OpensWith [comma] separator)
include separates

/-- The first items of two listings are told, and what stands behind them. -/
theorem cons {one other : Item} {first second : List Item}
    (told : Tells (OpensWith [comma, close]) (write one) (write other) (one = other))
    (toldMore : Tells (OpensWith [close]) (trailed separator write first)
      (trailed separator write second) (first = second)) :
    Tells (OpensWith [close]) (write one ++ trailed separator write first)
      (write other ++ trailed separator write second) (one :: first = other :: second) := by
  intro left right closesLeft closesRight same
  rw [String.append_assoc, String.append_assoc] at same
  obtain ⟨agree, rest⟩ := told (opensWith_trailed separates closesLeft first)
    (opensWith_trailed separates closesRight second) same
  obtain ⟨others, ends⟩ := toldMore closesLeft closesRight rest
  exact ⟨congrArg₂ List.cons agree others, ends⟩

theorem trailed_trailed (apart : comma ≠ close) {first second : List Item}
    (told : ∀ one ∈ first, ∀ other ∈ second,
      Tells (OpensWith [comma, close]) (write one) (write other) (one = other)) :
    Tells (OpensWith [close]) (trailed separator write first) (trailed separator write second)
      (first = second) := by
  induction first generalizing second with
  | nil =>
      cases second with
      | nil => exact of_fact "" rfl
      | cons other second => exact of_empty (not_opensWith_trailed separates apart other second)
  | cons one first ih =>
      cases second with
      | nil => exact (of_empty (not_opensWith_trailed separates apart one first)).symm
      | cons other second =>
          have toldFirst := told one List.mem_cons_self other List.mem_cons_self
          have toldMore := ih fun one inFirst other inSecond =>
            told one (List.mem_cons_of_mem _ inFirst) other (List.mem_cons_of_mem _ inSecond)
          exact (cons separates toldFirst toldMore).prepend separator

/-- Listings in brackets, of items that are told before a separator and before the closing
bracket. -/
theorem joined (apart : comma ≠ close) {first second : List Item}
    (begun : ∀ item ∈ first ++ second, write item ≠ "" ∧ ¬OpensWith [close] (write item))
    (told : ∀ one ∈ first, ∀ other ∈ second,
      Tells (OpensWith [comma, close]) (write one) (write other) (one = other)) :
    Tells (OpensWith [close]) (PointerRouting.joined separator (first.map write))
      (PointerRouting.joined separator (second.map write)) (first = second) := by
  have notClosed (item : Item) (items : List Item) (listed : item ∈ first ++ second)
      (rest : String) :
      ¬OpensWith [close] (PointerRouting.joined separator ((item :: items).map write) ++ rest) := by
    rw [joined_cons, String.append_assoc]
    exact fun closes => (begun item listed).2 (closes.of_append (begun item listed).1)
  cases first with
  | nil =>
      cases second with
      | nil => exact of_fact "" rfl
      | cons other second => exact of_empty (notClosed other second (by simp))
  | cons one first =>
      cases second with
      | nil => exact (of_empty (notClosed one first (by simp))).symm
      | cons other second =>
          rw [joined_cons, joined_cons]
          have toldFirst := told one List.mem_cons_self other List.mem_cons_self
          have toldMore := trailed_trailed separates apart fun one inFirst other inSecond =>
            told one (List.mem_cons_of_mem _ inFirst) other (List.mem_cons_of_mem _ inSecond)
          exact cons separates toldFirst toldMore

end Listings

end Tells

/-- Numbered lines tell, line by line, what each line tells. -/
theorem forall₂_of_joined_mapIdx {Item : Type} {agree : Item → Item → Prop}
    {write : Nat → Item → String} {first second : List Item}
    (written : ∀ index item, write index item ≠ "")
    (told : ∀ index, ∀ one ∈ first, ∀ other ∈ second,
      Tells (fun _ => True) (write index one) (write index other) (agree one other))
    (same : joined "" (first.mapIdx write) = joined "" (second.mapIdx write)) :
    List.Forall₂ agree first second := by
  induction first generalizing second write with
  | nil =>
      cases second with
      | nil => exact .nil
      | cons other second =>
          rw [List.mapIdx_cons, joined_empty_cons, List.mapIdx_nil, joined, eq_comm,
            String.append_eq_empty_iff] at same
          exact absurd same.1 (written 0 other)
  | cons one first ih =>
      cases second with
      | nil =>
          rw [List.mapIdx_cons, joined_empty_cons, List.mapIdx_nil, joined,
            String.append_eq_empty_iff] at same
          exact absurd same.1 (written 0 one)
      | cons other second =>
          rw [List.mapIdx_cons, List.mapIdx_cons, joined_empty_cons, joined_empty_cons] at same
          obtain ⟨agrees, rest⟩ :=
            told 0 one List.mem_cons_self other List.mem_cons_self trivial trivial same
          refine .cons agrees (ih (fun index => written (index + 1)) ?_ rest)
          intro index one inFirst other inSecond
          exact told (index + 1) one (List.mem_cons_of_mem _ inFirst) other
            (List.mem_cons_of_mem _ inSecond)

end PointerRouting
