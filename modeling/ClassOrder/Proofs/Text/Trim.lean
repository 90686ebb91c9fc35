import ClassOrder.Text.Blank
import Mathlib.Data.List.TakeWhile

/-!
# Trimming

A text without the blanks at its two ends is what can stand between blanks and has none at its own
ends.  So a grammar may say that blanks surround a word, and reading may trim.

## Main definitions

* `Padded` — a list with elements of one kind around another list.
* `Bare` — a list that neither starts nor ends with an element of that kind.

## Main results

* `exists_padded_iff_trim`, `exists_padded_iff_trimSpaces` — **a bare word with blanks around it is
  one after trimming.**
-/

namespace ClassOrder.Text

variable {α β : Type}

/-- `outer` is `inner` with elements that satisfy `P` around it. -/
def Padded (P : α → Prop) (outer inner : List α) : Prop :=
  ∃ left right, outer = left ++ inner ++ right ∧ (∀ a ∈ left, P a) ∧ ∀ a ∈ right, P a

/-- Neither the first nor the last element satisfies `P`. -/
structure Bare (P : α → Prop) (inner : List α) : Prop where
  head : ∀ a ∈ inner.head?, ¬ P a
  last : ∀ a ∈ inner.getLast?, ¬ P a

theorem Padded.congr {P Q : α → Prop} {outer inner : List α} (h : Padded P outer inner)
    (hiff : ∀ a ∈ outer, P a → Q a) : Padded Q outer inner := by
  obtain ⟨left, right, rfl, hleft, hright⟩ := h
  refine ⟨left, right, rfl, fun a ha => hiff a ?_ (hleft a ha), fun a ha => hiff a ?_ (hright a ha)⟩
  · exact List.mem_append_left _ (List.mem_append_left _ ha)
  · exact List.mem_append_right _ ha

theorem bare_of_forall {P : α → Prop} {inner : List α} (h : ∀ a ∈ inner, ¬ P a) : Bare P inner where
  head a ha := h a (List.mem_of_mem_head? ha)
  last a ha := h a (List.mem_of_mem_getLast? ha)

/-- A list of images is padded with images where the list itself is padded. -/
theorem padded_map_iff {f : α → β} {P : β → Prop} {outer : List α} {inner : List β} :
    Padded P (outer.map f) inner ↔ ∃ word, Padded (fun a => P (f a)) outer word ∧
      word.map f = inner := by
  constructor
  · rintro ⟨left, right, heq, hleft, hright⟩
    obtain ⟨front, back, rfl, hfront, rfl⟩ := List.map_eq_append_iff.mp heq
    obtain ⟨start, word, rfl, rfl, rfl⟩ := List.map_eq_append_iff.mp hfront
    refine ⟨word, ⟨start, back, rfl, ?_, ?_⟩, rfl⟩
    · exact fun a ha => hleft _ (List.mem_map_of_mem ha)
    · exact fun a ha => hright _ (List.mem_map_of_mem ha)
  · rintro ⟨word, ⟨left, right, rfl, hleft, hright⟩, rfl⟩
    refine ⟨left.map f, right.map f, by simp, ?_, ?_⟩
    · simpa using hleft
    · simpa using hright

/-! ### What is dropped at the two ends -/

section

variable {p : α → Bool} {outer inner : List α}

theorem dropWhile_append_of_bare (hbare : Bare (p · = true) inner) {right : List α}
    (hright : ∀ a ∈ right, p a = true) : (inner ++ right).dropWhile p = inner ++ right ∨
      (inner = [] ∧ (inner ++ right).dropWhile p = []) := by
  cases inner with
  | nil => exact .inr ⟨rfl, by simpa using hright⟩
  | cons a inner =>
    have ha : ¬ p a = true := hbare.head a rfl
    exact .inl (by simp [ha])

theorem padded_dropWhile (p : α → Bool) (outer : List α) :
    Padded (p · = true) outer ((outer.dropWhile p).reverse.dropWhile p).reverse := by
  refine ⟨outer.takeWhile p, ((outer.dropWhile p).reverse.takeWhile p).reverse, ?_, ?_, ?_⟩
  · rw [List.append_assoc, ← List.reverse_append, List.takeWhile_append_dropWhile,
      List.reverse_reverse, List.takeWhile_append_dropWhile]
  · exact fun a ha => List.mem_takeWhile_imp ha
  · exact fun a ha => List.mem_takeWhile_imp (List.mem_reverse.mp ha)

theorem dropWhile_of_padded (h : Padded (p · = true) outer inner)
    (hbare : Bare (p · = true) inner) :
    ((outer.dropWhile p).reverse.dropWhile p).reverse = inner := by
  obtain ⟨left, right, rfl, hleft, hright⟩ := h
  rw [List.append_assoc, List.dropWhile_append_of_pos hleft]
  rcases dropWhile_append_of_bare hbare hright with heq | ⟨rfl, hnil⟩
  · rw [heq, List.reverse_append, List.dropWhile_append_of_pos (by simpa using hright)]
    cases hinner : inner.reverse with
    | nil => simpa using hinner.symm
    | cons a rest =>
      have hlast : inner.getLast? = some a := by rw [← List.head?_reverse, hinner]; rfl
      rw [List.dropWhile_cons_of_neg (hbare.last a hlast), ← hinner, List.reverse_reverse]
  · rw [hnil]
    rfl

theorem exists_padded_iff {P : List α → Prop} (hbare : ∀ inner, P inner → Bare (p · = true) inner) :
    (∃ inner, Padded (p · = true) outer inner ∧ P inner) ↔
      P ((outer.dropWhile p).reverse.dropWhile p).reverse := by
  constructor
  · rintro ⟨inner, hpadded, hinner⟩
    rwa [dropWhile_of_padded hpadded (hbare inner hinner)]
  · exact fun h => ⟨_, padded_dropWhile p outer, h⟩

end

/-- **A bare word with blanks around it is one after trimming.** -/
theorem exists_padded_iff_trim {cs : List Char} {P : List Char → Prop}
    (hbare : ∀ word, P word → Bare (isBlank · = true) word) :
    (∃ word, Padded (isBlank · = true) cs word ∧ P word) ↔ P (trim cs) :=
  exists_padded_iff hbare

/-- **A bare word with spaces around it is one after trimming.** -/
theorem exists_padded_iff_trimSpaces {cs : List Char} {P : List Char → Prop}
    (hbare : ∀ word, P word → Bare (isSpace · = true) word) :
    (∃ word, Padded (isSpace · = true) cs word ∧ P word) ↔ P (trimSpaces cs) :=
  exists_padded_iff hbare

end ClassOrder.Text
