import ClassOrder.Number.Read
import ClassOrder.Proofs.Number.Digits

/-!
# Grouped digits

Underscores may stand between the digits of a written whole number, one at a time.  Reading takes
them out as it goes, with one bit of memory: whether a digit came just before.  The grammar needs
no memory, and the two agree.

## Main definitions

* `Grouped` — digits with single underscores between some of them.
* `IsSign` — an optional sign.
* `WritesInteger` — an optional sign and grouped digits.

## Main results

* `ungroup?_eq_some_iff` — what is left without the underscores.
* `integer?_eq_some_iff` — **which texts write a whole number, and which one.**
-/

namespace ClassOrder.Number

open ClassOrder.Text

/-- A text of digits, with single underscores between some of them; and the digits alone. -/
inductive Grouped : List Char → List Char → Prop where
  | last {d : Char} (hd : isAsciiDigit d = true) : Grouped [d] [d]
  | next {d : Char} {text digits : List Char} (hd : isAsciiDigit d = true)
      (h : Grouped text digits) : Grouped (d :: text) (d :: digits)
  | gap {d : Char} {text digits : List Char} (hd : isAsciiDigit d = true)
      (h : Grouped text digits) : Grouped (d :: '_' :: text) (d :: digits)

/-- An optional sign, and whether it is a minus. -/
inductive IsSign : List Char → Bool → Prop where
  | absent : IsSign [] false
  | plus : IsSign ['+'] false
  | minus : IsSign ['-'] true

/-- An optional sign and grouped digits, no more of them than a written integer may have. -/
inductive WritesInteger : List Char → Int → Prop where
  | intro {mark text digits : List Char} {negative : Bool} (hmark : IsSign mark negative)
      (hdigits : Grouped text digits) (hlimit : digits.length ≤ digitLimit) :
      WritesInteger (mark ++ text) (signed negative (asciiNumeral digits))

namespace Grouped

variable {text digits : List Char}

theorem isAsciiDigit (h : Grouped text digits) : ∀ d ∈ digits, isAsciiDigit d = true := by
  induction h with
  | last hd => simpa using hd
  | next hd h ih => exact List.forall_mem_cons.mpr ⟨hd, ih⟩
  | gap hd h ih => exact List.forall_mem_cons.mpr ⟨hd, ih⟩

/-- A text of grouped digits starts with the first of them. -/
theorem exists_cons (h : Grouped text digits) :
    ∃ d rest more, text = d :: rest ∧ digits = d :: more ∧ Text.isAsciiDigit d = true := by
  cases h with
  | last hd => exact ⟨_, _, _, rfl, rfl, hd⟩
  | next hd h => exact ⟨_, _, _, rfl, rfl, hd⟩
  | gap hd h => exact ⟨_, _, _, rfl, rfl, hd⟩

theorem startsWithDigit (h : Grouped text digits) : startsWithDigit text = true := by
  obtain ⟨d, rest, more, rfl, -, hd⟩ := h.exists_cons
  exact hd

theorem of_mem_text (h : Grouped text digits) {c : Char} (hc : c ∈ text) :
    Text.isAsciiDigit c = true ∨ c = '_' := by
  induction h with
  | last hd => exact .inl (List.mem_singleton.mp hc ▸ hd)
  | next hd h ih =>
    rcases List.mem_cons.mp hc with rfl | hc
    · exact .inl hd
    · exact ih hc
  | gap hd h ih =>
    rcases List.mem_cons.mp hc with rfl | hc
    · exact .inl hd
    · rcases List.mem_cons.mp hc with rfl | hc
      · exact .inr rfl
      · exact ih hc

theorem ne_nil (h : Grouped text digits) : digits ≠ [] := by
  obtain ⟨d, rest, more, -, rfl, -⟩ := h.exists_cons
  exact List.cons_ne_nil _ _

end Grouped

theorem ne_underscore_of_isAsciiDigit {c : Char} (h : isAsciiDigit c = true) : c ≠ '_' := by
  rintro rfl
  exact absurd h (by decide)

/-! ### Taking the underscores out -/

theorem Grouped.ungroup? {text digits : List Char} (h : Grouped text digits) (afterDigit : Bool) :
    ungroup? afterDigit text = some digits := by
  induction h generalizing afterDigit with
  | last hd => rw [Number.ungroup?, if_neg (ne_underscore_of_isAsciiDigit hd)]; rfl
  | next hd h ih => rw [Number.ungroup?, if_neg (ne_underscore_of_isAsciiDigit hd), ih]; rfl
  | gap hd h ih =>
    rw [Number.ungroup?, if_neg (ne_underscore_of_isAsciiDigit hd), hd, Number.ungroup?, if_pos rfl,
      h.startsWithDigit, Bool.and_self, if_pos rfl, ih]
    rfl

/-- What the underscores can be taken out of: nothing, grouped digits, or, after a digit, an
underscore with grouped digits after it. -/
theorem grouped_of_ungroup? {afterDigit : Bool} {text digits : List Char}
    (h : ungroup? afterDigit text = some digits) (hdigits : ∀ d ∈ digits, isAsciiDigit d = true) :
    (text = [] ∧ digits = []) ∨ Grouped text digits ∨
      (afterDigit = true ∧ ∃ rest, text = '_' :: rest ∧ Grouped rest digits) := by
  -- an underscore is passed over only after a digit and before one
  induction text generalizing afterDigit digits with
  | nil =>
    rw [ungroup?] at h
    exact .inl ⟨rfl, (Option.some.inj h).symm⟩
  | cons c text ih =>
    rw [ungroup?] at h
    split at h
    · next hc =>
      subst hc
      split at h
      · next hbetween =>
        obtain ⟨hafter, hstart⟩ := Bool.and_eq_true_iff.mp hbetween
        refine .inr (.inr ⟨hafter, text, rfl, ?_⟩)
        rcases ih h hdigits with ⟨rfl, -⟩ | hgrouped | ⟨hfalse, -⟩
        · cases hstart
        · exact hgrouped
        · cases hfalse
      · cases h
    · obtain ⟨rest, hrest, rfl⟩ := Option.map_eq_some_iff.mp h
      obtain ⟨hc, hmore⟩ := List.forall_mem_cons.mp hdigits
      refine .inr (.inl ?_)
      rcases ih hrest hmore with ⟨rfl, rfl⟩ | hgrouped | ⟨-, rest', rfl, hgrouped⟩
      · exact .last hc
      · exact .next hc hgrouped
      · exact .gap hc hgrouped

/-- **What is left without the underscores**: digits, if they are grouped digits. -/
theorem ungroup?_eq_some_iff {text digits : List Char} (hne : digits ≠ [])
    (hdigits : ∀ d ∈ digits, isAsciiDigit d = true) :
    ungroup? false text = some digits ↔ Grouped text digits := by
  constructor
  · intro h
    rcases grouped_of_ungroup? h hdigits with ⟨-, rfl⟩ | hgrouped | ⟨hfalse, -⟩
    · exact absurd rfl hne
    · exact hgrouped
    · cases hfalse
  · exact fun h => h.ungroup? false

/-! ### Signs -/

theorem sign_append {mark text digits : List Char} {negative : Bool} (hmark : IsSign mark negative)
    (htext : Grouped text digits) : sign (mark ++ text) = (negative, text) := by
  cases hmark with
  | absent =>
    obtain ⟨d, rest, more, rfl, -, hd⟩ := htext.exists_cons
    rw [List.nil_append]
    unfold sign
    split
    · next heq => exact absurd hd (by rw [(List.cons.inj heq).1]; decide)
    · next heq => exact absurd hd (by rw [(List.cons.inj heq).1]; decide)
    · rfl
  | plus => rfl
  | minus => rfl

theorem isSign_sign (cs : List Char) :
    ∃ mark, IsSign mark (sign cs).1 ∧ cs = mark ++ (sign cs).2 := by
  unfold sign
  split
  · exact ⟨_, .minus, rfl⟩
  · exact ⟨_, .plus, rfl⟩
  · exact ⟨_, .absent, rfl⟩

/-! ### Whole numbers -/

/-- **Which texts write a whole number, and which one.** -/
theorem integer?_eq_some_iff {cs : List Char} {n : Int} :
    integer? cs = some n ↔ WritesInteger cs n := by
  constructor
  · intro h
    obtain ⟨mark, hmark, hcs⟩ := isSign_sign cs
    rw [integer?] at h
    cases hungroup : ungroup? false (sign cs).2 with
    | none =>
      simp only [hungroup] at h
      cases h
    | some digits =>
      simp only [hungroup] at h
      split at h
      · next hvalid =>
        simp only [Bool.and_eq_true, Bool.not_eq_true', List.isEmpty_eq_false_iff,
          List.all_eq_true, decide_eq_true_eq] at hvalid
        obtain ⟨⟨hne, hdigits⟩, hlimit⟩ := hvalid
        rw [hcs, ← Option.some.inj h]
        exact .intro hmark ((ungroup?_eq_some_iff hne hdigits).mp hungroup) hlimit
      · cases h
  · rintro ⟨hmark, htext, hlimit⟩
    have hvalid := htext.isAsciiDigit
    rw [← List.all_eq_true] at hvalid
    simp only [integer?, sign_append hmark htext, htext.ungroup?, hvalid, hlimit, Bool.and_true,
      decide_true, Bool.not_eq_true', List.isEmpty_eq_false_iff.mpr htext.ne_nil, if_true]

end ClassOrder.Number
