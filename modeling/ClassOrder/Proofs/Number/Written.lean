import ClassOrder.Number.Read
import ClassOrder.Proofs.Number.Digits

/-!
# Written decimals

What the full form of a finite double looks like: digits, a point with more digits, an exponent
with a sign.  Read as a setting, such a text gives the double nearest to the decimal that it
writes.

## Main definitions

* `Written` — the parts of a written decimal.
* `Written.text`, `Written.value` — its text and its double.

## Main results

* `double?_text` — what a setting reads from the text.
-/

namespace ClassOrder.Number

open ClassOrder.Text

/-- A decimal as it is written. -/
structure Written where
  /-- The digits before the point. -/
  whole : List Char
  /-- The digits after the point, if there is one. -/
  fraction : Option (List Char)
  /-- Whether the exponent is negative, and its digits, if there is one. -/
  exponent : Option (Bool × List Char)
  whole_digit : ∀ c ∈ whole, isAsciiDigit c = true
  fraction_digit : ∀ ds ∈ fraction, ∀ c ∈ ds, isAsciiDigit c = true
  exponent_digit : ∀ e ∈ exponent, ∀ c ∈ e.2, isAsciiDigit c = true
  exponent_ne_nil : ∀ e ∈ exponent, e.2 ≠ []

namespace Written

/-- A point and the digits after it. -/
def fractionChars : Option (List Char) → List Char
  | none => []
  | some ds => '.' :: ds

/-- An exponent with its mark and its sign. -/
def exponentChars : Option (Bool × List Char) → List Char
  | none => []
  | some (negative, ds) => 'e' :: (if negative then '-' else '+') :: ds

/-- The text of a decimal. -/
def text (w : Written) : List Char :=
  w.whole ++ (fractionChars w.fraction ++ exponentChars w.exponent)

/-- All digits of a decimal but those of its exponent. -/
def digits (w : Written) : List Char := w.whole ++ w.fraction.getD []

/-- The power of ten of the last digit. -/
def scale (w : Written) : Int :=
  (w.exponent.elim 0 fun e => signed e.1 (asciiNumeral e.2)) - (w.fraction.getD []).length

/-- The double nearest to a decimal. -/
def value (w : Written) (negative : Bool) : Float :=
  ofDecimal negative (asciiNumeral w.digits) w.scale

end Written

/-- The sign of a written number. -/
def signChars (negative : Bool) : List Char := if negative then ['-'] else []

/-! ### The marks of a written decimal -/

/-- A digit, a point, the mark of an exponent or a sign. -/
def IsMark (c : Char) : Prop :=
  isAsciiDigit c = true ∨ c = '.' ∨ c = 'e' ∨ c = '+' ∨ c = '-'

theorem isAsciiDigit_iff (c : Char) :
    isAsciiDigit c = true ↔ 0x30 ≤ c.toNat ∧ c.toNat ≤ 0x39 := by
  simp [isAsciiDigit, Char.le_def, UInt32.le_iff_toNat_le]

theorem IsMark.toNat_lt {c : Char} (h : IsMark c) : c.toNat < 0x80 := by
  rcases h with h | rfl | rfl | rfl | rfl
  · have := (isAsciiDigit_iff c).mp h
    omega
  all_goals decide

theorem IsMark.not_space {c : Char} (h : IsMark c) : isSpace c = false := by
  rcases h with h | rfl | rfl | rfl | rfl
  · have := (isAsciiDigit_iff c).mp h
    simp [isSpace, isBlank]
    omega
  all_goals decide

theorem IsMark.ne_underscore {c : Char} (h : IsMark c) : c ≠ '_' := by
  rintro rfl
  rcases h with h | h | h | h | h
  all_goals exact absurd h (by decide)

/-- The names of doubles hold an `n`, which is none of the marks. -/
theorem IsMark.toLower_ne {c : Char} (h : IsMark c) : c.toLower ≠ 'n' := by
  rcases h with h | rfl | rfl | rfl | rfl
  · have hrange := (isAsciiDigit_iff c).mp h
    have hsame : c.toLower = c := by
      refine dif_neg ?_
      simp only [UInt32.le_iff_toNat_le, ge_iff_le]
      intro hupper
      have : (65 : Nat) ≤ c.toNat := hupper.1
      omega
    rw [hsame]
    rintro rfl
    exact absurd hrange (by decide)
  all_goals decide

theorem isMark_of_mem_exponentChars {w : Written} {c : Char}
    (h : c ∈ Written.exponentChars w.exponent) : IsMark c := by
  have hdigit := w.exponent_digit
  cases he : w.exponent with
  | none => simp [he, Written.exponentChars] at h
  | some e =>
    rw [he] at h hdigit
    simp only [Written.exponentChars, List.mem_cons] at h
    rcases h with rfl | rfl | h
    · exact .inr (.inr (.inl rfl))
    · cases e.1
      · exact .inr (.inr (.inr (.inl rfl)))
      · exact .inr (.inr (.inr (.inr rfl)))
    · exact .inl (hdigit e rfl c h)

theorem isMark_of_mem_fractionChars {w : Written} {c : Char}
    (h : c ∈ Written.fractionChars w.fraction) : IsMark c := by
  have hdigit := w.fraction_digit
  cases hf : w.fraction with
  | none => simp [hf, Written.fractionChars] at h
  | some ds =>
    rw [hf] at h hdigit
    simp only [Written.fractionChars, List.mem_cons] at h
    rcases h with rfl | h
    · exact .inr (.inl rfl)
    · exact .inl (hdigit ds rfl c h)

theorem isMark_of_mem_text {w : Written} {c : Char} (h : c ∈ w.text) : IsMark c := by
  rw [Written.text, List.mem_append, List.mem_append] at h
  rcases h with h | h | h
  · exact .inl (w.whole_digit c h)
  · exact isMark_of_mem_fractionChars h
  · exact isMark_of_mem_exponentChars h

/-! ### The steps of reading a setting -/

theorem trimSpaces_eq_self {cs : List Char} (h : ∀ c ∈ cs, isSpace c = false) :
    trimSpaces cs = cs := by
  have hdrop (ds : List Char) (hds : ∀ c ∈ ds, isSpace c = false) :
      ds.dropWhile isSpace = ds := by
    cases ds with
    | nil => rfl
    | cons c ds => simp [hds c (by simp)]
  rw [trimSpaces, hdrop cs h, hdrop cs.reverse (by simpa using h), List.reverse_reverse]

theorem plain?_eq_self {cs : List Char} (h : ∀ c ∈ cs, c.toNat < 0x80) :
    plain? cs = some cs := by
  induction cs with
  | nil => rfl
  | cons c cs ih =>
    have hc := h c (by simp)
    have hcs := ih fun d hd => h d (by simp [hd])
    rw [plain?] at hcs ⊢
    simp [hc, hcs]

theorem ungroup?_eq_self {cs : List Char} (h : ∀ c ∈ cs, c ≠ '_') :
    ∀ afterDigit, ungroup? afterDigit cs = some cs := by
  induction cs with
  | nil => intro _; rfl
  | cons c cs ih =>
    intro afterDigit
    have hc := h c (by simp)
    have hcs := ih fun d hd => h d (by simp [hd])
    rw [ungroup?, if_neg hc, hcs]
    rfl

theorem named?_eq_none {cs : List Char} (h : ∀ c ∈ cs, c.toLower ≠ 'n') (negative : Bool) :
    named? negative cs = none := by
  have hword (word : String) (hn : 'n' ∈ word.toList) : String.ofList (lower cs) ≠ word := by
    rintro rfl
    rw [String.toList_ofList, lower, List.mem_map] at hn
    obtain ⟨c, hc, heq⟩ := hn
    exact h c hc heq
  rw [named?, if_neg, if_neg]
  · exact hword "nan" (by decide)
  · rintro (heq | heq)
    · exact hword "inf" (by decide) heq
    · exact hword "infinity" (by decide) heq

theorem sign_cons {c : Char} (cs : List Char) (hminus : c ≠ '-') (hplus : c ≠ '+') :
    sign (c :: cs) = (false, c :: cs) := by
  unfold sign
  split
  · next heq => exact absurd (List.cons.inj heq).1 hminus
  · next heq => exact absurd (List.cons.inj heq).1 hplus
  · rfl

/-- The text of a decimal does not start with a sign. -/
theorem sign_text (w : Written) (negative : Bool) :
    sign (signChars negative ++ w.text) = (negative, w.text) := by
  cases negative with
  | true => rfl
  | false =>
    rw [signChars, if_neg (by decide), List.nil_append, Written.text]
    cases hw : w.whole with
    | cons c cs =>
      have hdigit : isAsciiDigit c = true := w.whole_digit c (by simp [hw])
      refine sign_cons _ ?_ ?_
      · rintro rfl
        exact absurd hdigit (by decide)
      · rintro rfl
        exact absurd hdigit (by decide)
    | nil =>
      cases w.fraction with
      | some ds => rfl
      | none => cases w.exponent <;> rfl

theorem noDigit_exponentChars (e : Option (Bool × List Char)) :
    NoDigit (Written.exponentChars e) := by
  cases e with
  | none => simp [Written.exponentChars]
  | some e => simp only [Written.exponentChars, noDigit_cons]; decide

theorem exponent?_exponentChars (w : Written) :
    exponent? (Written.exponentChars w.exponent) =
      some (w.exponent.elim 0 fun e => signed e.1 (asciiNumeral e.2), []) := by
  have hdigit := w.exponent_digit
  have hne := w.exponent_ne_nil
  cases he : w.exponent with
  | none => rfl
  | some e =>
    obtain ⟨negative, ds⟩ := e
    rw [he] at hdigit hne
    have hspan : ds.span isAsciiDigit = (ds, []) := by
      simpa only [List.append_nil] using span_isAsciiDigit (hdigit _ rfl) noDigit_nil
    have hfull : ds ≠ [] := hne _ rfl
    have hsign : sign ((if negative then '-' else '+') :: ds) = (negative, ds) := by
      cases negative <;> rfl
    simp only [Written.exponentChars, exponent?, hsign, hspan]
    simp [hfull]

/-- The text of a decimal is made of marks, also with a sign. -/
theorem isMark_of_mem_signed {w : Written} {negative : Bool} {c : Char}
    (h : c ∈ signChars negative ++ w.text) : IsMark c := by
  rw [List.mem_append] at h
  rcases h with hc | hc
  · cases negative
    · simp [signChars] at hc
    · obtain rfl : c = '-' := by simpa [signChars] using hc
      exact .inr (.inr (.inr (.inr rfl)))
  · exact isMark_of_mem_text hc

/-- The digits at the start of the text are those before the point. -/
theorem span_text (w : Written) : w.text.span isAsciiDigit =
    (w.whole, Written.fractionChars w.fraction ++ Written.exponentChars w.exponent) := by
  refine span_isAsciiDigit w.whole_digit ?_
  cases w.fraction with
  | none => exact noDigit_exponentChars _
  | some ds => exact (noDigit_cons _ _).mpr (by decide)

/-- **What a setting reads from the text of a decimal**: its double, if it has a digit. -/
theorem double?_text (w : Written) (negative : Bool) :
    double? (String.ofList (signChars negative ++ w.text)) =
      if w.digits.isEmpty then none else some (w.value negative) := by
  have hmark : ∀ c ∈ signChars negative ++ w.text, IsMark c := fun _ => isMark_of_mem_signed
  have htrim := trimSpaces_eq_self fun c hc => (hmark c hc).not_space
  have hplain := plain?_eq_self fun c hc => (hmark c hc).toNat_lt
  have hungroup := ungroup?_eq_self (fun c hc => (hmark c hc).ne_underscore) false
  have hnamed : named? negative w.text = none :=
    named?_eq_none (fun c hc => (isMark_of_mem_text hc).toLower_ne) negative
  have hexponent := exponent?_exponentChars w
  simp only [double?, String.toList_ofList, htrim, hplain, hungroup, sign_text, hnamed, span_text,
    Option.bind_eq_bind, Option.bind_some]
  have hdigit := w.fraction_digit
  cases hf : w.fraction with
  | none =>
    cases he : w.exponent with
    | none => simp [Written.fractionChars, Written.exponentChars, exponent?, Written.digits,
        Written.value, Written.scale, hf, he]
    | some e =>
      rw [he] at hexponent
      simp only [Written.exponentChars] at hexponent
      simp [Written.fractionChars, Written.exponentChars, hexponent, Written.digits,
        Written.value, Written.scale, hf, he]
  | some ds =>
    rw [hf] at hdigit
    have hfraction : (ds ++ Written.exponentChars w.exponent).span isAsciiDigit =
        (ds, Written.exponentChars w.exponent) :=
      span_isAsciiDigit (hdigit ds rfl) (noDigit_exponentChars _)
    simp only [Written.fractionChars, List.cons_append, hfraction, hexponent]
    simp [Written.digits, Written.value, Written.scale, hf]

end ClassOrder.Number
