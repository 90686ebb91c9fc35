import ClassOrder.Json.Printer
import ClassOrder.Json.Reader
import ClassOrder.Proofs.Number.Bits
import ClassOrder.Proofs.Number.Full

/-!
# Written numbers read back

A whole number is read from its digits and a double from its full form, where what follows does
not go on with the number.

## Main definitions

* `EndsNumber` — what a number may be followed by.
* `StartsAtom` — what a number or a word may start with.

## Main results

* `readAtom_intChars` — a whole number, with as many digits as one may have.
* `readAtom_floatChars` — a double, if its full form reads back to it.
-/

namespace ClassOrder.Json

open ClassOrder.Text ClassOrder.Number

/-- Text that does not go on with a number. -/
def EndsNumber (rest : List Char) : Prop :=
  ∀ c ∈ rest.head?, isAsciiDigit c = false ∧ c ≠ '.' ∧ c ≠ 'e' ∧ c ≠ 'E'

section

variable {rest : List Char} (hrest : EndsNumber rest)
include hrest

theorem EndsNumber.noDigit : NoDigit rest := fun c hc => (hrest c hc).1

theorem EndsNumber.fractionPart? : fractionPart? rest = none := by
  unfold Json.fractionPart?
  split
  · exact absurd rfl (hrest '.' rfl).2.1
  · rfl

theorem EndsNumber.exponentPart? : exponentPart? rest = none := by
  cases rest with
  | nil => rfl
  | cons c cs =>
    have hc := hrest c rfl
    simp [Json.exponentPart?, hc.2.2]

/-! ### The parts of a number -/

omit hrest in
/-- Digits before the point: a zero alone, or digits that start with another. -/
theorem wholePart?_append {ds rest : List Char} (hds : ∀ c ∈ ds, isAsciiDigit c = true)
    (hlead : ds = ['0'] ∨ ∃ c cs, ds = c :: cs ∧ c ≠ '0') (hrest : NoDigit rest) :
    wholePart? (ds ++ rest) = some (ds, rest) := by
  rcases hlead with rfl | ⟨c, cs, rfl, hc⟩
  · rfl
  · have hdigit : isAsciiDigit c = true := hds c (by simp)
    have hspan := span_isAsciiDigit hds hrest
    rw [List.cons_append] at hspan
    rw [List.cons_append, wholePart?, if_neg hc, if_pos hdigit, hspan]

theorem exponentPart?_exponentChars (w : Written) :
    exponentPart? (Written.exponentChars w.exponent ++ rest) =
      w.exponent.map fun e => (signed e.1 (asciiNumeral e.2), rest) := by
  have hdigit := w.exponent_digit
  have hne := w.exponent_ne_nil
  cases he : w.exponent with
  | none => exact hrest.exponentPart?
  | some e =>
    obtain ⟨negative, ds⟩ := e
    rw [he] at hdigit hne
    have hspan : (ds ++ rest).span isAsciiDigit = (ds, rest) :=
      span_isAsciiDigit (hdigit _ rfl) hrest.noDigit
    have hsign : sign ((if negative then '-' else '+') :: (ds ++ rest)) =
        (negative, ds ++ rest) := by
      cases negative <;> rfl
    have hfull : ds ≠ [] := hne _ rfl
    simp only [Written.exponentChars, List.cons_append, Json.exponentPart?, hsign, hspan]
    simp [hfull]

theorem noDigit_exponentChars_append (w : Written) :
    NoDigit (Written.exponentChars w.exponent ++ rest) := by
  cases w.exponent with
  | none => exact hrest.noDigit
  | some e => exact (noDigit_cons _ _).mpr (by decide)

theorem noDigit_fractionChars_append (w : Written) :
    NoDigit (Written.fractionChars w.fraction ++ (Written.exponentChars w.exponent ++ rest)) := by
  cases w.fraction with
  | none => exact noDigit_exponentChars_append hrest w
  | some ds => exact (noDigit_cons _ _).mpr (by decide)

theorem fractionPart?_fractionChars {w : Written} (hw : w.IsJson) :
    fractionPart? (Written.fractionChars w.fraction ++ (Written.exponentChars w.exponent ++ rest)) =
      w.fraction.map fun ds => (ds, Written.exponentChars w.exponent ++ rest) := by
  have hdigit := w.fraction_digit
  have hne := hw.fraction
  cases hf : w.fraction with
  | none =>
    cases w.exponent with
    | none => exact hrest.fractionPart?
    | some e => rfl
  | some ds =>
    rw [hf] at hdigit hne
    have hspan := span_isAsciiDigit (hdigit ds rfl) (noDigit_exponentChars_append hrest w)
    have hfull : ds ≠ [] := hne ds rfl
    simp only [Written.fractionChars, List.cons_append, Json.fractionPart?, hspan]
    simp [hfull]

/-! ### Whole numbers and doubles -/

/-- The text of a decimal is read as its double. -/
theorem readNumber_text {w : Written} (hw : w.IsJson) (negative : Bool) :
    readNumber negative (w.text ++ rest) = .ok (float (w.value negative), rest) := by
  have htext : w.text ++ rest = w.whole ++
      (Written.fractionChars w.fraction ++ (Written.exponentChars w.exponent ++ rest)) := by
    simp [Written.text]
  have hwhole := wholePart?_append w.whole_digit hw.whole (noDigit_fractionChars_append hrest w)
  have hfraction := fractionPart?_fractionChars hrest hw
  have hexponent := exponentPart?_exponentChars hrest w
  rw [htext, readNumber, hwhole]
  simp only [hfraction]
  cases hf : w.fraction with
  | some ds =>
    cases he : w.exponent with
    | none =>
      simp [Written.exponentChars, hrest.exponentPart?, Written.value, Written.digits,
        Written.scale, hf, he]
    | some e =>
      rw [he] at hexponent
      simp [hexponent, Written.value, Written.digits, Written.scale, hf, he]
  | none =>
    cases he : w.exponent with
    | none => simpa [hf, he] using hw.marked
    | some e =>
      rw [he] at hexponent
      simp [hexponent, Written.fractionChars, Written.value, Written.digits, Written.scale, hf, he]

/-- The digits of a number are read as it. -/
theorem readNumber_digits {n : Nat} (hn : (digits n).length ≤ digitLimit) (negative : Bool) :
    readNumber negative (digits n ++ rest) = .ok (int (signed negative n), rest) := by
  have hlead : digits n = ['0'] ∨ ∃ c cs, digits n = c :: cs ∧ c ≠ '0' := by
    by_cases hzero : n = 0
    · left
      rw [hzero, digits_zero]
    · exact .inr (digits_eq_cons hzero)
  have hwhole := wholePart?_append (fun c hc => isAsciiDigit_of_mem_digits hc) hlead hrest.noDigit
  rw [readNumber, hwhole]
  simp only [hrest.fractionPart?, hrest.exponentPart?, if_pos hn, asciiNumeral_digits]

end

/-! ### Atoms -/

theorem ne_of_isAsciiDigit {c d : Char} (hc : isAsciiDigit c = true)
    (hd : isAsciiDigit d = false) : d ≠ c := by
  rintro rfl
  rw [hd] at hc
  cases hc

/-- A text that starts with a digit is a number. -/
theorem readAtom_digit {c : Char} (hc : isAsciiDigit c = true) (cs : List Char) :
    readAtom (c :: cs) = readNumber false (c :: cs) := by
  have hn : 'n' ≠ c := ne_of_isAsciiDigit hc (by decide)
  have ht : 't' ≠ c := ne_of_isAsciiDigit hc (by decide)
  have hf : 'f' ≠ c := ne_of_isAsciiDigit hc (by decide)
  have hN : 'N' ≠ c := ne_of_isAsciiDigit hc (by decide)
  have hI : 'I' ≠ c := ne_of_isAsciiDigit hc (by decide)
  have hminus : '-' ≠ c := ne_of_isAsciiDigit hc (by decide)
  unfold readAtom
  simp only [String.reduceToList, after?, hn, ht, hf, hN, hI, hminus, if_false]
  split
  · next heq => exact absurd (List.cons.inj heq).1.symm hminus
  · rfl

/-- A text that starts with a minus sign and a digit is a number. -/
theorem readAtom_minus {c : Char} (hc : isAsciiDigit c = true) (cs : List Char) :
    readAtom ('-' :: c :: cs) = readNumber true (c :: cs) := by
  have hI : 'I' ≠ c := ne_of_isAsciiDigit hc (by decide)
  simp [readAtom, after?, hI]

/-- The text of a number starts with its sign and a digit. -/
theorem readAtom_signChars {c : Char} (hc : isAsciiDigit c = true) (negative : Bool)
    (cs : List Char) :
    readAtom (signChars negative ++ c :: cs) = readNumber negative (c :: cs) := by
  cases negative
  · exact readAtom_digit hc cs
  · exact readAtom_minus hc cs

theorem readAtom_nan (rest : List Char) :
    readAtom ("NaN".toList ++ rest) = .ok (float (0.0 / 0.0), rest) := rfl

theorem readAtom_infinity (rest : List Char) :
    readAtom ("Infinity".toList ++ rest) = .ok (float (1.0 / 0.0), rest) := rfl

theorem readAtom_minusInfinity (rest : List Char) :
    readAtom ("-Infinity".toList ++ rest) = .ok (float (-1.0 / 0.0), rest) := rfl

variable {rest : List Char}

theorem intChars_eq (n : Int) : intChars n = signChars (decide (n < 0)) ++ digits n.natAbs := by
  cases n with
  | ofNat n => rfl
  | negSucc n => simp [intChars, signChars, Int.negSucc_lt_zero, Int.natAbs_negSucc]

/-- The digits of a number start with one. -/
theorem digits_eq_digit_cons (n : Nat) :
    ∃ c cs, digits n = c :: cs ∧ isAsciiDigit c = true := by
  obtain ⟨c, cs, hcs⟩ := List.exists_cons_of_ne_nil (digits_ne_nil n)
  exact ⟨c, cs, hcs, isAsciiDigit_of_mem_digits (n := n) (by simp [hcs])⟩

/-- **A written whole number reads back**, with as many digits as one may have. -/
theorem readAtom_intChars {n : Int} (hn : (digits n.natAbs).length ≤ digitLimit)
    (hrest : EndsNumber rest) : readAtom (intChars n ++ rest) = .ok (int n, rest) := by
  have hvalue : signed (decide (n < 0)) n.natAbs = n := by
    simp only [signed, decide_eq_true_eq]
    split <;> omega
  obtain ⟨c, cs, hcs, hc⟩ := digits_eq_digit_cons n.natAbs
  have hread := readNumber_digits hrest hn (decide (n < 0))
  rw [hvalue, hcs] at hread
  rw [intChars_eq, hcs, List.append_assoc, List.cons_append, readAtom_signChars hc]
  exact hread

/-- An infinite double is written by its name. -/
theorem floatChars_of_infinite {x : Float} {negative : Bool}
    (hx : magnitude x = (negative, .infinite)) :
    x = 1.0 / 0.0 ∧ floatChars x = "Infinity".toList ∨
      x = -1.0 / 0.0 ∧ floatChars x = "-Infinity".toList := by
  have hval := eq_of_infinite hx
  have hnan := isNaN_eq x
  have hinf := isInf_eq x
  rw [hx] at hnan hinf
  have hchars : floatChars x = if x < 0.0 then "-Infinity".toList else "Infinity".toList := by
    rw [floatChars, if_neg (by simpa using hnan), if_pos (by simpa using hinf)]
    rfl
  cases negative with
  | true =>
    have hless : (-1.0 / 0.0 : Float) < 0.0 := by decide
    rw [if_pos rfl] at hval
    exact .inr ⟨hval, by rw [hchars, hval, if_pos hless]⟩
  | false =>
    have hless : ¬ (1.0 / 0.0 : Float) < 0.0 := by decide
    rw [if_neg (by decide)] at hval
    exact .inl ⟨hval, by rw [hchars, hval, if_neg hless]⟩

/-- What the written form of a double is: a name, or a decimal that JSON reads as the double. -/
theorem floatChars_cases {x : Float} (hx : x.isFinite = true → double? (full x) = some x) :
    x = 0.0 / 0.0 ∧ floatChars x = "NaN".toList ∨
      x = 1.0 / 0.0 ∧ floatChars x = "Infinity".toList ∨
      x = -1.0 / 0.0 ∧ floatChars x = "-Infinity".toList ∨
      ∃ (negative : Bool) (w : Written), w.IsJson ∧ floatChars x = signChars negative ++ w.text ∧
        x = w.value negative := by
  obtain ⟨⟨negative, size⟩, hsize⟩ : ∃ m, magnitude x = m := ⟨_, rfl⟩
  have hnan := isNaN_eq x
  have hinf := isInf_eq x
  have hfinite := isFinite_eq x
  rw [hsize] at hnan hinf
  by_cases hsizeNan : size = .nan
  · subst hsizeNan
    refine .inl ⟨eq_of_nan (congrArg Prod.snd hsize), ?_⟩
    rw [floatChars, if_pos (by simpa using hnan)]
    rfl
  by_cases hsizeInf : size = .infinite
  · subst hsizeInf
    exact (floatChars_of_infinite hsize).elim (fun h => .inr (.inl h))
      fun h => .inr (.inr (.inl h))
  have hnotNan : x.isNaN = false := by
    rw [hnan]
    exact decide_eq_false hsizeNan
  have hnotInf : x.isInf = false := by
    rw [hinf]
    exact decide_eq_false hsizeInf
  have hback := hx (by rw [hfinite, hnotNan, hnotInf]; rfl)
  obtain ⟨w, hfull, hjson, hval⟩ := exists_isJson_full hsize hsizeInf hsizeNan hback
  refine .inr (.inr (.inr ⟨negative, w, hjson, ?_, hval⟩))
  rw [floatChars, if_neg (Bool.eq_false_iff.mp hnotNan), if_neg (Bool.eq_false_iff.mp hnotInf),
    hfull, String.toList_ofList]

/-- The text of a decimal that JSON reads starts with a digit. -/
theorem text_eq_cons {w : Written} (hw : w.IsJson) :
    ∃ c cs, w.text = c :: cs ∧ isAsciiDigit c = true := by
  have hdigit := w.whole_digit
  rcases hw.whole with hwhole | ⟨c, cs, hwhole, -⟩
  · exact ⟨'0', _, by rw [Written.text, hwhole]; rfl, rfl⟩
  · exact ⟨c, _, by rw [Written.text, hwhole]; rfl, hdigit c (by simp [hwhole])⟩

/-- **A written double reads back**, if its full form does. -/
theorem readAtom_floatChars {x : Float} (hx : x.isFinite = true → double? (full x) = some x)
    (hrest : EndsNumber rest) : readAtom (floatChars x ++ rest) = .ok (float x, rest) := by
  rcases floatChars_cases hx with ⟨hval, hchars⟩ | ⟨hval, hchars⟩ | ⟨hval, hchars⟩ |
    ⟨negative, w, hjson, hchars, hval⟩
  · rw [hchars, hval, readAtom_nan]
  · rw [hchars, hval, readAtom_infinity]
  · rw [hchars, hval, readAtom_minusInfinity]
  · obtain ⟨c, cs, htext, hc⟩ := text_eq_cons hjson
    have hread := readNumber_text hrest hjson negative
    rw [← hval, htext] at hread
    rw [hchars, htext, List.append_assoc, List.cons_append, readAtom_signChars hc]
    exact hread

/-! ### How a number starts -/

/-- A digit, a minus sign or the first letter of a word. -/
def StartsAtom (c : Char) : Prop :=
  isAsciiDigit c = true ∨ c ∈ ['-', 'n', 't', 'f', 'N', 'I']

theorem startsAtom_signChars {c : Char} (hc : isAsciiDigit c = true) (negative : Bool)
    (cs : List Char) :
    ∃ d ds, signChars negative ++ c :: cs = d :: ds ∧ StartsAtom d := by
  cases negative with
  | true => exact ⟨'-', c :: cs, rfl, .inr (by decide)⟩
  | false => exact ⟨c, cs, rfl, .inl hc⟩

theorem startsAtom_intChars (n : Int) : ∃ c cs, intChars n = c :: cs ∧ StartsAtom c := by
  obtain ⟨c, cs, hcs, hc⟩ := digits_eq_digit_cons n.natAbs
  rw [intChars_eq, hcs]
  exact startsAtom_signChars hc _ cs

theorem startsAtom_floatChars {x : Float} (hx : x.isFinite = true → double? (full x) = some x) :
    ∃ c cs, floatChars x = c :: cs ∧ StartsAtom c := by
  rcases floatChars_cases hx with ⟨-, hchars⟩ | ⟨-, hchars⟩ | ⟨-, hchars⟩ |
    ⟨negative, w, hjson, hchars, -⟩
  · exact ⟨'N', _, hchars, .inr (by decide)⟩
  · exact ⟨'I', _, hchars, .inr (by decide)⟩
  · exact ⟨'-', _, hchars, .inr (by decide)⟩
  · obtain ⟨c, cs, htext, hc⟩ := text_eq_cons hjson
    rw [hchars, htext]
    exact startsAtom_signChars hc negative cs

end ClassOrder.Json
