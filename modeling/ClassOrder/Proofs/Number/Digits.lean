import ClassOrder.Number.Format
import ClassOrder.Text.Digit
import Mathlib.Data.List.TakeDrop
import Mathlib.Tactic.IntervalCases

/-!
# Decimal digits and their numbers

The digits of a number write it, the first of them is a zero for zero alone, and a reader of
digits stops at the first character that is none.

## Main results

* `asciiNumeral_digits` — the digits of a number write it.
* `digits_eq_cons` — the leading digit.
* `span_isAsciiDigit` — where a run of digits ends.
-/

namespace ClassOrder.Number

open ClassOrder.Text

/-! ### The digits of a number -/

theorem asciiNumeral_eq (cs : List Char) : asciiNumeral cs = Nat.ofDigitChars 10 cs 0 := by
  simp [asciiNumeral, numeral, numeralFrom, asciiDigitValue, Nat.ofDigitChars_eq_foldl,
    List.foldl_map]

@[simp] theorem asciiNumeral_digits (n : Nat) : asciiNumeral (digits n) = n := by
  rw [asciiNumeral_eq, digits, Nat.ofDigitChars_ten_toDigits]

theorem isAsciiDigit_eq (c : Char) : isAsciiDigit c = c.isDigit := by
  simp [isAsciiDigit, Char.isDigit, Char.le_def]

theorem isAsciiDigit_of_mem_digits {n : Nat} {c : Char} (h : c ∈ digits n) :
    isAsciiDigit c = true := by
  rw [isAsciiDigit_eq]
  exact Nat.isDigit_of_mem_toDigits (by decide) (by decide) h

theorem digits_ne_nil (n : Nat) : digits n ≠ [] := Nat.toDigits_ne_nil

@[simp] theorem digits_zero : digits 0 = ['0'] := rfl

/-- A number other than zero has no zero as its first digit. -/
theorem digits_eq_cons {n : Nat} (h : n ≠ 0) : ∃ c cs, digits n = c :: cs ∧ c ≠ '0' := by
  induction n using Nat.strongRecOn with
  | ind n ih =>
    by_cases hlt : n < 10
    · refine ⟨n.digitChar, [], Nat.toDigits_of_lt_base hlt, ?_⟩
      have hpos : 0 < n := Nat.pos_of_ne_zero h
      interval_cases n <;> decide
    · obtain ⟨c, cs, heq, hc⟩ := ih (n / 10) (by omega) (by omega)
      refine ⟨c, cs ++ Nat.toDigits 10 (n % 10), ?_, hc⟩
      have heq' : Nat.toDigits 10 (n / 10) = c :: cs := heq
      rw [digits, Nat.toDigits_of_base_le (by decide) (by omega), heq', List.cons_append,
        Nat.toDigits_of_lt_base (Nat.mod_lt n (by decide))]

/-! ### Runs of digits -/

/-- Text that does not go on with a digit. -/
def NoDigit (rest : List Char) : Prop := ∀ c ∈ rest.head?, isAsciiDigit c = false

@[simp] theorem noDigit_nil : NoDigit [] := by simp [NoDigit]

@[simp] theorem noDigit_cons (c : Char) (cs : List Char) :
    NoDigit (c :: cs) ↔ isAsciiDigit c = false := by simp [NoDigit]

/-- A run of digits ends where the text does not go on with one. -/
theorem span_isAsciiDigit {ds rest : List Char} (hds : ∀ c ∈ ds, isAsciiDigit c = true)
    (hrest : NoDigit rest) : (ds ++ rest).span isAsciiDigit = (ds, rest) := by
  have hstop : rest.takeWhile isAsciiDigit = [] ∧ rest.dropWhile isAsciiDigit = rest := by
    cases rest with
    | nil => simp
    | cons c cs =>
      have hc := (noDigit_cons c cs).mp hrest
      simp [hc]
  rw [List.span_eq_takeWhile_dropWhile, List.takeWhile_append_of_pos hds,
    List.dropWhile_append_of_pos hds, hstop.1, hstop.2, List.append_nil]

end ClassOrder.Number
