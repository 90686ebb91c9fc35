import ClassOrder.Json.Printer
import ClassOrder.Json.Reader
import Mathlib.Tactic.IntervalCases

/-!
# Written strings read back

A character of a written string stands as it is, behind a backslash, or as four hexadecimal
digits.  The reader undoes each of the three, and what follows the closing mark is left to it.

## Main results

* `hexUnit?_hex` — four written hexadecimal digits read back as their number.
* `readString_stringChar` — one written character is read as one character.
* `readString_flatMap` — a written string is read to its closing mark.
-/

namespace ClassOrder.Json

open ClassOrder.Text

/-! ### Hexadecimal digits -/

theorem hexValue?_hexDigit {d : Nat} (h : d < 16) : hexValue? (hexDigit d) = some d := by
  interval_cases d <;> decide

/-- Four written hexadecimal digits read back as their number. -/
theorem hexUnit?_hex {n : Nat} (h : n < 0x10000) (rest : List Char) :
    hexUnit? (hex 4 n ++ rest) = some (n, rest) := by
  have hdigits : hex 4 n = [hexDigit (n / 16 / 16 / 16 % 16), hexDigit (n / 16 / 16 % 16),
      hexDigit (n / 16 % 16), hexDigit (n % 16)] := rfl
  have hsum : ((n / 16 / 16 / 16 % 16 * 16 + n / 16 / 16 % 16) * 16 + n / 16 % 16) * 16 + n % 16
      = n := by omega
  have hlt (k : Nat) : k % 16 < 16 := Nat.mod_lt k (by decide)
  simp [hdigits, hexUnit?, hexValue?_hexDigit (hlt _), hsum]

/-! ### One character -/

/-- What has a short escape is read back from it. -/
theorem escape?_of_shortEscape? {c e : Char} (h : shortEscape? c = some e) (rest : List Char) :
    escape? (e :: rest) = some (c, rest) := by
  unfold shortEscape? at h
  repeat' split at h
  all_goals cases h <;> subst_vars <;> rfl

/-- A control character is read back from its number. -/
theorem escape?_hex {c : Char} (h : c.toNat < 0x20) (rest : List Char) :
    escape? ('u' :: hex 4 c.toNat ++ rest) = some (c, rest) := by
  have hunit := hexUnit?_hex (show c.toNat < 0x10000 by omega) rest
  have hhigh : ¬ (0xD800 ≤ c.toNat ∧ c.toNat ≤ 0xDBFF) := by omega
  have hlow : ¬ (0xDC00 ≤ c.toNat ∧ c.toNat ≤ 0xDFFF) := by omega
  rw [List.cons_append, escape?]
  simp [hunit, hhigh, hlow, Char.ofNat_toNat]

/-- What has no short escape is neither a quotation mark nor a backslash. -/
theorem ne_of_shortEscape?_eq_none {c : Char} (h : shortEscape? c = none) :
    c ≠ '"' ∧ c ≠ '\\' := by
  constructor
  · rintro rfl
    exact absurd h (by decide)
  · rintro rfl
    exact absurd h (by decide)

/-- One written character is read as one character. -/
theorem readString_stringChar (c : Char) (fuel : Nat) (read rest : List Char) :
    readString (fuel + 1) read (stringChar c ++ rest) = readString fuel (c :: read) rest := by
  cases hshort : shortEscape? c with
  | some e =>
    have hread := escape?_of_shortEscape? hshort rest
    simp [stringChar, hshort, readString, hread]
  | none =>
    obtain ⟨hquote, hback⟩ := ne_of_shortEscape?_eq_none hshort
    by_cases hcontrol : c.toNat < 0x20
    · have hread := escape?_hex hcontrol rest
      simp only [List.cons_append] at hread
      simp [stringChar, hshort, hcontrol, readString, hread]
    · simp [stringChar, hshort, hcontrol, readString, hquote, hback]

/-! ### Whole strings -/

theorem length_le_length_flatMap_stringChar (cs : List Char) :
    cs.length ≤ (cs.flatMap stringChar).length := by
  induction cs with
  | nil => simp
  | cons c cs ih =>
    have hpos : 0 < (stringChar c).length := by
      unfold stringChar
      split
      · simp
      · split <;> simp
    simp only [List.flatMap_cons, List.length_append, List.length_cons]
    omega

/-- A written string is read to its closing mark, with a unit of fuel for each character. -/
theorem readString_flatMap (cs rest : List Char) : ∀ (fuel : Nat) (read : List Char),
    cs.length < fuel →
      readString fuel read (cs.flatMap stringChar ++ '"' :: rest) =
        .ok (String.ofList (read.reverse ++ cs), rest) := by
  induction cs with
  | nil =>
    intro fuel read hfuel
    obtain ⟨fuel, rfl⟩ : ∃ k, fuel = k + 1 := ⟨fuel - 1, by simp at hfuel; omega⟩
    simp [readString]
  | cons c cs ih =>
    intro fuel read hfuel
    obtain ⟨fuel, rfl⟩ : ∃ k, fuel = k + 1 := ⟨fuel - 1, by simp at hfuel; omega⟩
    rw [List.flatMap_cons, List.append_assoc, readString_stringChar]
    have hrest : cs.length < fuel := by simpa using hfuel
    simp [ih fuel (c :: read) hrest]

/-- A written string after its opening mark, with the fuel that a value gives it. -/
theorem readString_stringChars (s : String) (rest : List Char) :
    readString ((s.toList.flatMap stringChar ++ '"' :: rest).length + 1) []
      (s.toList.flatMap stringChar ++ '"' :: rest) = .ok (s, rest) := by
  have hlen := length_le_length_flatMap_stringChar s.toList
  rw [readString_flatMap s.toList rest _ [] (by simp only [List.length_append]; omega)]
  simp

end ClassOrder.Json
