import ClassOrder.Proofs.Number.Written
import Mathlib.Data.List.Forall2
import Mathlib.Data.List.Induction
import Mathlib.Data.List.Pairwise
import Mathlib.Data.Nat.Digits.Defs

/-!
# Digits of any script

A digit stands as many places behind the zero of its script as its value says.  No two scripts
overlap, so a character is a digit in one way at most, and a run of digits writes one number.

## Main definitions

* `Denotes`, `IsDecimal` — a character is a digit, with a value or with some value.
* `Writes` — a run of digits writes a number in base ten.

## Main results

* `digitValue?_eq_some_iff`, `digitValue?_eq_none_iff` — the value that is found is the one that a
  digit has.
* `writes_numeral`, `writes_digits`, `Writes.unique` — what a run of digits writes.
-/

namespace ClassOrder.Text

variable {c : Char} {cs : List Char} {d d' n n' z z' : ℕ} {ds ds' : List ℕ}

/-- The character is the digit `d` in some script. -/
def Denotes (c : Char) (d : ℕ) : Prop := d < 10 ∧ ∃ z ∈ zeros, c.toNat = z + d

/-- The character is a digit in some script. -/
def IsDecimal (c : Char) : Prop := ∃ d, Denotes c d

/-- A run of digits writes a number in base ten, the most significant first. -/
def Writes (cs : List Char) (n : ℕ) : Prop :=
  ∃ ds, List.Forall₂ Denotes cs ds ∧ Nat.ofDigits 10 ds.reverse = n

/-! ### One digit -/

theorem zeros_apart : zeros.Pairwise fun z z' => z + 10 ≤ z' := by decide +kernel

/-- A number is among the digits of one script at most. -/
theorem zero_unique (hz : z ∈ zeros) (hz' : z' ∈ zeros) (h : z ≤ n ∧ n < z + 10)
    (h' : z' ≤ n ∧ n < z' + 10) : z = z' := by
  by_contra hne
  have hsymm : Std.Symm fun z z' : ℕ => z + 10 ≤ z' ∨ z' + 10 ≤ z := ⟨fun _ _ => Or.symm⟩
  have hapart : zeros.Pairwise fun z z' => z + 10 ≤ z' ∨ z' + 10 ≤ z :=
    zeros_apart.imp fun h => .inl h
  have := hapart.forall hz hz' hne
  omega

theorem digitValue?_eq_some_iff : digitValue? c = some d ↔ Denotes c d := by
  rw [digitValue?, Option.map_eq_some_iff, Denotes]
  constructor
  · rintro ⟨z, hfind, rfl⟩
    have hmem := List.mem_of_find?_eq_some hfind
    have hrange := List.find?_some hfind
    simp only [Bool.and_eq_true, decide_eq_true_eq] at hrange
    exact ⟨by omega, z, hmem, by omega⟩
  · rintro ⟨hd, z, hz, hc⟩
    have hsome : (zeros.find? fun z => z ≤ c.toNat && c.toNat < z + 10).isSome := by
      rw [List.find?_isSome]
      exact ⟨z, hz, by simp [hc, hd]⟩
    obtain ⟨z', hfind⟩ := Option.isSome_iff_exists.mp hsome
    have hrange := List.find?_some hfind
    simp only [Bool.and_eq_true, decide_eq_true_eq] at hrange
    obtain rfl := zero_unique hz (List.mem_of_find?_eq_some hfind) (by omega) hrange
    exact ⟨z, hfind, by omega⟩

theorem isDecimal_of_digitValue? (h : digitValue? c = some d) : IsDecimal c :=
  ⟨d, digitValue?_eq_some_iff.mp h⟩

theorem digitValue?_eq_none_iff : digitValue? c = none ↔ ¬ IsDecimal c := by
  simp only [IsDecimal, ← digitValue?_eq_some_iff, ← Option.isSome_iff_exists,
    Option.not_isSome_iff_eq_none]

instance : DecidableRel Denotes := fun _ _ => decidable_of_iff _ digitValue?_eq_some_iff

instance : DecidablePred IsDecimal := fun _ =>
  decidable_of_iff _ (not_iff_comm.mp digitValue?_eq_none_iff.symm)

theorem Denotes.unique (h : Denotes c d) (h' : Denotes c d') : d = d' := by
  rw [← digitValue?_eq_some_iff] at h h'
  rw [h, Option.some.injEq] at h'
  exact h'

theorem denotes_asciiDigitValue (h : isAsciiDigit c = true) : Denotes c (asciiDigitValue c) := by
  have hrange := (Number.isAsciiDigit_iff c).mp h
  have hvalue : asciiDigitValue c = c.toNat - 0x30 := rfl
  exact ⟨by omega, 0x30, List.mem_cons_self, by omega⟩

/-! ### A run of digits -/

theorem numeral_eq_ofDigits (ds : List ℕ) : numeral ds = Nat.ofDigits 10 ds.reverse := by
  induction ds using List.reverseRecOn with
  | nil => rfl
  | append_singleton ds d ih =>
    have hlast : numeral (ds ++ [d]) = 10 * numeral ds + d := by simp [numeral, numeralFrom]
    rw [hlast, ih, List.reverse_append, List.reverse_singleton, List.singleton_append,
      Nat.ofDigits_cons, add_comm]

theorem writes_numeral (h : List.Forall₂ Denotes cs ds) : Writes cs (numeral ds) :=
  ⟨ds, h, (numeral_eq_ofDigits ds).symm⟩

theorem Writes.unique (h : Writes cs n) (h' : Writes cs n') : n = n' := by
  obtain ⟨ds, hds, rfl⟩ := h
  obtain ⟨ds', hds', rfl⟩ := h'
  have hunique : Relator.RightUnique Denotes := fun c d d' => Denotes.unique
  rw [List.right_unique_forall₂' hunique hds hds']

/-- The digits of a number write it. -/
theorem writes_digits (n : ℕ) : Writes (Number.digits n) n := by
  have hdigits :
      List.Forall₂ Denotes (Number.digits n) ((Number.digits n).map asciiDigitValue) := by
    rw [List.forall₂_map_right_iff, List.forall₂_same]
    exact fun c hc => denotes_asciiDigitValue (Number.isAsciiDigit_of_mem_digits hc)
  have hwrites := writes_numeral hdigits
  rwa [← asciiNumeral, Number.asciiNumeral_digits] at hwrites

end ClassOrder.Text
