import ClassOrder.Proofs.Number.Whole

/-!
# Doubles compared with whole numbers

A double is a rational number, an infinity or no number.  A whole number is compared with it in
exact arithmetic: with a rational number the way rational numbers are, and with an infinity by its
sign.  With the double that is no number it cannot be compared at all.

## Main results

* `kinds` — every double is of one of these kinds.
* `compareWhole?_of_rational` — **comparing a whole number with a double compares it with the
  rational number that the double is.**
* `compareWhole?_eq_none_iff` — there is one double that nothing can be compared with.
-/

namespace ClassOrder.Number

variable {x : Float} {q : ℚ}

/-- Every double is a rational number, one of two infinities, or no number. -/
theorem kinds (x : Float) :
    (∃ q, rational? x = some q) ∨ x = 1.0 / 0.0 ∨ x = -1.0 / 0.0 ∨ x = 0.0 / 0.0 := by
  rcases hsize : magnitude x with ⟨negative, size⟩
  cases size with
  | zero => exact .inl ⟨0, by rw [rational?_eq, hsize]; rfl⟩
  | finite b => exact .inl ⟨_, by rw [rational?_eq, hsize]; rfl⟩
  | infinite =>
    have heq := eq_of_infinite hsize
    cases negative with
    | true => exact .inr (.inr (.inl heq))
    | false => exact .inr (.inl heq)
  | nan => exact .inr (.inr (.inr (eq_of_nan (congrArg Prod.snd hsize))))

/-! ### Rational numbers -/

/-- Multiplying both sides by a positive number does not change how they compare. -/
theorem compare_eq_of_scaled {m n : ℤ} {p q c : ℚ} (hc : 0 < c) (hm : (m : ℚ) = p * c)
    (hn : (n : ℚ) = q * c) : compare m n = compare p q := by
  rcases lt_trichotomy p q with hlt | rfl | hgt
  · have hscaled : (m : ℚ) < n := by rw [hm, hn]; gcongr
    rw [compare_lt_iff_lt.mpr hlt, compare_lt_iff_lt.mpr (by exact_mod_cast hscaled)]
  · have hscaled : (m : ℚ) = n := by rw [hm, hn]
    rw [compare_eq_iff_eq.mpr rfl, compare_eq_iff_eq.mpr (by exact_mod_cast hscaled)]
  · have hscaled : (n : ℚ) < m := by rw [hm, hn]; gcongr
    rw [compare_gt_iff_gt.mpr hgt, compare_gt_iff_gt.mpr (by exact_mod_cast hscaled)]

/-- The two powers that stand for a power of two on the two sides of a comparison. -/
theorem powUp_two (e : ℤ) : (powUp 2 e : ℚ) = (2 : ℚ) ^ e * powUp 2 (-e) := by
  rcases le_total 0 e with hup | hdown
  · obtain ⟨k, rfl⟩ := Int.eq_ofNat_of_zero_le hup
    simp [powUp]
  · obtain ⟨k, hk⟩ := Int.eq_ofNat_of_zero_le (show 0 ≤ -e by omega)
    obtain rfl : e = -(k : ℤ) := by omega
    simp [powUp]

/-- **Comparing a whole number with a double compares it with the rational number that the double
is.** -/
theorem compareWhole?_of_rational (hx : rational? x = some q) (n : ℤ) :
    compareWhole? n x = some (compare (n : ℚ) q) := by
  rw [rational?_eq] at hx
  rw [compareWhole?]
  rcases hsize : magnitude x with ⟨negative, size⟩
  rw [hsize] at hx
  cases size with
  | zero =>
    obtain rfl : (0 : ℚ) = q := by simpa [Magnitude.rational?] using hx
    exact congrArg some (compare_eq_of_scaled one_pos (by simp) (by simp))
  | finite b =>
    obtain rfl : signed negative b.mantissa * (2 : ℚ) ^ b.exponent = q := by
      simpa [Magnitude.rational?] using hx
    have hpos : (0 : ℚ) < powUp 2 (-b.exponent) := by simp [powUp]
    refine congrArg some (compare_eq_of_scaled hpos (by push_cast; rfl) ?_)
    rw [mul_assoc, ← powUp_two]
    cases negative <;> simp [signed]
  | infinite => cases hx
  | nan => cases hx

/-! ### The other doubles -/

/-- There is one double that nothing can be compared with. -/
theorem compareWhole?_eq_none_iff (n : ℤ) : compareWhole? n x = none ↔ x = 0.0 / 0.0 := by
  constructor
  · intro h
    rcases kinds x with ⟨q, hq⟩ | rfl | rfl | rfl
    · rw [compareWhole?_of_rational hq] at h
      cases h
    · cases h
    · cases h
    · rfl
  · rintro rfl
    rfl

end ClassOrder.Number
