import ClassOrder.Number.Read
import ClassOrder.Proofs.Number.Bits

/-!
# Whole doubles

A double that is finite is a rational number, by the arithmetic of doubles a signed mantissa times
a power of two.  Reading a whole number from a double divides or multiplies the mantissa; what it
comes to is the rational number itself, for just the doubles of which that is whole.

## Main definitions

* `rational?` — the rational number that a double is.

## Main results

* `rational?_eq` — the same, told by the size of the double.
* `whole?_eq_some_iff`, `wholeValue?_eq_some_iff` — **which doubles are whole numbers, and which
  numbers they are.**
-/

namespace ClassOrder.Number

open Float.Model.UnpackedFloat (unpack unpackExponent unpackMantissa unpackSign Sign)

/-- The rational number that a double is; none if it is infinite or no number. -/
def rational? (x : Float) : Option ℚ :=
  match unpack .binary64 x.toBits.toBitVec with
  | .zero _ => some 0
  | .finite sign mantissa exponent _ => some (sign.apply mantissa * (2 : ℚ) ^ exponent)
  | .infinity _ | .notANumber => none

/-- The rational number of a sign and a size. -/
def Magnitude.rational? (negative : Bool) : Magnitude → Option ℚ
  | .zero => some 0
  | .finite b => some (signed negative b.mantissa * (2 : ℚ) ^ b.exponent)
  | .infinite | .nan => none

/-! ### The parts of a double -/

/-- The bit before the mantissa that is not written. -/
theorem implicit_toNat {n : ℕ} (m : BitVec n) : (1#1 ++ m).toNat = 2 ^ n + m.toNat := by
  rw [BitVec.toNat_append, ← Nat.shiftLeft_add_eq_or_of_lt m.isLt]
  simp [Nat.shiftLeft_eq]

theorem sign_apply (b : BitVec 64) (n : ℕ) :
    (Sign.ofBitVec (@unpackSign .binary64 b)).apply n =
      signed (decide (b.toNat / 2 ^ 63 = 1)) n := by
  have hlt := b.isLt
  have hsign : (@unpackSign .binary64 b).toNat = b.toNat / 2 ^ 63 := by
    simp [unpackSign, BitVec.extractLsb, Nat.shiftRight_eq_div_pow]
    omega
  have hbit := (@unpackSign .binary64 b).isLt
  by_cases hzero : @unpackSign .binary64 b = 0#1
  · have hpositive : ¬ b.toNat / 2 ^ 63 = 1 := by rw [← hsign, hzero]; decide
    rw [Sign.ofBitVec, if_pos hzero, decide_eq_false hpositive]
    rfl
  · have hne : (@unpackSign .binary64 b).toNat ≠ 0 := fun h => hzero (BitVec.eq_of_toNat_eq h)
    have hnegative : b.toNat / 2 ^ 63 = 1 := by omega
    rw [Sign.ofBitVec, if_neg hzero, decide_eq_true hnegative]
    rfl

/-- **The rational number of a double, told by its size.** -/
theorem rational?_eq (x : Float) :
    rational? x = (magnitude x).2.rational? (magnitude x).1 := by
  have htop := exponent_eq_top_iff x
  have hzero := exponent_eq_zero_iff x
  have hmantissa := mantissa_eq_zero_iff x
  have hexponent := exponent_toNat x.toBits.toBitVec
  have hfraction := mantissa_toNat x.toBits.toBitVec
  rw [UInt64.toNat_toBitVec] at hexponent hfraction
  simp only [rational?, unpack, magnitude, htop, hzero, hmantissa, Nat.pow_eq]
  split_ifs with h1 h2 h3 h4
  · rfl
  · rfl
  · rfl
  · simp only [Magnitude.rational?, sign_apply, hfraction, hexponent, UInt64.toNat_toBitVec, h3]
    rfl
  · simp only [Magnitude.rational?, sign_apply, implicit_toNat, hfraction, hexponent,
      UInt64.toNat_toBitVec]
    rfl

/-! ### Whole numbers -/

/-- **Which finite doubles are whole.** -/
theorem whole?_eq_some_iff (b : Binary) (n : ℕ) :
    b.whole? = some n ↔ (b.mantissa : ℚ) * (2 : ℚ) ^ b.exponent = n := by
  rw [Binary.whole?]
  rcases le_or_gt 0 b.exponent with hup | hdown
  · -- the mantissa is multiplied, and what comes out is whole
    obtain ⟨e, he⟩ := Int.eq_ofNat_of_zero_le hup
    have hstep : powUp 2 (-b.exponent) = 1 := by simp [powUp, he]
    have hscale : powUp 2 b.exponent = 2 ^ e := by simp [powUp, he]
    rw [hstep, hscale, Nat.mod_one, if_pos rfl, Nat.div_one, Option.some_inj, he, zpow_natCast]
    exact_mod_cast Iff.rfl
  · obtain ⟨e, he⟩ := Int.eq_ofNat_of_zero_le (show 0 ≤ -b.exponent by omega)
    have hstep : powUp 2 (-b.exponent) = 2 ^ e := by simp [powUp, he]
    have hscale : powUp 2 b.exponent = 1 := by simp [powUp, Int.toNat_of_nonpos hdown.le]
    have hexponent : b.exponent = -(e : ℤ) := by omega
    have hpos : (0 : ℚ) < 2 ^ e := by positivity
    simp only [hstep, hscale, Nat.mul_one]
    rw [hexponent, zpow_neg, zpow_natCast, mul_inv_eq_iff_eq_mul₀ hpos.ne']
    constructor
    · intro h
      split at h
      · next hdvd =>
        cases h
        exact_mod_cast (Nat.div_mul_cancel (Nat.dvd_of_mod_eq_zero hdvd)).symm
      · cases h
    · intro h
      have hmantissa : b.mantissa = n * 2 ^ e := by exact_mod_cast h
      rw [hmantissa, Nat.mul_mod_left, if_pos rfl, Nat.mul_div_cancel _ (by positivity)]

theorem signed_mul_eq_iff (negative : Bool) (b : Binary) (n : ℤ) :
    signed negative b.mantissa * (2 : ℚ) ^ b.exponent = n ↔
      ∃ k : ℕ, (b.mantissa : ℚ) * (2 : ℚ) ^ b.exponent = k ∧ signed negative k = n := by
  have hnonneg : 0 ≤ (b.mantissa : ℚ) * (2 : ℚ) ^ b.exponent := by positivity
  constructor
  · intro h
    cases negative with
    | false =>
      have hvalue : (b.mantissa : ℚ) * (2 : ℚ) ^ b.exponent = n := by simpa [signed] using h
      have hn : 0 ≤ n := by exact_mod_cast hvalue ▸ hnonneg
      obtain ⟨k, rfl⟩ := Int.eq_ofNat_of_zero_le hn
      exact ⟨k, by exact_mod_cast hvalue, rfl⟩
    | true =>
      have hvalue : (b.mantissa : ℚ) * (2 : ℚ) ^ b.exponent = -n := by
        rw [← h]
        simp [signed]
      have hn : 0 ≤ -n := by exact_mod_cast hvalue ▸ hnonneg
      obtain ⟨k, hk⟩ := Int.eq_ofNat_of_zero_le hn
      refine ⟨k, by rw [hvalue]; exact_mod_cast hk, ?_⟩
      simp only [signed, if_true]
      omega
  · rintro ⟨k, hk, rfl⟩
    cases negative with
    | false => simpa [signed] using hk
    | true => simpa [signed] using hk

/-- **Which doubles are whole numbers, and which numbers they are.** -/
theorem wholeValue?_eq_some_iff (x : Float) (n : ℤ) :
    wholeValue? x = some n ↔ rational? x = some (n : ℚ) := by
  rw [rational?_eq, wholeValue?]
  obtain ⟨negative, size⟩ := magnitude x
  cases size with
  | zero => simp [Magnitude.rational?, eq_comm]
  | infinite => simp [Magnitude.rational?]
  | nan => simp [Magnitude.rational?]
  | finite b =>
    simp only [Magnitude.rational?, Option.some_inj, signed_mul_eq_iff, ← whole?_eq_some_iff]
    cases hwhole : b.whole? with
    | none => simp
    | some k => simp [signed]

end ClassOrder.Number
