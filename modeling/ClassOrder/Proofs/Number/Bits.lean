import ClassOrder.Number.Decimal
import Mathlib

/-!
# The bits of a double

The size that `magnitude` reads off the bits agrees with what the arithmetic of doubles calls
infinite or not a number.  Such a double is one of three, since its bits leave no choice.

## Main results

* `isNaN_eq`, `isInf_eq`, `isFinite_eq` — the three tests, told by the size.
* `eq_of_nan`, `eq_of_infinite` — the doubles without a decimal form.
-/

namespace ClassOrder.Number

open Float.Model.UnpackedFloat (unpack unpackExponent unpackMantissa)

/-- The sixty-four bits of a double tell it from every other. -/
theorem eq_of_toBits_eq {x y : Float} (h : x.toBits = y.toBits) : x = y := by
  obtain ⟨⟨bits, hbits⟩⟩ := x
  obtain ⟨⟨bits', hbits'⟩⟩ := y
  obtain rfl : bits = bits' := h
  rfl

/-! ### The two parts of the bits -/

theorem exponent_toNat (b : BitVec 64) :
    (@unpackExponent .binary64 b).toNat = b.toNat / 2 ^ 52 % 2048 := by
  simp [unpackExponent, BitVec.extractLsb, Nat.shiftRight_eq_div_pow]

theorem mantissa_toNat (b : BitVec 64) :
    (@unpackMantissa .binary64 b).toNat = b.toNat % 2 ^ 52 := by
  simp [unpackMantissa, BitVec.extractLsb]

variable (x : Float)

theorem exponent_eq_top_iff :
    @unpackExponent .binary64 x.toBits.toBitVec = -1#_ ↔
      x.toBits.toNat / 2 ^ 52 % 2048 = 2047 := by
  rw [← BitVec.toNat_inj, exponent_toNat, UInt64.toNat_toBitVec]
  rfl

theorem exponent_eq_zero_iff :
    @unpackExponent .binary64 x.toBits.toBitVec = 0#_ ↔ x.toBits.toNat / 2 ^ 52 % 2048 = 0 := by
  rw [← BitVec.toNat_inj, exponent_toNat, UInt64.toNat_toBitVec]
  rfl

theorem mantissa_eq_zero_iff :
    @unpackMantissa .binary64 x.toBits.toBitVec = 0#_ ↔ x.toBits.toNat % 2 ^ 52 = 0 := by
  rw [← BitVec.toNat_inj, mantissa_toNat, UInt64.toNat_toBitVec]
  rfl

/-! ### Infinities and the double that is no number -/

theorem isNaN_eq : x.isNaN = decide ((magnitude x).2 = .nan) := by
  show (unpack .binary64 x.toBits.toBitVec).isNaN = _
  have htop := exponent_eq_top_iff x
  have hzero := exponent_eq_zero_iff x
  have hmantissa := mantissa_eq_zero_iff x
  simp only [unpack, magnitude, htop, hzero, hmantissa, Nat.pow_eq]
  split_ifs <;> rfl

theorem isInf_eq : x.isInf = decide ((magnitude x).2 = .infinite) := by
  show (unpack .binary64 x.toBits.toBitVec).isInf = _
  have htop := exponent_eq_top_iff x
  have hzero := exponent_eq_zero_iff x
  have hmantissa := mantissa_eq_zero_iff x
  simp only [unpack, magnitude, htop, hzero, hmantissa, Nat.pow_eq]
  split_ifs <;> rfl

theorem isFinite_eq : x.isFinite = (!x.isNaN && !x.isInf) := by
  show (unpack .binary64 x.toBits.toBitVec).isFinite = (!(unpack .binary64 x.toBits.toBitVec).isNaN
    && !(unpack .binary64 x.toBits.toBitVec).isInf)
  cases unpack .binary64 x.toBits.toBitVec <;> rfl

variable {x}

/-- There is one double that is no number. -/
theorem eq_of_nan (h : (magnitude x).2 = .nan) : x = 0.0 / 0.0 := by
  have htop : x.toBits.toNat / 2 ^ 52 % 2048 = 2047 ∧ x.toBits.toNat % 2 ^ 52 ≠ 0 := by
    simp only [magnitude, Nat.pow_eq] at h
    split_ifs at h with h1 h2
    exact ⟨h1, h2⟩
  have hbits := x.toModel.valid.eq_packedNaN ((exponent_eq_top_iff x).mpr htop.1)
    (mt (mantissa_eq_zero_iff x).mp htop.2)
  refine eq_of_toBits_eq (UInt64.toBitVec_inj.mp ?_)
  exact hbits.trans (by decide)

/-- There is one infinity of either sign. -/
theorem eq_of_infinite {negative : Bool} (h : magnitude x = (negative, .infinite)) :
    x = if negative then -1.0 / 0.0 else 1.0 / 0.0 := by
  have hbits : x.toBits.toNat / 2 ^ 52 % 2048 = 2047 ∧ x.toBits.toNat % 2 ^ 52 = 0 ∧
      decide (x.toBits.toNat / 2 ^ 63 = 1) = negative := by
    simp only [magnitude, Nat.pow_eq, Prod.mk.injEq] at h
    obtain ⟨hsign, hsize⟩ := h
    split_ifs at hsize with h1 h2
    exact ⟨h1, h2, hsign⟩
  have hlt := x.toBits.toNat_lt
  refine eq_of_toBits_eq (UInt64.toNat_inj.mp ?_)
  cases negative with
  | true =>
    have hsign : x.toBits.toNat / 2 ^ 63 = 1 := by simpa using hbits.2.2
    have : x.toBits.toNat = 0xFFF0000000000000 := by omega
    rw [this]
    decide
  | false =>
    have hsign : x.toBits.toNat / 2 ^ 63 ≠ 1 := by simpa using hbits.2.2
    have : x.toBits.toNat = 0x7FF0000000000000 := by omega
    rw [this]
    decide

end ClassOrder.Number
