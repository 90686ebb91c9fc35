import ClassOrder.Proofs.Number.Written

/-!
# The full form of a double

The full form of a double that is zero or finite is the text of a written decimal.  Where a
setting reads the double itself back from it, the decimal is one that the grammar of JSON allows:
no zero leads its digits needlessly, and a point or an exponent is there.

## Main definitions

* `Written.IsJson` — the decimals that JSON reads as doubles.
* `IsShape` — the texts of decimals with given digits.

## Main results

* `isShape_positional`, `isShape_scientific` — the two shapes as written decimals.
* `exists_written_finite`, `exists_written_zero` — the full form as a written decimal.
* `exists_isJson_full` — one that JSON reads, if the double reads back.
-/

namespace ClassOrder.Number

open ClassOrder.Text

/-- The decimals that JSON reads as doubles. -/
structure Written.IsJson (w : Written) : Prop where
  /-- A zero alone leads, or digits that start with another. -/
  whole : w.whole = ['0'] ∨ ∃ c cs, w.whole = c :: cs ∧ c ≠ '0'
  /-- A point has digits after it. -/
  fraction : ∀ ds ∈ w.fraction, ds ≠ []
  /-- A number without a point and an exponent would be a whole number. -/
  marked : w.fraction.isSome ∨ w.exponent.isSome

/-! ### Digits without the zeros at their end -/

theorem mem_of_mem_dropZeros {cs : List Char} {c : Char} (h : c ∈ dropZeros cs) : c ∈ cs := by
  rw [dropZeros, List.mem_reverse] at h
  exact List.mem_reverse.mp ((List.dropWhile_sublist _).mem h)

theorem dropZeros_cons {c : Char} (hc : c ≠ '0') (cs : List Char) :
    ∃ ds, dropZeros (c :: cs) = c :: ds := by
  rw [dropZeros, List.reverse_cons, List.dropWhile_append]
  split
  · exact ⟨[], by simp [hc]⟩
  · exact ⟨(cs.reverse.dropWhile (· == '0')).reverse, by simp⟩

theorem asciiNumeral_replicate_zero (n : Nat) : asciiNumeral (List.replicate n '0') = 0 := by
  rw [asciiNumeral_eq, Nat.ofDigitChars_replicate_zero, Nat.mul_zero]

/-! ### The two shapes -/

section Shapes

variable (cs : List Char) (hcs : ∀ c ∈ cs, isAsciiDigit c = true)

theorem isAsciiDigit_of_mem_replicate {n : Nat} {c : Char} (h : c ∈ List.replicate n '0') :
    isAsciiDigit c = true := by
  rw [List.eq_of_mem_replicate h]
  decide

theorem isAsciiDigit_of_mem_zero {c : Char} (h : c ∈ ['0']) : isAsciiDigit c = true :=
  isAsciiDigit_of_mem_replicate (n := 1) h

/-- The text of a decimal made of the given digits: it writes a zero if there is none, and JSON
reads it if they start with another digit than a zero. -/
def IsShape (cs text : List Char) : Prop :=
  ∃ w : Written, w.text = text ∧ (cs = [] → asciiNumeral w.digits = 0) ∧
    ((∃ c ds, cs = c :: ds ∧ c ≠ '0') → w.IsJson)

include hcs in
/-- All digits stand after the point. -/
theorem isShape_positional_before {point : Int} (hpoint : point ≤ 0) :
    IsShape cs (positional cs point true) := by
  let zeros := List.replicate (-point).toNat '0'
  have hdigit : ∀ c ∈ zeros ++ cs, isAsciiDigit c = true :=
    List.forall_mem_append.mpr ⟨fun _ => isAsciiDigit_of_mem_replicate, hcs⟩
  refine ⟨⟨['0'], some (zeros ++ cs), none, fun _ => isAsciiDigit_of_mem_zero,
    by simpa using hdigit, by simp, by simp⟩, ?_, ?_, ?_⟩
  · simp [Written.text, Written.fractionChars, Written.exponentChars, positional, hpoint, zeros]
  · rintro rfl
    have hzeros : ['0'] ++ zeros = List.replicate (1 + (-point).toNat) '0' := by
      rw [Nat.add_comm, List.replicate_succ]
      rfl
    simp [Written.digits, hzeros, asciiNumeral_replicate_zero]
  · rintro ⟨c, ds, rfl, hc⟩
    exact ⟨.inl rfl, by simp, .inl rfl⟩

include hcs in
/-- The point stands among the digits. -/
theorem isShape_positional_inside {point : Int} (hpoint : ¬ point ≤ 0)
    (hinside : point.toNat < cs.length) : IsShape cs (positional cs point true) := by
  refine ⟨⟨cs.take point.toNat, some (cs.drop point.toNat), none,
    fun c hc => hcs c (List.mem_of_mem_take hc), ?_, by simp, by simp⟩, ?_, ?_, ?_⟩
  · intro ds hds c hc
    obtain rfl : cs.drop point.toNat = ds := by simpa using hds
    exact hcs c (List.mem_of_mem_drop hc)
  · simp [Written.text, Written.fractionChars, Written.exponentChars, positional, hpoint, hinside]
  · rintro rfl
    simp at hinside
  · rintro ⟨c, ds, rfl, hc⟩
    refine ⟨.inr ⟨c, ds.take (point.toNat - 1), ?_, hc⟩, ?_, .inl rfl⟩
    · obtain ⟨k, hk⟩ : ∃ k, point.toNat = k + 1 := ⟨point.toNat - 1, by omega⟩
      simp [hk]
    · intro fs hfs
      obtain rfl : (c :: ds).drop point.toNat = fs := by simpa using hfs
      simpa using hinside

include hcs in
/-- Zeros fill the digits up to the point. -/
theorem isShape_positional_after {point : Int} (hpoint : ¬ point ≤ 0)
    (hinside : ¬ point.toNat < cs.length) : IsShape cs (positional cs point true) := by
  let zeros := List.replicate (point.toNat - cs.length) '0'
  have hdigit : ∀ c ∈ cs ++ zeros, isAsciiDigit c = true :=
    List.forall_mem_append.mpr ⟨hcs, fun _ => isAsciiDigit_of_mem_replicate⟩
  refine ⟨⟨cs ++ zeros, some ['0'], none, hdigit, by simp; decide, by simp, by simp⟩, ?_, ?_, ?_⟩
  · simp [Written.text, Written.fractionChars, Written.exponentChars, positional, hpoint,
      hinside, zeros]
  · rintro rfl
    have hzeros : zeros ++ ['0'] = List.replicate (point.toNat + 1) '0' := by
      simp [zeros, List.replicate_succ']
    simp [Written.digits, hzeros, asciiNumeral_replicate_zero]
  · rintro ⟨c, ds, rfl, hc⟩
    exact ⟨.inr ⟨c, ds ++ zeros, rfl, hc⟩, by simp, .inl rfl⟩

include hcs in
/-- The positional shape is a written decimal without an exponent. -/
theorem isShape_positional (point : Int) : IsShape cs (positional cs point true) := by
  by_cases hpoint : point ≤ 0
  · exact isShape_positional_before cs hcs hpoint
  by_cases hinside : point.toNat < cs.length
  · exact isShape_positional_inside cs hcs hpoint hinside
  · exact isShape_positional_after cs hcs hpoint hinside

include hcs in
/-- The scientific shape is a written decimal with an exponent. -/
theorem isShape_scientific (exponent : Int) : IsShape cs (scientific cs exponent) := by
  -- the exponent has two digits at least
  let tail := digits exponent.natAbs
  let padded := if tail.length < 2 then '0' :: tail else tail
  have htail : ∀ c ∈ tail, isAsciiDigit c = true := fun _ => isAsciiDigit_of_mem_digits
  have hpadded : ∀ c ∈ padded, isAsciiDigit c = true := by
    simp only [padded]
    split
    · exact List.forall_mem_cons.mpr ⟨by decide, htail⟩
    · exact htail
  have hne : padded ≠ [] := by
    simp only [padded]
    split
    · simp
    · exact digits_ne_nil _
  refine ⟨⟨cs.take 1, if cs.length > 1 then some (cs.drop 1) else none,
    some (decide (exponent < 0), padded), fun c hc => hcs c (List.mem_of_mem_take hc), ?_,
    by simpa using hpadded, by simpa using hne⟩, ?_, ?_, ?_⟩
  · intro ds hds c hc
    split at hds
    · obtain rfl : cs.drop 1 = ds := by simpa using hds
      exact hcs c (List.mem_of_mem_drop hc)
    · simp at hds
  · simp only [Written.text, Written.exponentChars, scientific, decide_eq_true_eq]
    split <;> simp [Written.fractionChars, padded, tail]
  · rintro rfl
    rfl
  · rintro ⟨c, ds, rfl, hc⟩
    refine ⟨.inr ⟨c, [], rfl, hc⟩, ?_, .inr rfl⟩
    intro fs hfs
    dsimp only at hfs
    split at hfs
    · next hlong =>
      obtain rfl : ds = fs := by simpa using hfs
      rintro rfl
      simp at hlong
    · simp at hfs

end Shapes

/-! ### The full form -/

/-- The full form of a finite double is a written decimal, which JSON reads unless all its digits
are zeros. -/
theorem exists_written_finite {x : Float} {negative : Bool} {b : Binary}
    (h : magnitude x = (negative, .finite b)) :
    ∃ w : Written, full x = String.ofList (signChars negative ++ w.text) ∧
      (asciiNumeral w.digits = 0 ∨ w.IsJson) := by
  let d := b.shortest
  let cs := dropZeros (digits d.digits)
  let exponent : Int := d.scale + (digits d.digits).length - 1
  have hdigit : ∀ c ∈ cs, isAsciiDigit c = true := fun c hc =>
    isAsciiDigit_of_mem_digits (mem_of_mem_dropZeros hc)
  -- the digits are none at all, or they start with one that is no zero
  have hlead : cs = [] ∨ ∃ c ds, cs = c :: ds ∧ c ≠ '0' := by
    by_cases hzero : d.digits = 0
    · left
      simp only [cs, hzero]
      rfl
    · right
      obtain ⟨c, ds, heq, hc⟩ := digits_eq_cons hzero
      obtain ⟨es, hes⟩ := dropZeros_cons hc ds
      exact ⟨c, es, by simp only [cs, heq, hes], hc⟩
  have hsign (text : List Char) : (if negative then "-" else "") ++ String.ofList text =
      String.ofList (signChars negative ++ text) := by
    cases negative <;> simp [signChars]
  have hfull : full x = String.ofList (signChars negative ++
      if -4 ≤ exponent ∧ exponent ≤ 15 then positional cs (exponent + 1) true
      else scientific cs exponent) := by
    rw [← hsign, full, Style.write, h]
  by_cases hrange : -4 ≤ exponent ∧ exponent ≤ 15
  · obtain ⟨w, htext, hzero, hjson⟩ := isShape_positional cs hdigit (exponent + 1)
    exact ⟨w, by rw [hfull, if_pos hrange, htext], hlead.imp hzero hjson⟩
  · obtain ⟨w, htext, hzero, hjson⟩ := isShape_scientific cs hdigit exponent
    exact ⟨w, by rw [hfull, if_neg hrange, htext], hlead.imp hzero hjson⟩

/-- The full form of a zero. -/
theorem exists_written_zero {x : Float} {negative : Bool} (h : magnitude x = (negative, .zero)) :
    ∃ w : Written, full x = String.ofList (signChars negative ++ w.text) ∧ w.IsJson := by
  have hfraction : ∀ ds ∈ some ['0'], ∀ c ∈ ds, isAsciiDigit c = true := by
    intro ds hds c hc
    cases hds
    exact isAsciiDigit_of_mem_zero hc
  refine ⟨⟨['0'], some ['0'], none, fun _ => isAsciiDigit_of_mem_zero, hfraction, by simp,
    by simp⟩, ?_, ⟨.inl rfl, by simp, .inl rfl⟩⟩
  rw [full, Style.write, h]
  cases negative <;> rfl

/-- A decimal with no digit but zeros is nearest to a zero. -/
theorem magnitude_ofDecimal_zero (negative : Bool) (scale : Int) :
    (magnitude (ofDecimal negative 0 scale)).2 = .zero := by
  have hzero : ofDecimal negative 0 scale = if negative then -0.0 else 0.0 := by
    simp only [ofDecimal, if_true]
  rw [hzero]
  cases negative <;> decide

/-- **A double that its full form reads back to is written as JSON reads doubles.** -/
theorem exists_isJson_full {x : Float} {negative : Bool} {size : Magnitude}
    (hx : magnitude x = (negative, size)) (hinf : size ≠ .infinite) (hnan : size ≠ .nan)
    (hback : double? (full x) = some x) :
    ∃ w : Written, full x = String.ofList (signChars negative ++ w.text) ∧ w.IsJson ∧
      x = w.value negative := by
  have hvalue (w : Written) (hfull : full x = String.ofList (signChars negative ++ w.text)) :
      x = w.value negative := by
    rw [hfull, double?_text] at hback
    split at hback
    · cases hback
    · exact (Option.some.inj hback).symm
  cases size with
  | zero =>
    obtain ⟨w, hfull, hjson⟩ := exists_written_zero hx
    exact ⟨w, hfull, hjson, hvalue w hfull⟩
  | finite b =>
    obtain ⟨w, hfull, hzero | hjson⟩ := exists_written_finite hx
    · -- the digits would write a zero, which a finite double is not
      have hsize := magnitude_ofDecimal_zero negative w.scale
      rw [← hzero, ← Written.value, ← hvalue w hfull, hx] at hsize
      cases hsize
    · exact ⟨w, hfull, hjson, hvalue w hfull⟩
  | infinite => exact absurd rfl hinf
  | nan => exact absurd rfl hnan

end ClassOrder.Number
