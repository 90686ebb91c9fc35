import ClassOrder.Proofs.Number.Grouped
import ClassOrder.Proofs.Number.Written

/-!
# The strict form of whole numbers

A text in the loose form is cut down to the strict form: a minus sign or none, then a zero alone or
digits that start with another.  The last two steps take away a point with zeros after it, and the
underscores.  What a text was before them is read off the form it has after them, from the end of
the text to its start.

## Main definitions

* `IsCore`, `IsZeroFraction` — the digits of a number, and the zeros behind them.
* `IsRest` — the texts that the last two steps bring to the strict form.

## Main results

* `strictInteger?_eq_some_iff` — **reading the strict form follows its grammar.**
* `singleUnderscores_cases`, `exists_zeroFraction` — what the last steps take away.
* `isRest_iff` — the strict form after the last steps.
-/

namespace ClassOrder.Number

open ClassOrder.Text

/-- The digits with the underscores among them, and the digits alone: a zero, or grouped digits that
start with another. -/
inductive IsCore : List Char → List Char → Prop where
  | zero : IsCore ['0'] ['0']
  | grouped {text digits : List Char} (h : Grouped text digits) (hhead : digits.head? ≠ some '0') :
      IsCore text digits

/-- A point with zeros after it, or nothing. -/
def IsZeroFraction (fraction : List Char) : Prop :=
  fraction = [] ∨ ∃ count, fraction = '.' :: List.replicate (count + 1) '0'

/-! ### The core -/

namespace IsCore

variable {core digits : List Char}

theorem toGrouped (h : IsCore core digits) : Grouped core digits := by
  cases h with
  | zero => exact .last rfl
  | grouped h hhead => exact h

/-- Nothing that leads a core but its first digit is read away. -/
theorem cases_head (h : IsCore core digits) :
    core = ['0'] ∨ ∃ d rest, core = d :: rest ∧ '1' ≤ d ∧ d ≤ '9' := by
  cases h with
  | zero => exact .inl rfl
  | grouped h hhead =>
    obtain ⟨d, rest, more, rfl, rfl, hd⟩ := h.exists_cons
    refine .inr ⟨d, rest, rfl, ?_⟩
    have hne : d ≠ '0' := by simpa using hhead
    rw [isAsciiDigit, Bool.and_eq_true, decide_eq_true_eq, decide_eq_true_eq] at hd
    refine ⟨?_, hd.2⟩
    have hlow : ('0' : Char).toNat ≤ d.toNat := hd.1
    have hdiff : d.toNat ≠ ('0' : Char).toNat := fun h => hne (Char.toNat_inj.mp h)
    show ('1' : Char).toNat ≤ d.toNat
    have h0 : ('0' : Char).toNat = 48 := rfl
    have h1 : ('1' : Char).toNat = 49 := rfl
    omega

end IsCore

/-! ### Underscores -/

theorem Grouped.filter {text digits : List Char} (h : Grouped text digits) :
    text.filter (· != '_') = digits := by
  induction h with
  | last hd => simp [ne_underscore_of_isAsciiDigit hd]
  | next hd h ih => simp [ne_underscore_of_isAsciiDigit hd, ih]
  | gap hd h ih => simp [ne_underscore_of_isAsciiDigit hd, ih]

theorem Grouped.singleUnderscores {text digits : List Char} (h : Grouped text digits)
    (edge : Bool) : singleUnderscores edge text = true := by
  induction h generalizing edge with
  | last hd => simp [Number.singleUnderscores, ne_underscore_of_isAsciiDigit hd]
  | next hd h ih => simp [Number.singleUnderscores, ne_underscore_of_isAsciiDigit hd, ih]
  | gap hd h ih => simp [Number.singleUnderscores, ne_underscore_of_isAsciiDigit hd, ih]

/-- What the underscores stand in if digits are left without them: grouped digits, and, except at an
edge, nothing or an underscore with grouped digits after it. -/
theorem singleUnderscores_cases {edge : Bool} {text : List Char}
    (h : singleUnderscores edge text = true)
    (hdigits : ∀ d ∈ text.filter (· != '_'), isAsciiDigit d = true) :
    Grouped text (text.filter (· != '_')) ∨ (edge = false ∧
      (text = [] ∨ ∃ rest, text = '_' :: rest ∧ Grouped rest (text.filter (· != '_')))) := by
  -- by induction on the text, where an underscore hands the edge on to what follows it
  induction text generalizing edge with
  | nil => exact .inr ⟨by simpa [singleUnderscores] using h, .inl rfl⟩
  | cons c text ih =>
    rw [singleUnderscores] at h
    by_cases hc : c = '_'
    · subst hc
      rw [if_pos rfl, Bool.and_eq_true] at h
      obtain ⟨hedge, hmore⟩ := h
      refine .inr ⟨by simpa using hedge, .inr ⟨text, rfl, ?_⟩⟩
      rcases ih hmore (by simpa using hdigits) with hgrouped | ⟨hfalse, -⟩
      · simpa using hgrouped
      · cases hfalse
    · rw [if_neg hc] at h
      have hfilter : (c :: text).filter (· != '_') = c :: text.filter (· != '_') := by simp [hc]
      rw [hfilter] at hdigits ⊢
      obtain ⟨hd, hmore⟩ := List.forall_mem_cons.mp hdigits
      refine .inl ?_
      rcases ih h hmore with hgrouped | ⟨-, rfl | ⟨rest, rfl, hgrouped⟩⟩
      · exact .next hd hgrouped
      · exact .last hd
      · exact .gap hd hgrouped

/-- A text without underscores has each of them between others. -/
theorem singleUnderscores_of_not_mem {text : List Char} (hne : text ≠ []) (h : '_' ∉ text)
    (edge : Bool) : singleUnderscores edge text = true := by
  induction text generalizing edge with
  | nil => exact absurd rfl hne
  | cons c text ih =>
    have hc : c ≠ '_' := fun heq => h (by simp [heq])
    rw [singleUnderscores, if_neg hc]
    cases text with
    | nil => rfl
    | cons d text => exact ih (List.cons_ne_nil _ _) (fun hmem => h (List.mem_cons_of_mem _ hmem)) _

/-! ### The strict form -/

theorem grouped_self {digits : List Char} (hne : digits ≠ [])
    (hdigits : ∀ d ∈ digits, isAsciiDigit d = true) : Grouped digits digits := by
  induction digits with
  | nil => exact absurd rfl hne
  | cons d digits ih =>
    obtain ⟨hd, hmore⟩ := List.forall_mem_cons.mp hdigits
    cases digits with
    | nil => exact .last hd
    | cons e digits => exact .next hd (ih (List.cons_ne_nil _ _) hmore)

/-- Digits that are a core by themselves: a zero alone, or digits that start with another. -/
theorem isCore_self_iff {digits : List Char} : IsCore digits digits ↔
    (∀ d ∈ digits, isAsciiDigit d = true) ∧
      (digits = ['0'] ∨ digits.head?.any (· != '0') = true) := by
  constructor
  · intro h
    refine ⟨h.toGrouped.isAsciiDigit, ?_⟩
    cases h with
    | zero => exact .inl rfl
    | grouped h hhead =>
      obtain ⟨d, rest, more, rfl, -, -⟩ := h.exists_cons
      exact .inr (by simpa using hhead)
  · rintro ⟨hdigits, rfl | hhead⟩
    · exact .zero
    · cases digits with
      | nil => cases hhead
      | cons d digits =>
        exact .grouped (grouped_self (List.cons_ne_nil _ _) hdigits) (by simpa using hhead)

/-- A text without a minus sign is all digits in the strict form. -/
theorem strictInteger?_of_ne {cs : List Char} (h : ∀ ds, cs ≠ '-' :: ds) :
    strictInteger? cs =
      if cs.all isAsciiDigit && (cs == ['0'] ||
        (cs.head?.any (· != '0') && decide (cs.length ≤ digitLimit)))
      then some (signed false (asciiNumeral cs)) else none := by
  unfold strictInteger?
  split
  next negative ds heq =>
    split at heq
    · exact absurd rfl (h _)
    · cases heq
      rfl

/-- What the strict form asks of the digits after a sign: to be a core by themselves, and with the
sign no more than can be read.  A zero alone is read in any case. -/
theorem strictDigits_eq_some_iff (negative : Bool) {digits : List Char} {length : ℕ} {n : Int}
    (hlength : length = negative.toNat + digits.length) :
    (if digits.all isAsciiDigit && (digits == ['0'] ||
        (digits.head?.any (· != '0') && decide (length ≤ digitLimit))) then
      some (signed negative (asciiNumeral digits)) else none) = some n ↔
    IsCore digits digits ∧ negative.toNat + digits.length ≤ digitLimit ∧
      signed negative (asciiNumeral digits) = n := by
  have hzero : digits = ['0'] → negative.toNat + digits.length ≤ digitLimit := by
    rintro rfl
    cases negative <;> decide
  rw [isCore_self_iff, hlength]
  simp only [Bool.and_eq_true, Bool.or_eq_true, List.all_eq_true, beq_iff_eq,
    decide_eq_true_eq, Option.ite_none_right_eq_some, Option.some_inj]
  constructor
  · rintro ⟨⟨hdigits, hform⟩, hvalue⟩
    exact ⟨⟨hdigits, hform.imp_right And.left⟩, hform.elim hzero And.right, hvalue⟩
  · rintro ⟨⟨hdigits, hform⟩, hlimit, hvalue⟩
    exact ⟨⟨hdigits, hform.imp_right fun h => ⟨h, hlimit⟩⟩, hvalue⟩

/-- **The strict form**: a minus sign or none, and a zero alone or digits that start with
another. -/
theorem strictInteger?_eq_some_iff {cs : List Char} {n : Int} :
    strictInteger? cs = some n ↔ ∃ negative digits, cs = signChars negative ++ digits ∧
      IsCore digits digits ∧ negative.toNat + digits.length ≤ digitLimit ∧
      signed negative (asciiNumeral digits) = n := by
  constructor
  · intro h
    by_cases hminus : ∃ ds, cs = '-' :: ds
    · obtain ⟨ds, rfl⟩ := hminus
      exact ⟨true, ds, rfl, (strictDigits_eq_some_iff true (Nat.add_comm _ _)).mp h⟩
    · rw [strictInteger?_of_ne fun ds hds => hminus ⟨ds, hds⟩] at h
      exact ⟨false, cs, rfl, (strictDigits_eq_some_iff false (Nat.zero_add _).symm).mp h⟩
  · rintro ⟨negative, digits, rfl, hdigits⟩
    cases negative with
    | true => exact (strictDigits_eq_some_iff true (Nat.add_comm _ _)).mpr hdigits
    | false =>
      -- digits without a sign do not start with one
      obtain ⟨d, rest, more, rfl, -, hd⟩ := hdigits.1.toGrouped.exists_cons
      have hminus : ∀ ds, d :: rest ≠ '-' :: ds := by
        rintro ds heq
        rw [(List.cons.inj heq).1] at hd
        exact absurd hd (by decide)
      exact (strictInteger?_of_ne hminus).trans
        ((strictDigits_eq_some_iff false (Nat.zero_add _).symm).mpr hdigits)

/-! ### The last steps -/

namespace IsCore

variable {core digits : List Char}

/-- The digits of a core are a core by themselves. -/
theorem self (h : IsCore core digits) : IsCore digits digits := by
  cases h with
  | zero => exact .zero
  | grouped h hhead => exact .grouped (grouped_self h.ne_nil h.isAsciiDigit) hhead

theorem of_grouped (h : Grouped core digits) (hdigits : IsCore digits digits) :
    IsCore core digits := by
  cases hdigits with
  | grouped _ hhead => exact .grouped h hhead
  | zero =>
    cases h with
    | last hd => exact .zero
    | next hd h => exact absurd rfl h.ne_nil
    | gap hd h => exact absurd rfl h.ne_nil

end IsCore

/-- If a number is read after the underscores are dropped, each of them stands between others: if
one stood elsewhere, all would stay, and none of them is a digit. -/
theorem singleUnderscores_of_strictInteger? {cs : List Char} {n : Int}
    (h : strictInteger? (dropUnderscores cs) = some n) : singleUnderscores true cs = true := by
  by_contra hnone
  rw [dropUnderscores, if_neg hnone] at h
  obtain ⟨negative, digits, rfl, hcore, -, -⟩ := strictInteger?_eq_some_iff.mp h
  refine hnone (singleUnderscores_of_not_mem ?_ ?_ true)
  · exact List.append_ne_nil_of_right_ne_nil _ hcore.toGrouped.ne_nil
  · rw [List.mem_append, not_or]
    refine ⟨by cases negative <;> decide, fun hmem => ?_⟩
    exact ne_underscore_of_isAsciiDigit (hcore.toGrouped.isAsciiDigit _ hmem) rfl

/-- Of a sign with grouped digits the digits are left, also if an underscore follows the sign. -/
theorem dropUnderscores_append {negative : Bool} {gap core digits : List Char}
    (hgap : gap = [] ∨ negative = true ∧ gap = ['_']) (hgrouped : Grouped core digits) :
    dropUnderscores (signChars negative ++ (gap ++ core)) = signChars negative ++ digits := by
  rw [dropUnderscores]
  rcases hgap with rfl | ⟨rfl, rfl⟩
  · cases negative with
    | false => simp [signChars, hgrouped.singleUnderscores, hgrouped.filter]
    | true => simp [signChars, singleUnderscores, hgrouped.singleUnderscores, hgrouped.filter]
  · simp [signChars, singleUnderscores, hgrouped.singleUnderscores, hgrouped.filter]

/-- A text reads a number in the strict form after its underscores are dropped. -/
theorem strictInteger?_dropUnderscores_iff {cs : List Char} {n : Int} :
    strictInteger? (dropUnderscores cs) = some n ↔ ∃ negative gap core digits,
      cs = signChars negative ++ (gap ++ core) ∧ (gap = [] ∨ negative = true ∧ gap = ['_']) ∧
      IsCore core digits ∧ negative.toNat + digits.length ≤ digitLimit ∧
      signed negative (asciiNumeral digits) = n := by
  constructor
  · intro h
    have hsingle := singleUnderscores_of_strictInteger? h
    rw [dropUnderscores, if_pos hsingle] at h
    obtain ⟨negative, digits, hfilter, hcore, hlimit, hvalue⟩ := strictInteger?_eq_some_iff.mp h
    have hdigits := hcore.toGrouped.isAsciiDigit
    cases negative with
    | false =>
      rw [signChars, if_neg (by decide), List.nil_append] at hfilter
      rcases singleUnderscores_cases hsingle (hfilter ▸ hdigits) with hgrouped | ⟨hfalse, -⟩
      · exact ⟨false, [], cs, digits, rfl, .inl rfl, .of_grouped (hfilter ▸ hgrouped) hcore, hlimit,
          hvalue⟩
      · cases hfalse
    | true =>
      cases cs with
      | nil => cases hfilter
      | cons c rest =>
        have hc : c ≠ '_' := by
          rintro rfl
          cases hsingle
        rw [List.filter_cons_of_pos (by simpa using hc)] at hfilter
        obtain ⟨rfl, hrest⟩ := List.cons_eq_cons.mp hfilter
        -- the sign is no edge, so an underscore may follow it
        have hafter : singleUnderscores false rest = true := hsingle
        rcases singleUnderscores_cases hafter (hrest ▸ hdigits) with
          hgrouped | ⟨-, rfl | ⟨core, rfl, hgrouped⟩⟩
        · rw [hrest] at hgrouped
          exact ⟨true, [], rest, digits, rfl, .inl rfl, .of_grouped hgrouped hcore, hlimit, hvalue⟩
        · exact absurd hrest.symm hcore.toGrouped.ne_nil
        · rw [hrest] at hgrouped
          exact ⟨true, ['_'], core, digits, rfl, .inr ⟨rfl, rfl⟩, .of_grouped hgrouped hcore,
            hlimit, hvalue⟩
  · rintro ⟨negative, gap, core, digits, rfl, hgap, hcore, hlimit, hvalue⟩
    rw [dropUnderscores_append hgap hcore.toGrouped]
    exact strictInteger?_eq_some_iff.mpr ⟨negative, digits, rfl, hcore.self, hlimit, hvalue⟩

/-- What is taken away from the end is a point with zeros, or nothing. -/
theorem exists_zeroFraction (cs : List Char) :
    ∃ fraction, IsZeroFraction fraction ∧ cs = dropZeroFraction cs ++ fraction := by
  rw [dropZeroFraction, List.span_eq_takeWhile_dropWhile]
  dsimp only
  split
  · next h =>
    refine ⟨cs.dropWhile (· != '.'), .inr ?_, (List.takeWhile_append_dropWhile).symm⟩
    rw [Bool.and_eq_true, decide_eq_true_eq, List.all_eq_true] at h
    obtain ⟨hlength, hzeros⟩ := h
    cases hrest : cs.dropWhile (· != '.') with
    | nil => simp [hrest] at hlength
    | cons c zeros =>
      have hpoint : c = '.' := by
        have hne : cs.dropWhile (· != '.') ≠ [] := by simp [hrest]
        have hhead := List.head_dropWhile_not (· != '.') hne
        simpa [hrest] using hhead
      rw [hrest] at hlength hzeros
      refine ⟨zeros.length - 1, ?_⟩
      have hlong : zeros.length - 1 + 1 = zeros.length := by
        simp only [List.length_cons] at hlength
        omega
      rw [hpoint, hlong, List.cons_inj_right, List.eq_replicate_iff]
      exact ⟨rfl, fun d hd => by simpa using hzeros d hd⟩
  · exact ⟨[], .inl rfl, (List.append_nil cs).symm⟩

theorem dropZeroFraction_append {whole fraction : List Char} (hwhole : '.' ∉ whole)
    (hfraction : IsZeroFraction fraction) : dropZeroFraction (whole ++ fraction) = whole := by
  have hnone : ∀ c ∈ whole, (c != '.') = true := fun c hc => by
    rw [bne_iff_ne]
    exact fun heq => hwhole (heq ▸ hc)
  rw [dropZeroFraction, List.span_eq_takeWhile_dropWhile, List.takeWhile_append_of_pos hnone,
    List.dropWhile_append_of_pos hnone]
  rcases hfraction with rfl | ⟨count, rfl⟩
  · simp
  · simp

/-- What is left of a text in the loose form without a plus sign and the zeros at its start. -/
inductive IsRest : List Char → Int → Prop where
  | intro {gap core digits fraction : List Char} {negative : Bool}
      (hgap : gap = [] ∨ negative = true ∧ gap = ['_']) (hcore : IsCore core digits)
      (hfraction : IsZeroFraction fraction)
      (hlimit : negative.toNat + digits.length ≤ digitLimit) :
      IsRest (signChars negative ++ (gap ++ (core ++ fraction)))
        (signed negative (asciiNumeral digits))

theorem isRest_iff {cs : List Char} {n : Int} :
    strictInteger? (dropUnderscores (dropZeroFraction cs)) = some n ↔ IsRest cs n := by
  rw [strictInteger?_dropUnderscores_iff]
  constructor
  · rintro ⟨negative, gap, core, digits, hcs, hgap, hcore, hlimit, rfl⟩
    -- the steps are undone from the last one, so the zeros are put back behind the underscores
    obtain ⟨fraction, hfraction, heq⟩ := exists_zeroFraction cs
    rw [heq, hcs, List.append_assoc, List.append_assoc]
    exact .intro hgap hcore hfraction hlimit
  · rintro ⟨hgap, hcore, hfraction, hlimit⟩
    next gap core digits fraction negative =>
    refine ⟨negative, gap, core, digits, ?_, hgap, hcore, hlimit, rfl⟩
    rw [← List.append_assoc gap, ← List.append_assoc]
    refine dropZeroFraction_append ?_ hfraction
    simp only [List.mem_append, not_or]
    refine ⟨by cases negative <;> decide, ?_, fun hmem => ?_⟩
    · rcases hgap with rfl | ⟨-, rfl⟩ <;> decide
    · rcases hcore.toGrouped.of_mem_text hmem with hd | heq
      · exact absurd hd (by decide)
      · exact absurd heq (by decide)

end ClassOrder.Number
