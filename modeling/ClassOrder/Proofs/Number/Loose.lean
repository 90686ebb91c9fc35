import ClassOrder.Proofs.Number.Strict

/-!
# The loose form of whole numbers

A text in the loose form is cut down to the strict form by steps, each of which looks only at what
the steps before have left.  Taken together they read a grammar: signs with padding of zeros and
underscores between them, a zero alone or grouped digits that start with another, and a point with
zeros after it.

## Main definitions

* `IsPadding`, `IsLead` — what may come before the digits.
* `WritesLoosely` — **the grammar of the loose form.**

## Main results

* `exists_padding_of_dropLeadingZeros?`, `dropPlus?_eq_some_iff` — what the first steps take away.
* `looseInteger?_eq_some_iff` — **reading the loose form follows its grammar.**
* `WritesLoosely.not_space` — no text in the loose form has a space in it.
-/

namespace ClassOrder.Number

open ClassOrder.Text

/-- Zeros with underscores among them, the first of them a zero; or nothing. -/
def IsPadding (pad : List Char) : Prop :=
  pad = [] ∨ ∃ more, pad = '0' :: more ∧ ∀ c ∈ more, c = '0' ∨ c = '_'

/-- What comes before the digits, and whether the number is negative: a plus sign or none with
padding after it; a minus sign with padding after it; or, after padding, a minus sign that an
underscore may follow. -/
inductive IsLead : List Char → Bool → Prop where
  | plain {plus pad : List Char} (hplus : plus = [] ∨ plus = ['+']) (hpad : IsPadding pad) :
      IsLead (plus ++ pad) false
  | minus {pad : List Char} (hpad : IsPadding pad) : IsLead ('-' :: pad) true
  | late {plus pad gap : List Char} (hplus : plus = [] ∨ plus = ['+']) (hpad : IsPadding pad)
      (hne : pad ≠ []) (hgap : gap = [] ∨ gap = ['_']) : IsLead (plus ++ pad ++ '-' :: gap) true

/-- The loose form: the parts one after the other, where the sign and the digits are no more
characters than a written integer may have digits. -/
inductive WritesLoosely : List Char → Int → Prop where
  | intro {lead core digits fraction : List Char} {negative : Bool} (hlead : IsLead lead negative)
      (hcore : IsCore core digits) (hfraction : IsZeroFraction fraction)
      (hlimit : negative.toNat + digits.length ≤ digitLimit) :
      WritesLoosely (lead ++ (core ++ fraction)) (signed negative (asciiNumeral digits))

/-! ### The zeros at the start -/

/-- What may come after the padding that is taken away: a character that leads a number, or a zero
alone or before a point. -/
inductive IsTail : List Char → Prop where
  | leads {c : Char} {rest : List Char} (hc : leadsNumber c = true) : IsTail (c :: rest)
  | last : IsTail ['0']
  | point {rest : List Char} : IsTail ('0' :: '.' :: rest)

theorem IsCore.isTail {core digits fraction : List Char} (hcore : IsCore core digits)
    (hfraction : IsZeroFraction fraction) : IsTail (core ++ fraction) := by
  rcases hcore.cases_head with rfl | ⟨d, rest, rfl, hlow, hhigh⟩
  · rcases hfraction with rfl | ⟨count, rfl⟩
    · exact .last
    · exact .point
  · exact .leads (by simp [leadsNumber, hlow, hhigh])

theorem leadsNumber_ne {c : Char} (h : leadsNumber c = true) : c ≠ '0' ∧ c ≠ '_' := by
  constructor <;>
  · rintro rfl
    exact absurd h (by decide)

theorem afterZeros?_append {more tail : List Char} (hmore : ∀ c ∈ more, c = '0' ∨ c = '_')
    (htail : IsTail tail) (last : Char) : afterZeros? last (more ++ tail) = some tail := by
  induction more generalizing last with
  | nil =>
    cases htail with
    | leads hc =>
      rw [List.nil_append, afterZeros?, if_neg (not_or.mpr (leadsNumber_ne hc)), if_pos hc]
    | last => rfl
    | point => rfl
  | cons c more ih =>
    obtain ⟨hc, hmore⟩ := List.forall_mem_cons.mp hmore
    rw [List.cons_append, afterZeros?, if_pos hc, ih hmore]

theorem dropLeadingZeros?_append {pad tail : List Char} (hpad : IsPadding pad)
    (htail : IsTail tail) : dropLeadingZeros? (pad ++ tail) = some tail := by
  rcases hpad with rfl | ⟨more, rfl, hmore⟩
  · cases htail with
    | leads hc => rw [List.nil_append, dropLeadingZeros?, if_neg (leadsNumber_ne hc).1, if_pos hc]
    | last => rfl
    | point => rfl
  · exact afterZeros?_append hmore htail '0'

/-- What is left after zeros and underscores, the last of which may be kept. -/
theorem exists_of_afterZeros? {last : Char} {cs tail : List Char} (hlast : last = '0' ∨ last = '_')
    (h : afterZeros? last cs = some tail) :
    (∃ pad, last :: cs = pad ++ tail ∧ ∀ c ∈ pad, c = '0' ∨ c = '_') ∧
      ∀ rest, tail = '_' :: rest → rest = [] ∨ ∃ more, rest = '.' :: more := by
  induction cs generalizing last with
  | nil =>
    obtain rfl : [last] = tail := Option.some.inj h
    exact ⟨⟨[], rfl, by simp⟩, fun rest hrest => .inl (List.cons.inj hrest).2.symm⟩
  | cons c cs ih =>
    rw [afterZeros?] at h
    split at h
    next hc =>
      obtain ⟨⟨pad, heq, hpad⟩, hkept⟩ := ih hc h
      exact ⟨⟨last :: pad, by rw [heq]; rfl, List.forall_mem_cons.mpr ⟨hlast, hpad⟩⟩, hkept⟩
    next hc =>
      split at h
      next hleads =>
        obtain rfl := Option.some.inj h
        refine ⟨⟨[last], rfl, by simpa using hlast⟩, fun rest hrest => ?_⟩
        exact absurd (List.cons.inj hrest).1 (leadsNumber_ne hleads).2
      next hleads =>
        split at h
        next hpoint =>
          obtain rfl := Option.some.inj h
          refine ⟨⟨[], rfl, by simp⟩, fun rest hrest => .inr ⟨cs, ?_⟩⟩
          rw [← (List.cons.inj hrest).2, hpoint]
        next => cases h

/-- **What is taken away at the start is padding**, and an underscore is kept only at the end or
before a point. -/
theorem exists_padding_of_dropLeadingZeros? {cs tail : List Char}
    (h : dropLeadingZeros? cs = some tail) : (∃ pad, IsPadding pad ∧ cs = pad ++ tail) ∧
      ∀ rest, tail = '_' :: rest → rest = [] ∨ ∃ more, rest = '.' :: more := by
  cases cs with
  | nil => cases h
  | cons c cs =>
    rw [dropLeadingZeros?] at h
    split at h
    next hc =>
      subst hc
      obtain ⟨⟨pad, heq, hpad⟩, hkept⟩ := exists_of_afterZeros? (.inl rfl) h
      refine ⟨⟨pad, ?_, heq⟩, hkept⟩
      cases pad with
      | nil => exact .inl rfl
      | cons d more =>
        obtain ⟨rfl, -⟩ := List.cons.inj heq
        exact .inr ⟨more, rfl, (List.forall_mem_cons.mp hpad).2⟩
    next =>
      split at h
      next hleads =>
        obtain rfl := Option.some.inj h
        refine ⟨⟨[], .inl rfl, rfl⟩, fun rest hrest => ?_⟩
        exact absurd (List.cons.inj hrest).1 (leadsNumber_ne hleads).2
      next => cases h

/-! ### The loose form -/

/-- A plus sign is taken away, which no minus sign may follow. -/
theorem dropPlus?_eq_some_iff {cs after : List Char} : dropPlus? cs = some after ↔
    ∃ plus, (plus = [] ∨ plus = ['+']) ∧ cs = plus ++ after ∧
      (plus = [] → after.head? ≠ some '+') ∧ (plus = ['+'] → after.head? ≠ some '-') := by
  constructor
  · intro h
    unfold dropPlus? at h
    split at h
    next => cases h
    next rest hminus =>
      obtain rfl := Option.some.inj h
      refine ⟨['+'], .inr rfl, rfl, by simp, fun _ hhead => ?_⟩
      obtain ⟨more, rfl⟩ : ∃ more, rest = '-' :: more := by
        cases rest with
        | nil => cases hhead
        | cons c more => exact ⟨more, by rw [Option.some.inj hhead]⟩
      exact hminus more rfl
    next hminus hplus =>
      obtain rfl := Option.some.inj h
      refine ⟨[], .inl rfl, rfl, fun _ hhead => ?_, by simp⟩
      cases cs with
      | nil => cases hhead
      | cons c rest => exact hplus rest (by rw [Option.some.inj hhead])
  · rintro ⟨plus, hmark, rfl, hplus, hminus⟩
    rcases hmark with rfl | rfl
    · cases after with
      | nil => rfl
      | cons c rest =>
        have hc : c ≠ '+' := fun heq => hplus rfl (by rw [heq]; rfl)
        simp [dropPlus?, hc]
    · cases after with
      | nil => rfl
      | cons c rest =>
        have hc : c ≠ '-' := fun heq => hminus rfl (by rw [heq]; rfl)
        simp [dropPlus?, hc]

theorem dropZeros?_of_ne {cs : List Char} (h : cs.head? ≠ some '-') :
    dropZeros? cs = dropLeadingZeros? cs := by
  unfold dropZeros?
  split
  next => exact absurd rfl h
  next => rfl

/-- What is left and starts with a minus sign is negative. -/
theorem IsRest.cases_minus {tail : List Char} {n : Int} (h : IsRest ('-' :: tail) n) :
    ∃ gap core digits fraction, tail = gap ++ (core ++ fraction) ∧ (gap = [] ∨ gap = ['_']) ∧
      IsCore core digits ∧ IsZeroFraction fraction ∧ 1 + digits.length ≤ digitLimit ∧
      signed true (asciiNumeral digits) = n := by
  generalize hcs : '-' :: tail = cs at h
  obtain ⟨hgap, hcore, hfraction, hlimit⟩ := h
  next gap core digits fraction negative =>
  cases negative with
  | true =>
    exact ⟨gap, core, digits, fraction, (List.cons.inj hcs).2, hgap.imp_right And.right, hcore,
      hfraction, hlimit, rfl⟩
  | false =>
    obtain rfl : gap = [] := hgap.resolve_right fun h => Bool.false_ne_true h.1
    obtain ⟨d, rest, more, rfl, -, hd⟩ := hcore.toGrouped.exists_cons
    rw [← (List.cons.inj hcs).1] at hd
    exact absurd hd (by decide)

/-- A minus sign before the padding. -/
theorem writesLoosely_of_minus {body tail : List Char} {n : Int}
    (hzeros : dropLeadingZeros? body = some tail) (hrest : IsRest ('-' :: tail) n) :
    WritesLoosely ('-' :: body) n := by
  obtain ⟨⟨pad, hpad, rfl⟩, hkept⟩ := exists_padding_of_dropLeadingZeros? hzeros
  obtain ⟨gap, core, digits, fraction, rfl, hgap, hcore, hfraction, hlimit, rfl⟩ :=
    hrest.cases_minus
  obtain rfl : gap = [] := by
    -- an underscore here would have a digit after it, where one that is kept has none
    refine hgap.resolve_right fun hunderscore => ?_
    obtain ⟨d, rest, more, rfl, -, hd⟩ := hcore.toGrouped.exists_cons
    rcases hkept _ (by rw [hunderscore]; rfl) with hnil | ⟨others, hpoint⟩
    · cases hnil
    · rw [(List.cons.inj hpoint).1] at hd
      exact absurd hd (by decide)
  show WritesLoosely (('-' :: pad) ++ (core ++ fraction)) (signed true (asciiNumeral digits))
  exact .intro (.minus hpad) hcore hfraction hlimit

/-- No minus sign before the padding. -/
theorem writesLoosely_of_plus {plus after tail : List Char} {n : Int}
    (hplus : plus = [] ∨ plus = ['+']) (hminus : after.head? ≠ some '-')
    (hzeros : dropLeadingZeros? after = some tail) (hrest : IsRest tail n) :
    WritesLoosely (plus ++ after) n := by
  obtain ⟨⟨pad, hpad, rfl⟩, -⟩ := exists_padding_of_dropLeadingZeros? hzeros
  obtain ⟨hgap, hcore, hfraction, hlimit⟩ := hrest
  next gap core digits fraction negative =>
  cases negative with
  | true =>
    have hne : pad ≠ [] := by
      rintro rfl
      exact hminus rfl
    have hlead := IsLead.late hplus hpad hne (hgap.imp_right And.right)
    simpa [signChars] using WritesLoosely.intro hlead hcore hfraction hlimit
  | false =>
    obtain rfl : gap = [] := hgap.resolve_right fun h => Bool.false_ne_true h.1
    simpa [signChars] using WritesLoosely.intro (.plain hplus hpad) hcore hfraction hlimit

/-- A number is read where no sign but a plus sign leads what is left after it. -/
theorem looseInteger?_append {plus pad tail : List Char} {n : Int}
    (hplus : plus = [] ∨ plus = ['+']) (hpad : IsPadding pad) (htail : IsTail tail)
    (hsign : ∀ c ∈ (pad ++ tail).head?, c ≠ '+' ∧ c ≠ '-') (hrest : IsRest tail n) :
    looseInteger? (plus ++ (pad ++ tail)) = some n := by
  have hafter : dropPlus? (plus ++ (pad ++ tail)) = some (pad ++ tail) :=
    dropPlus?_eq_some_iff.mpr ⟨plus, hplus, rfl, fun _ hhead => (hsign _ hhead).1 rfl,
      fun _ hhead => (hsign _ hhead).2 rfl⟩
  have hzeros : dropZeros? (pad ++ tail) = some tail :=
    (dropZeros?_of_ne fun hhead => (hsign _ hhead).2 rfl).trans
      (dropLeadingZeros?_append hpad htail)
  rw [looseInteger?, hafter]
  simp only [Option.bind_eq_bind, Option.bind_some, hzeros]
  exact isRest_iff.mpr hrest

/-- Padding starts with a zero. -/
theorem IsPadding.head_ne {pad tail : List Char} (hpad : IsPadding pad)
    (htail : pad = [] → ∀ c ∈ tail.head?, c ≠ '+' ∧ c ≠ '-') :
    ∀ c ∈ (pad ++ tail).head?, c ≠ '+' ∧ c ≠ '-' := by
  rcases hpad with rfl | ⟨more, rfl, -⟩
  · exact htail rfl
  · rintro c hc
    obtain rfl : '0' = c := Option.some.inj hc
    decide

/-- **Reading the loose form follows its grammar.** -/
theorem looseInteger?_eq_some_iff {cs : List Char} {n : Int} :
    looseInteger? cs = some n ↔ WritesLoosely cs n := by
  constructor
  · intro h
    rw [looseInteger?] at h
    simp only [Option.bind_eq_bind, Option.bind_eq_some_iff] at h
    obtain ⟨after, hplus, tail, hzeros, hrest⟩ := h
    obtain ⟨plus, hmark, rfl, -, hminus⟩ := dropPlus?_eq_some_iff.mp hplus
    -- a minus sign at the start keeps its place, and one after the zeros is found behind them
    by_cases hhead : after.head? = some '-'
    · obtain rfl : plus = [] := hmark.resolve_right fun h => hminus h hhead
      obtain ⟨body, rfl⟩ := List.head?_eq_some_iff.mp hhead
      obtain ⟨tail, hbody, rfl⟩ := Option.map_eq_some_iff.mp hzeros
      exact writesLoosely_of_minus hbody (isRest_iff.mp hrest)
    · rw [dropZeros?_of_ne hhead] at hzeros
      exact writesLoosely_of_plus hmark hhead hzeros (isRest_iff.mp hrest)
  · rintro ⟨hlead, hcore, hfraction, hlimit⟩
    next core digits fraction negative =>
    have htail := hcore.isTail hfraction
    cases hlead with
    | plain hplus hpad =>
      have hrest : IsRest (core ++ fraction) (signed false (asciiNumeral digits)) :=
        .intro (.inl rfl) hcore hfraction hlimit
      rw [List.append_assoc]
      refine looseInteger?_append hplus hpad htail (hpad.head_ne fun _ c hc => ?_) hrest
      obtain ⟨d, rest, more, rfl, -, hd⟩ := hcore.toGrouped.exists_cons
      obtain rfl : d = c := Option.some.inj hc
      constructor <;>
      · rintro rfl
        exact absurd hd (by decide)
    | @minus pad hpad =>
      have hrest : IsRest ('-' :: (core ++ fraction)) (signed true (asciiNumeral digits)) :=
        .intro (.inl rfl) hcore hfraction hlimit
      have hzeros : dropZeros? ('-' :: (pad ++ (core ++ fraction))) =
          some ('-' :: (core ++ fraction)) := by
        rw [dropZeros?, dropLeadingZeros?_append hpad htail]
        rfl
      rw [List.cons_append, looseInteger?, show dropPlus? ('-' :: (pad ++ (core ++ fraction))) =
        some ('-' :: (pad ++ (core ++ fraction))) from rfl]
      simp only [Option.bind_eq_bind, Option.bind_some, hzeros]
      exact isRest_iff.mpr hrest
    | @late plus pad gap hplus hpad hne hgap =>
      have hrest : IsRest ('-' :: (gap ++ (core ++ fraction)))
          (signed true (asciiNumeral digits)) :=
        .intro (hgap.imp_right fun h => ⟨rfl, h⟩) hcore hfraction hlimit
      rw [List.append_assoc, List.append_assoc, List.cons_append]
      exact looseInteger?_append hplus hpad (.leads rfl) (hpad.head_ne fun h => absurd h hne) hrest

/-! ### The characters of the loose form -/

theorem IsPadding.of_mem {pad : List Char} (h : IsPadding pad) {c : Char} (hc : c ∈ pad) :
    c = '0' ∨ c = '_' := by
  rcases h with rfl | ⟨more, rfl, hmore⟩
  · cases hc
  · exact (List.mem_cons.mp hc).elim .inl (hmore c)

theorem IsLead.of_mem {lead : List Char} {negative : Bool} (h : IsLead lead negative) {c : Char}
    (hc : c ∈ lead) : c = '+' ∨ c = '-' ∨ c = '0' ∨ c = '_' := by
  have hmark {plus : List Char} (hplus : plus = [] ∨ plus = ['+']) (hc : c ∈ plus) : c = '+' := by
    rcases hplus with rfl | rfl
    · cases hc
    · exact List.mem_singleton.mp hc
  cases h with
  | plain hplus hpad =>
    rcases List.mem_append.mp hc with hc | hc
    · exact .inl (hmark hplus hc)
    · exact .inr (.inr (hpad.of_mem hc))
  | minus hpad =>
    rcases List.mem_cons.mp hc with rfl | hc
    · exact .inr (.inl rfl)
    · exact .inr (.inr (hpad.of_mem hc))
  | late hplus hpad hne hgap =>
    rcases List.mem_append.mp hc with hc | hc
    · rcases List.mem_append.mp hc with hc | hc
      · exact .inl (hmark hplus hc)
      · exact .inr (.inr (hpad.of_mem hc))
    · rcases hgap with rfl | rfl
      · exact .inr (.inl (List.mem_singleton.mp hc))
      · have hpair : c = '-' ∨ c = '_' := by simpa using hc
        exact .inr (hpair.imp_right .inr)

/-- Nothing in a text in the loose form is a space, so spaces around it can be told from it. -/
theorem WritesLoosely.not_space {cs : List Char} {n : Int} (h : WritesLoosely cs n) :
    ∀ c ∈ cs, ¬ isSpace c = true := by
  obtain ⟨hlead, hcore, hfraction, -⟩ := h
  intro c hc
  rcases List.mem_append.mp hc with hc | hc
  · rcases hlead.of_mem hc with rfl | rfl | rfl | rfl <;> decide
  rcases List.mem_append.mp hc with hc | hc
  · rcases hcore.toGrouped.of_mem_text hc with hd | rfl
    · simp [IsMark.not_space (.inl hd)]
    · decide
  · rcases hfraction with rfl | ⟨count, rfl⟩
    · cases hc
    · rcases List.mem_cons.mp hc with rfl | hc
      · decide
      · rw [List.eq_of_mem_replicate hc]
        decide

end ClassOrder.Number
