import ClassOrder.Proofs.Json.RoundTrip

/-!
# Numbers with too many digits

A whole number in a text may have so many digits and no more.  A reader that meets a longer one
gives up for that reason and no other; whatever else is wrong with a text is wrong with its
grammar.  So a text that is refused for the length of a number has a run of so many digits.

## Main definitions

* `LongRun` — a text with more digits in a row than a written integer may have.
* `ReadsOff` — what reading the start of a text may come to.

## Main results

* `readsOff_readValue` — a value is read off the start of a text.
* `longRun_of_read` — **a number is too long only in a text with too many digits in a row.**
* `read_tooLong` — a number with too many digits is too long.
-/

namespace ClassOrder.Json

open ClassOrder.Text ClassOrder.Number

/-- A text with more digits in a row than a written integer may have. -/
def LongRun (cs : List Char) : Prop :=
  ∃ ds, ds <:+: cs ∧ digitLimit < ds.length ∧ ∀ d ∈ ds, isAsciiDigit d = true

/-- What reading the start of the text `cs` may come to: something and the end of the text after
it, or a fault, and the length of a number is to blame only if the text has a long run of
digits. -/
def ReadsOff {α : Type} (cs : List Char) : Except ReadFault (α × List Char) → Prop
  | .ok (_, rest) => rest <:+ cs
  | .error .syntaxFault => True
  | .error .integerTooLong => LongRun cs

section

variable {α β : Type} {cs ds : List Char}

theorem LongRun.mono (h : LongRun ds) (hsuffix : ds <:+ cs) : LongRun cs := by
  obtain ⟨run, hrun, hlong⟩ := h
  exact ⟨run, hrun.trans hsuffix.isInfix, hlong⟩

/-- What is read off the end of a text is read off the text. -/
theorem ReadsOff.mono {r : Except ReadFault (α × List Char)} (h : ReadsOff ds r)
    (hsuffix : ds <:+ cs) : ReadsOff cs r :=
  match r, h with
  | .ok _, h => List.IsSuffix.trans h hsuffix
  | .error .syntaxFault, _ => trivial
  | .error .integerTooLong, h => LongRun.mono h hsuffix

/-- Reading one thing and then, in the text after it, another. -/
theorem ReadsOff.bind {r : Except ReadFault (α × List Char)}
    {f : α × List Char → Except ReadFault (β × List Char)} (h : ReadsOff cs r)
    (hf : ∀ a rest, rest <:+ cs → ReadsOff cs (f (a, rest))) : ReadsOff cs (r >>= f) :=
  match r, h with
  | .ok (a, rest), h => hf a rest h
  | .error .syntaxFault, _ => trivial
  | .error .integerTooLong, h => h

end

/-! ### Strings -/

variable {cs rest : List Char}

theorem skipSpace_suffix (cs : List Char) : skipSpace cs <:+ cs := List.dropWhile_suffix _

theorem hexUnit?_suffix {n : Nat} (h : hexUnit? cs = some (n, rest)) : rest <:+ cs := by
  unfold hexUnit? at h
  split at h
  · next a b c d tail =>
    simp only [Option.bind_eq_bind, Option.bind_eq_some_iff, Option.pure_def,
      Option.some.injEq, Prod.mk.injEq] at h
    obtain ⟨_, _, _, _, _, _, _, _, -, rfl⟩ := h
    exact ⟨[a, b, c, d], rfl⟩
  · cases h

theorem lowHalf?_suffix {n : Nat} (h : lowHalf? cs = some (n, rest)) : rest <:+ cs := by
  unfold lowHalf? at h
  split at h
  · next tail =>
    split at h
    · next m after hunit =>
      split at h
      · cases h
        exact (hexUnit?_suffix hunit).trans ⟨['\\', 'u'], rfl⟩
      · cases h
    · cases h
  · cases h

theorem escape?_suffix {c : Char} (h : escape? cs = some (c, rest)) : rest <:+ cs := by
  cases cs with
  | nil => cases h
  | cons e tail =>
    have hsame {d : Char} {left : List Char} (h : some (d, left) = some (c, rest)) :
        rest <:+ left := by
      obtain ⟨-, rfl⟩ := Prod.mk.inj (Option.some.inj h)
      exact List.suffix_rfl
    refine List.IsSuffix.trans ?_ (List.suffix_cons e tail)
    rw [escape?] at h
    split_ifs at h with _ _ _ _ _ _ hunicode
    iterate 6 exact hsame h
    -- four hexadecimal digits, or twice that for the two halves of a character
    split at h
    · cases h
    · next n after hunit =>
      refine List.IsSuffix.trans ?_ (hexUnit?_suffix hunit)
      split_ifs at h
      · split at h
        · next m low hlow => exact (hsame h).trans (lowHalf?_suffix hlow)
        · exact hsame h
      · exact hsame h
      · exact hsame h

/-- By induction on the characters that are left to look at. -/
theorem readsOff_readString (fuel : Nat) (read cs : List Char) :
    ReadsOff cs (readString fuel read cs) := by
  induction fuel generalizing read cs with
  | zero => exact trivial
  | succ fuel ih =>
    cases cs with
    | nil => exact trivial
    | cons c cs =>
      have hcons : cs <:+ c :: cs := List.suffix_cons c cs
      rw [readString]
      split_ifs
      · exact hcons
      · split
        · next e rest hescape => exact (ih _ _).mono ((escape?_suffix hescape).trans hcons)
        · exact trivial
      · exact trivial
      · exact (ih _ _).mono hcons

/-! ### Numbers and words -/

theorem span_isAsciiDigit_eq {ds : List Char} (h : cs.span isAsciiDigit = (ds, rest)) :
    cs = ds ++ rest ∧ ∀ d ∈ ds, isAsciiDigit d = true := by
  rw [List.span_eq_takeWhile_dropWhile] at h
  cases h
  exact ⟨(List.takeWhile_append_dropWhile).symm, fun d hd => List.mem_takeWhile_imp hd⟩

/-- The digits before the point are digits of the text. -/
theorem wholePart?_eq_some {ds : List Char} (h : wholePart? cs = some (ds, rest)) :
    cs = ds ++ rest ∧ ∀ d ∈ ds, isAsciiDigit d = true := by
  cases cs with
  | nil => cases h
  | cons c cs =>
    rw [wholePart?] at h
    split_ifs at h with hzero hdigit
    · cases h
      subst hzero
      exact ⟨rfl, by simp [show isAsciiDigit '0' = true from rfl]⟩
    · exact span_isAsciiDigit_eq (Option.some.inj h)

theorem fractionPart?_suffix {ds : List Char} (h : fractionPart? cs = some (ds, rest)) :
    rest <:+ cs := by
  unfold fractionPart? at h
  split at h
  · next tail =>
    obtain ⟨digits, after, hspan⟩ : ∃ digits after, tail.span isAsciiDigit = (digits, after) :=
      ⟨_, _, rfl⟩
    rw [hspan] at h
    dsimp only at h
    split_ifs at h
    cases h
    rw [(span_isAsciiDigit_eq hspan).1]
    exact (List.suffix_append _ _).trans (List.suffix_cons _ _)
  · cases h

theorem sign_suffix (cs : List Char) : (sign cs).2 <:+ cs := by
  unfold sign
  split
  · exact List.suffix_cons _ _
  · exact List.suffix_cons _ _
  · exact List.suffix_rfl

theorem exponentPart?_suffix {e : Int} (h : exponentPart? cs = some (e, rest)) : rest <:+ cs := by
  cases cs with
  | nil => cases h
  | cons c cs =>
    rw [exponentPart?] at h
    split_ifs at h
    obtain ⟨digits, after, hspan⟩ : ∃ digits after,
        (sign cs).2.span isAsciiDigit = (digits, after) := ⟨_, _, rfl⟩
    dsimp only at h
    rw [hspan] at h
    dsimp only at h
    split_ifs at h
    cases h
    have hsign := sign_suffix cs
    rw [(span_isAsciiDigit_eq hspan).1] at hsign
    exact ((List.suffix_append _ _).trans hsign).trans (List.suffix_cons c cs)

/-- Only the digits before the point count for the length of a number, and only if it is whole. -/
theorem readsOff_readNumber (negative : Bool) (cs : List Char) :
    ReadsOff cs (readNumber negative cs) := by
  unfold readNumber
  split
  · exact trivial
  · next whole rest hwhole =>
    obtain ⟨rfl, hdigits⟩ := wholePart?_eq_some hwhole
    have hrest : rest <:+ whole ++ rest := List.suffix_append whole rest
    split
    · next fraction after hfraction =>
      have hafter := (fractionPart?_suffix hfraction).trans hrest
      cases hexponent : exponentPart? after with
      | none => exact hafter
      | some e => exact (exponentPart?_suffix hexponent).trans hafter
    · split
      · next scale after hexponent => exact (exponentPart?_suffix hexponent).trans hrest
      · split_ifs with hlimit
        · exact hrest
        · exact ⟨whole, ⟨[], rest, rfl⟩, not_le.mp hlimit, hdigits⟩

theorem after?_suffix {word : List Char} (h : after? word cs = some rest) : rest <:+ cs := by
  induction word generalizing cs with
  | nil =>
    cases h
    exact List.suffix_rfl
  | cons w word ih =>
    cases cs with
    | nil => cases h
    | cons c cs =>
      rw [after?] at h
      split_ifs at h
      exact (ih h).trans (List.suffix_cons c cs)

theorem readsOff_readAtom (cs : List Char) : ReadsOff cs (readAtom cs) := by
  unfold readAtom
  split
  · next h => exact after?_suffix h
  split
  · next h => exact after?_suffix h
  split
  · next h => exact after?_suffix h
  split
  · next h => exact after?_suffix h
  split
  · next h => exact after?_suffix h
  split
  · next h => exact after?_suffix h
  split
  · exact (readsOff_readNumber true _).mono (List.suffix_cons _ _)
  · exact readsOff_readNumber false _

/-! ### Values -/

/-- What holds of values, items and fields that are read with so much fuel. -/
structure ReadsAllOff (fuel : Nat) : Prop where
  value : ∀ cs, ReadsOff cs (readValue fuel cs)
  items : ∀ cs, ReadsOff cs (readItems fuel cs)
  fields : ∀ cs, ReadsOff cs (readFields fuel cs)

theorem ReadsAllOff.readValue_succ {fuel : Nat} (h : ReadsAllOff fuel) (cs : List Char) :
    ReadsOff cs (readValue (fuel + 1) cs) := by
  cases cs with
  | nil =>
    rw [readValue]
    exact trivial
  | cons c cs =>
    have hcons : cs <:+ c :: cs := List.suffix_cons c cs
    have hspace : skipSpace cs <:+ c :: cs := (skipSpace_suffix cs).trans hcons
    rw [readValue]
    split_ifs
    · exact ((readsOff_readString _ _ _).mono hcons).bind fun _ _ hrest => hrest
    · split
      · next heq =>
        rw [heq] at hspace
        exact (List.suffix_cons _ _).trans hspace
      · exact ((h.items _).mono hspace).bind fun _ _ hrest => hrest
    · split
      · next heq =>
        rw [heq] at hspace
        exact (List.suffix_cons _ _).trans hspace
      · exact ((h.fields _).mono hspace).bind fun _ _ hrest => hrest
    · exact readsOff_readAtom _

theorem ReadsAllOff.readItems_succ {fuel : Nat} (h : ReadsAllOff fuel) (cs : List Char) :
    ReadsOff cs (readItems (fuel + 1) cs) := by
  rw [readItems]
  refine (h.value cs).bind fun v rest hrest => ?_
  have hspace : skipSpace rest <:+ cs := (skipSpace_suffix rest).trans hrest
  dsimp only
  split
  · next heq =>
    rw [heq] at hspace
    exact (List.suffix_cons _ _).trans hspace
  · next after heq =>
    rw [heq] at hspace
    have hafter : skipSpace after <:+ cs :=
      (skipSpace_suffix after).trans ((List.suffix_cons _ _).trans hspace)
    exact ((h.items _).mono hafter).bind fun _ _ hlast => hlast
  · exact trivial

theorem ReadsAllOff.readFields_succ {fuel : Nat} (h : ReadsAllOff fuel) (cs : List Char) :
    ReadsOff cs (readFields (fuel + 1) cs) := by
  rw [readFields.eq_def]
  dsimp only
  split
  · next tail =>
    have htail : tail <:+ '"' :: tail := List.suffix_cons _ _
    refine ((readsOff_readString _ _ _).mono htail).bind fun name rest hrest => ?_
    have hcolon : skipSpace rest <:+ '"' :: tail := (skipSpace_suffix rest).trans hrest
    dsimp only
    split
    · next after heq =>
      rw [heq] at hcolon
      have hvalue : skipSpace after <:+ '"' :: tail :=
        (skipSpace_suffix after).trans ((List.suffix_cons _ _).trans hcolon)
      refine ((h.value _).mono hvalue).bind fun v rest hrest => ?_
      have hspace : skipSpace rest <:+ '"' :: tail := (skipSpace_suffix rest).trans hrest
      dsimp only
      split
      · next heq =>
        rw [heq] at hspace
        exact (List.suffix_cons _ _).trans hspace
      · next more heq =>
        rw [heq] at hspace
        have hmore : skipSpace more <:+ '"' :: tail :=
          (skipSpace_suffix more).trans ((List.suffix_cons _ _).trans hspace)
        exact ((h.fields _).mono hmore).bind fun _ _ hlast => hlast
      · exact trivial
    · exact trivial
  · exact trivial

/-- By induction on the fuel, for the three readers at once. -/
theorem readsAllOff (fuel : Nat) : ReadsAllOff fuel := by
  induction fuel with
  | zero =>
    refine ⟨fun cs => ?_, fun cs => ?_, fun cs => ?_⟩
    · rw [readValue]
      exact trivial
    · rw [readItems]
      exact trivial
    · rw [readFields]
      exact trivial
  | succ fuel ih => exact ⟨ih.readValue_succ, ih.readItems_succ, ih.readFields_succ⟩

/-- A value is read off the start of a text. -/
theorem readsOff_readValue (fuel : Nat) (cs : List Char) : ReadsOff cs (readValue fuel cs) :=
  (readsAllOff fuel).value cs

/-- **A number is too long only in a text with too many digits in a row.** -/
theorem longRun_of_read (h : read cs = .error .integerTooLong) : LongRun cs := by
  have hvalue := (readsOff_readValue (cs.length + 1) (skipSpace cs)).mono (skipSpace_suffix cs)
  unfold read at h
  cases hread : readValue (cs.length + 1) (skipSpace cs) with
  | ok found =>
    rw [hread] at h
    dsimp only at h
    split_ifs at h
    cases h
  | error fault =>
    rw [hread] at h hvalue
    cases h
    exact hvalue

/-! ### Such a number -/

section

variable {d : Char} {ds : List Char} (hdigits : ∀ c ∈ d :: ds, isAsciiDigit c = true)
  (hlead : d ≠ '0') (hlong : digitLimit < (d :: ds).length) (hrest : EndsNumber rest)
include hdigits hlead hlong hrest

theorem readNumber_tooLong (negative : Bool) :
    readNumber negative (d :: ds ++ rest) = .error .integerTooLong := by
  have hwhole := wholePart?_append hdigits (.inr ⟨d, ds, rfl, hlead⟩) hrest.noDigit
  rw [readNumber, hwhole]
  simp only [hrest.fractionPart?, hrest.exponentPart?, if_neg (not_le.mpr hlong)]

/-- **A text that starts with such a number is refused for it**, whatever comes after. -/
theorem read_tooLong : read (d :: ds ++ rest) = .error .integerTooLong := by
  have hd : isAsciiDigit d = true := hdigits d List.mem_cons_self
  have hspace := skipSpace_cons (StartsValue.not_space (.inl (.inl hd))) (ds ++ rest)
  have hnumber := readNumber_tooLong hdigits hlead hlong hrest false
  rw [List.cons_append] at hnumber ⊢
  rw [read, hspace, readValue_atom (.inl hd), readAtom_digit hd, hnumber]

end

end ClassOrder.Json
