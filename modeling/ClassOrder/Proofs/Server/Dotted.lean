import ClassOrder.Proofs.Server.Version
import ClassOrder.Proofs.Text.Digit

/-!
# The version in a text

A dotted number is one or more groups of digits with single points between them.  A text with a
digit has one first dotted number that goes on as far as it can, and the version in the text is what
its groups write.  So a version can be read off what it is written as.

## Main definitions

* `Version.IsGroup`, `Version.Dotted` — groups of digits, and dotted numbers.
* `Version.Cut`, `Version.Cut.IsFirst` — a text cut around its first dotted number.
* `Version.text` — a version written with points.

## Main results

* `Version.Cut.IsFirst.unique`, `Version.exists_isFirst` — a text with a digit has one such cut.
* `Version.parse_of_isFirst` — the version in a text is what the groups of its first dotted number
  write, unless one is too long.
* `Version.parse_finds_first_dotted` — **the version in a text is its first dotted number.**
-/

namespace ClassOrder.Version

open Text

variable {run run' rest rest' group front cs m m' after after' raw : List Char}
  {groups groups' : List (List Char)} {v : Version}

/-- One digit at least, and nothing else. -/
structure IsGroup (group : List Char) : Prop where
  ne_nil : group ≠ []
  digit : ∀ c ∈ group, IsDecimal c

/-- A dotted number with its groups of digits. -/
inductive Dotted : List Char → List (List Char) → Prop
  /-- One group is a dotted number. -/
  | one {group : List Char} (hgroup : IsGroup group) : Dotted group [group]
  /-- A group and a point may stand before a dotted number. -/
  | more {group m : List Char} {groups : List (List Char)} (hgroup : IsGroup group)
      (hm : Dotted m groups) : Dotted (group ++ '.' :: m) (group :: groups)

/-- A dotted number cannot go on into this text: it neither starts with a digit nor with a point
and a digit. -/
structure Ends (after : List Char) : Prop where
  digit : ∀ c ∈ after.head?, ¬ IsDecimal c
  point : ∀ c rest, after = '.' :: c :: rest → ¬ IsDecimal c

/-- A text in three parts. -/
@[ext]
structure Cut where
  /-- What comes before the number. -/
  before : List Char
  /-- The number. -/
  number : List Char
  /-- What comes after the number. -/
  after : List Char

/-- A text is cut around its first dotted number, which goes on as far as it can. -/
structure Cut.IsFirst (cut : Cut) (raw : List Char) : Prop where
  text : raw = cut.before ++ (cut.number ++ cut.after)
  before : ∀ c ∈ cut.before, ¬ IsDecimal c
  number : ∃ groups, Dotted cut.number groups
  after : Ends cut.after

/-- The numbers of a version with points between them. -/
def text (v : Version) : String := String.ofList (['.'].intercalate (v.map Number.digits))

/-! ### Dotted numbers -/

theorem not_isDecimal_point : ¬ IsDecimal '.' := by decide +kernel

/-- A text that starts with a point does not start with a digit. -/
theorem point_stops (rest : List Char) : ∀ c ∈ ('.' :: rest).head?, ¬ IsDecimal c := by
  simpa using not_isDecimal_point

theorem ends_nil : Ends [] := ⟨by simp, by simp⟩

theorem isGroup_singleton {c : Char} (hc : IsDecimal c) : IsGroup [c] where
  ne_nil := by simp
  digit := by simpa using hc

theorem IsGroup.concat {c : Char} (h : IsGroup group) (hc : IsDecimal c) :
    IsGroup (group ++ [c]) where
  ne_nil := by simp
  digit d hd := by
    rcases List.mem_append.mp hd with hd | hd
    · exact h.digit d hd
    · rwa [List.mem_singleton.mp hd]

theorem isGroup_digits (n : ℕ) : IsGroup (Number.digits n) where
  ne_nil := Number.digits_ne_nil n
  digit _ hc := ⟨_, denotes_asciiDigitValue (Number.isAsciiDigit_of_mem_digits hc)⟩

/-- A dotted number is its groups with points between them. -/
theorem dotted_iff : Dotted m groups ↔
    groups ≠ [] ∧ (∀ group ∈ groups, IsGroup group) ∧ m = ['.'].intercalate groups := by
  constructor
  · intro h
    induction h with
    | one hgroup => simpa using hgroup
    | more hgroup hm ih =>
      obtain ⟨hne, hgroups, rfl⟩ := ih
      refine ⟨by simp, List.forall_mem_cons.mpr ⟨hgroup, hgroups⟩, ?_⟩
      rw [List.intercalate_cons_of_ne_nil hne, List.append_assoc, List.singleton_append]
  · rintro ⟨hne, hgroups, rfl⟩
    induction groups with
    | nil => exact absurd rfl hne
    | cons group groups ih =>
      obtain ⟨hgroup, hgroups⟩ := List.forall_mem_cons.mp hgroups
      by_cases hlast : groups = []
      · subst hlast
        rw [List.intercalate_singleton]
        exact .one hgroup
      · rw [List.intercalate_cons_of_ne_nil hlast, List.append_assoc, List.singleton_append]
        exact .more hgroup (ih hlast hgroups)

/-- A dotted number starts with a digit. -/
theorem Dotted.exists_cons (h : Dotted m groups) : ∃ c rest, m = c :: rest ∧ IsDecimal c := by
  have hstart (group rest : List Char) (hgroup : IsGroup group) :
      ∃ c tail, group ++ rest = c :: tail ∧ IsDecimal c := by
    obtain ⟨c, cs, rfl⟩ := List.exists_cons_of_ne_nil hgroup.ne_nil
    exact ⟨c, cs ++ rest, rfl, hgroup.digit c List.mem_cons_self⟩
  cases h with
  | one hgroup => simpa using hstart m [] hgroup
  | more hgroup hm => exact hstart _ _ hgroup

/-! ### There is one cut at most -/

/-- A run of characters of one kind that goes on as far as it can is told by the text. -/
theorem run_unique {P : Char → Prop} (hrun : ∀ c ∈ run, P c) (hrun' : ∀ c ∈ run', P c)
    (hrest : ∀ c ∈ rest.head?, ¬ P c) (hrest' : ∀ c ∈ rest'.head?, ¬ P c)
    (heq : run ++ rest = run' ++ rest') : run = run' ∧ rest = rest' := by
  induction run generalizing run' with
  | nil =>
    cases run' with
    | nil => exact ⟨rfl, heq⟩
    | cons d run' =>
      subst heq
      exact absurd (hrun' d List.mem_cons_self) (hrest d rfl)
  | cons c run ih =>
    cases run' with
    | nil =>
      subst heq
      exact absurd (hrun c List.mem_cons_self) (hrest' c rfl)
    | cons d run' =>
      obtain ⟨rfl, htail⟩ := List.cons_eq_cons.mp heq
      obtain ⟨rfl, rfl⟩ := ih (fun e he => hrun e (List.mem_cons_of_mem _ he))
        (fun e he => hrun' e (List.mem_cons_of_mem _ he)) htail
      exact ⟨rfl, rfl⟩

theorem IsGroup.unique {group' : List Char} (hgroup : IsGroup group) (hgroup' : IsGroup group')
    (hrest : ∀ c ∈ rest.head?, ¬ IsDecimal c) (hrest' : ∀ c ∈ rest'.head?, ¬ IsDecimal c)
    (heq : group ++ rest = group' ++ rest') : group = group' ∧ rest = rest' :=
  run_unique hgroup.digit hgroup'.digit hrest hrest' heq

/-- A dotted number that goes on as far as it can is told by the text, and so are its groups: by
induction on the one number and a look at the other. -/
theorem Dotted.unique (h : Dotted m groups) (h' : Dotted m' groups') (hends : Ends after)
    (hends' : Ends after') (heq : m ++ after = m' ++ after') :
    m = m' ∧ groups = groups' ∧ after = after' := by
  induction h generalizing m' groups' with
  | one hgroup =>
    cases h' with
    | one hgroup' =>
      obtain ⟨rfl, rfl⟩ := hgroup.unique hgroup' hends.digit hends'.digit heq
      exact ⟨rfl, rfl, rfl⟩
    | more hgroup' hm' =>
      -- the one number would end before a point and a digit
      rw [List.append_assoc] at heq
      obtain ⟨rfl, rfl⟩ := hgroup.unique hgroup' hends.digit (point_stops _) heq
      obtain ⟨c, tail, rfl, hc⟩ := hm'.exists_cons
      exact absurd hc (hends.point c _ rfl)
  | more hgroup hm ih =>
    rw [List.append_assoc] at heq
    cases h' with
    | one hgroup' =>
      obtain ⟨rfl, rfl⟩ := hgroup.unique hgroup' (point_stops _) hends'.digit heq
      obtain ⟨c, tail, rfl, hc⟩ := hm.exists_cons
      exact absurd hc (hends'.point c _ rfl)
    | more hgroup' hm' =>
      rw [List.append_assoc] at heq
      obtain ⟨rfl, hrest⟩ := hgroup.unique hgroup' (point_stops _) (point_stops _) heq
      obtain ⟨rfl, rfl, rfl⟩ := ih hm' (List.cons_eq_cons.mp hrest).2
      exact ⟨rfl, rfl, rfl⟩

/-- **A text has one first dotted number at most.** -/
theorem Cut.IsFirst.unique {cut cut' : Cut} (h : cut.IsFirst raw) (h' : cut'.IsFirst raw) :
    cut = cut' := by
  obtain ⟨groups, hnumber⟩ := h.number
  obtain ⟨groups', hnumber'⟩ := h'.number
  have hstart {m : List Char} {groups : List (List Char)} (hm : Dotted m groups)
      (after : List Char) : ∀ c ∈ (m ++ after).head?, ¬ ¬ IsDecimal c := by
    obtain ⟨d, rest, rfl, hd⟩ := hm.exists_cons
    simpa using hd
  obtain ⟨hbefore, hrest⟩ := run_unique h.before h'.before (hstart hnumber _) (hstart hnumber' _)
    (h.text.symm.trans h'.text)
  obtain ⟨hm, -, hafter⟩ := hnumber.unique hnumber' h.after h'.after hrest
  exact Cut.ext hbefore hm hafter

/-! ### The cut that is found -/

/-- The values of the digits of a group. -/
def values (group : List Char) : List ℕ := group.filterMap digitValue?

theorem denotes_values (h : ∀ c ∈ group, IsDecimal c) :
    List.Forall₂ Denotes group (values group) := by
  induction group with
  | nil => exact .nil
  | cons c group ih =>
    obtain ⟨⟨d, hd⟩, hgroup⟩ := List.forall_mem_cons.mp h
    rw [values, List.filterMap_cons_some (digitValue?_eq_some_iff.mpr hd)]
    exact .cons hd (ih hgroup)

theorem length_values (h : IsGroup group) : (values group).length = group.length :=
  (denotes_values h.digit).length_eq.symm

theorem values_singleton {c : Char} {d : ℕ} (h : digitValue? c = some d) : values [c] = [d] := by
  simp [values, h]

theorem values_concat {c : Char} {d : ℕ} (h : digitValue? c = some d) (group : List Char) :
    values (group ++ [c]) = values group ++ [d] := by
  simp [values, h]

/-- What is found is a dotted number that goes on as far as it can: by induction on what is still to
be read, where `front` is the group that has been begun and `begun` its values in reverse. -/
theorem groupsFrom_spec {begun : List ℕ} (hfront : IsGroup front)
    (hbegun : begun.reverse = values front) (cs : List Char) :
    ∃ m groups after, Dotted m groups ∧ Ends after ∧ front ++ cs = m ++ after ∧
      groupsFrom begun cs = groups.map values := by
  fun_induction groupsFrom begun cs generalizing front with
  | case1 begun =>
    exact ⟨front, [front], [], .one hfront, ends_nil, rfl, by simp [hbegun]⟩
  | case2 begun c cs d hd ih =>
    have hc := isDecimal_of_digitValue? hd
    have hvalues : (d :: begun).reverse = values (front ++ [c]) := by
      rw [values_concat hd, List.reverse_cons, hbegun]
    obtain ⟨m, groups, after, hm, hends, heq, hfound⟩ := ih (hfront.concat hc) hvalues
    rw [List.append_assoc, List.singleton_append] at heq
    exact ⟨m, groups, after, hm, hends, heq, hfound⟩
  | case3 begun d rest v hv _ ih =>
    have hd := isGroup_singleton (isDecimal_of_digitValue? hv)
    obtain ⟨m, groups, after, hm, hends, heq, hfound⟩ := ih hd (values_singleton hv).symm
    rw [List.singleton_append] at heq
    refine ⟨front ++ '.' :: m, front :: groups, after, .more hfront hm, hends, ?_, ?_⟩
    · rw [heq, List.append_assoc, List.cons_append]
    · rw [hfound, hbegun, List.map_cons]
  | case4 begun d rest hd =>
    -- a point without a digit after it ends the number
    have hends : Ends ('.' :: d :: rest) := by
      refine ⟨point_stops _, ?_⟩
      rintro c tail ⟨⟩
      exact digitValue?_eq_none_iff.mp hd
    exact ⟨front, [front], _, .one hfront, hends, rfl, by simp [hbegun]⟩
  | case5 begun c cs hc hother =>
    have hends : Ends (c :: cs) := by
      refine ⟨by simpa using digitValue?_eq_none_iff.mp hc, ?_⟩
      rintro d tail ⟨⟩
      exact absurd rfl (hother d tail rfl)
    exact ⟨front, [front], _, .one hfront, hends, rfl, by simp [hbegun]⟩

theorem groups?_eq_none_iff : groups? cs = none ↔ ∀ c ∈ cs, ¬ IsDecimal c := by
  fun_induction groups? cs with
  | case1 => simp
  | case2 c cs d hd =>
    have hc := isDecimal_of_digitValue? hd
    simp [hc]
  | case3 c cs hc ih =>
    rw [ih, List.forall_mem_cons, and_iff_right (digitValue?_eq_none_iff.mp hc)]

/-- The groups that are found are those of the first dotted number. -/
theorem exists_isFirst {found : List (List ℕ)} (h : groups? cs = some found) :
    ∃ cut : Cut, cut.IsFirst cs ∧
      ∃ groups, Dotted cut.number groups ∧ found = groups.map values := by
  fun_induction groups? cs with
  | case1 => cases h
  | case2 c cs d hd =>
    have hc := isGroup_singleton (isDecimal_of_digitValue? hd)
    have hvalues : [d].reverse = values [c] := (values_singleton hd).symm
    obtain ⟨m, groups, after, hm, hends, heq, hfound⟩ := groupsFrom_spec hc hvalues cs
    rw [hfound, Option.some.injEq] at h
    exact ⟨⟨[], m, after⟩, ⟨heq, by simp, ⟨groups, hm⟩, hends⟩, groups, hm, h.symm⟩
  | case3 c cs hc ih =>
    obtain ⟨cut, hcut, hgroups⟩ := ih h
    have hbefore : ∀ d ∈ c :: cut.before, ¬ IsDecimal d :=
      List.forall_mem_cons.mpr ⟨digitValue?_eq_none_iff.mp hc, hcut.before⟩
    have htext : c :: cs = (c :: cut.before) ++ (cut.number ++ cut.after) := by
      rw [List.cons_append, ← hcut.text]
    exact ⟨⟨c :: cut.before, cut.number, cut.after⟩,
      ⟨htext, hbefore, hcut.number, hcut.after⟩, hgroups⟩

theorem Cut.IsFirst.exists_isDecimal {cut : Cut} (h : cut.IsFirst cs) : ∃ c ∈ cs, IsDecimal c := by
  obtain ⟨groups, hnumber⟩ := h.number
  obtain ⟨c, rest, hstart, hc⟩ := hnumber.exists_cons
  exact ⟨c, by simp [h.text, hstart], hc⟩

theorem groups?_of_isFirst {cut : Cut} (h : cut.IsFirst cs) (hgroups : Dotted cut.number groups) :
    groups? cs = some (groups.map values) := by
  obtain ⟨c, hmem, hc⟩ := h.exists_isDecimal
  cases hfound : groups? cs with
  | none => exact absurd hc (groups?_eq_none_iff.mp hfound c hmem)
  | some found =>
    obtain ⟨cut', hcut', groups', hgroups', rfl⟩ := exists_isFirst hfound
    obtain rfl := h.unique hcut'
    obtain ⟨-, rfl, -⟩ := hgroups.unique hgroups' ends_nil ends_nil rfl
    rfl

/-! ### The version -/

theorem mapM_number_of_long {found : List (List ℕ)}
    (h : ∃ group ∈ found, digitLimit < group.length) : found.mapM number = .error ⟨⟩ := by
  induction found with
  | nil => simp at h
  | cons group found ih =>
    rw [List.mapM_cons]
    by_cases hgroup : digitLimit < group.length
    · have hnumber : number group = .error ⟨⟩ := if_neg (Nat.not_le.mpr hgroup)
      rw [hnumber]
      rfl
    · have hnumber : number group = .ok (numeral group) := if_pos (Nat.not_lt.mp hgroup)
      have hfound : ∃ group ∈ found, digitLimit < group.length := by simpa [hgroup] using h
      rw [hnumber, ih hfound]
      rfl

theorem parse_eq_none_iff (raw : String) :
    parse raw = .ok none ↔ ∀ c ∈ raw.toList, ¬ IsDecimal c := by
  rw [← groups?_eq_none_iff, parse]
  cases groups? raw.toList with
  | none => simp
  | some found => cases hfound : found.mapM number <;> simp [hfound, Except.map]

/-- **The version in a text is what the groups of its first dotted number write**, unless one of
them is too long for a number. -/
theorem parse_of_isFirst {raw : String} {cut : Cut} (h : cut.IsFirst raw.toList)
    (hgroups : Dotted cut.number groups) :
    ((∀ group ∈ groups, group.length ≤ digitLimit) →
        ∃ v, parse raw = .ok (some v) ∧ List.Forall₂ Writes groups v) ∧
      ((∃ group ∈ groups, digitLimit < group.length) → parse raw = .error ⟨⟩) := by
  obtain ⟨-, hgroup, -⟩ := dotted_iff.mp hgroups
  have hfound := groups?_of_isFirst h hgroups
  constructor
  · intro hshort
    have hraw : Short raw := by
      intro found heq ds hds
      rw [hfound, Option.some.injEq] at heq
      subst heq
      obtain ⟨group, hmem, rfl⟩ := List.mem_map.mp hds
      rw [length_values (hgroup group hmem)]
      exact hshort group hmem
    refine ⟨(groups.map values).map numeral, by rw [parse_of_short hraw, hfound]; rfl, ?_⟩
    rw [List.map_map, List.forall₂_map_right_iff, List.forall₂_same]
    exact fun group hmem => writes_numeral (denotes_values (hgroup group hmem).digit)
  · rintro ⟨group, hmem, hlong⟩
    have hlong' : ∃ ds ∈ groups.map values, digitLimit < ds.length :=
      ⟨values group, List.mem_map_of_mem hmem, by rwa [length_values (hgroup group hmem)]⟩
    rw [parse, hfound]
    simp only [mapM_number_of_long hlong']
    rfl

/-! ### Versions as they are written -/

/-- A version is written as a dotted number. -/
theorem isFirst_text (hv : v ≠ []) :
    (Cut.mk [] (['.'].intercalate (v.map Number.digits)) []).IsFirst (text v).toList ∧
      Dotted (['.'].intercalate (v.map Number.digits)) (v.map Number.digits) := by
  have hgroups : ∀ group ∈ v.map Number.digits, IsGroup group := by
    simpa using fun n _ => isGroup_digits n
  have hdotted := dotted_iff.mpr ⟨by simpa using hv, hgroups, rfl⟩
  exact ⟨⟨by simp [text], by simp, ⟨_, hdotted⟩, ends_nil⟩, hdotted⟩

theorem length_digits_le_iff (n : ℕ) :
    (Number.digits n).length ≤ digitLimit ↔ n < 10 ^ digitLimit :=
  Nat.length_toDigits_le_iff (by decide) (by decide)

/-- **A version can be read off what it is written as**, unless one of its numbers has too many
digits. -/
theorem parse_text_iff (hv : v ≠ []) :
    parse (text v) = .ok (some v) ↔ ∀ n ∈ v, n < 10 ^ digitLimit := by
  obtain ⟨hcut, hdotted⟩ := isFirst_text hv
  obtain ⟨hshort, hlong⟩ := parse_of_isFirst hcut hdotted
  have hfits : (∀ group ∈ v.map Number.digits, group.length ≤ digitLimit) ↔
      ∀ n ∈ v, n < 10 ^ digitLimit := by
    simp only [List.forall_mem_map, length_digits_le_iff]
  rw [← hfits]
  constructor
  · intro hread group hmem
    by_contra hgroup
    have herror := hlong ⟨group, hmem, Nat.not_le.mp hgroup⟩
    rw [hread] at herror
    cases herror
  · intro hgroups
    obtain ⟨w, hread, hwrites⟩ := hshort hgroups
    rw [List.forall₂_map_left_iff] at hwrites
    have heq : List.Forall₂ Eq v w := hwrites.imp fun n m => (writes_digits n).unique
    rw [List.forall₂_eq_eq_eq] at heq
    rw [hread, heq]

/-- **The version in a text is its first dotted number.**  There is none exactly if the text has no
digit of any script.  Else there is exactly one way to cut the text around its first dotted number,
and the version is what the groups of digits write in base ten, one after the other; a group that is
too long for a number makes it an error.  A version is read off what it is written as, unless one of
its numbers is too long. -/
theorem parse_finds_first_dotted (raw : String) :
    (parse raw = .ok none ↔ ∀ c ∈ raw.toList, ¬ IsDecimal c) ∧
      ((∃ c ∈ raw.toList, IsDecimal c) → ∃! cut : Cut, cut.IsFirst raw.toList) ∧
      (∀ (cut : Cut) (groups : List (List Char)), cut.IsFirst raw.toList →
        Dotted cut.number groups → cut.number = ['.'].intercalate groups ∧
        ((∀ group ∈ groups, group.length ≤ digitLimit) →
          ∃ v, parse raw = .ok (some v) ∧ List.Forall₂ Writes groups v) ∧
        ((∃ group ∈ groups, digitLimit < group.length) → parse raw = .error ⟨⟩)) ∧
      ∀ v : Version, v ≠ [] → (parse (text v) = .ok (some v) ↔ ∀ n ∈ v, n < 10 ^ digitLimit) := by
  refine ⟨parse_eq_none_iff raw, ?_, ?_, fun v => parse_text_iff⟩
  · rintro ⟨c, hmem, hc⟩
    cases hfound : groups? raw.toList with
    | none => exact absurd hc (groups?_eq_none_iff.mp hfound c hmem)
    | some found =>
      obtain ⟨cut, hcut, -⟩ := exists_isFirst hfound
      exact ⟨cut, hcut, fun cut' hcut' => hcut'.unique hcut⟩
  · intro cut groups hcut hgroups
    exact ⟨(dotted_iff.mp hgroups).2.2, parse_of_isFirst hcut hgroups⟩

/-- Digits of two scripts, zeros in front, and points without a digit behind them. -/
def mixedText : String := "r.\u0661\u0662.007..5-2"

/-- That text cut around its first dotted number. -/
def mixedCut : Cut :=
  ⟨['r', '.'], ['\u0661', '\u0662', '.', '0', '0', '7'], ['.', '.', '5', '-', '2']⟩

/-- The groups of digits of that number. -/
def mixedGroups : List (List Char) := [['\u0661', '\u0662'], ['0', '0', '7']]

theorem parse_finds_first_dotted_mixedText :
    (∃ c ∈ mixedText.toList, IsDecimal c) ∧ (∃! cut : Cut, cut.IsFirst mixedText.toList) ∧
      mixedCut.IsFirst mixedText.toList ∧ Dotted mixedCut.number mixedGroups ∧
      (∀ group ∈ mixedGroups, group.length ≤ digitLimit) ∧ parse mixedText = .ok (some [12, 7]) ∧
      [12, 7] ≠ [] ∧ parse (text [12, 7]) = .ok (some [12, 7]) := by
  obtain ⟨-, hunique, hread, htext⟩ := parse_finds_first_dotted mixedText
  have htwelve : IsGroup ['\u0661', '\u0662'] :=
    (isGroup_singleton (by decide +kernel)).concat (by decide +kernel)
  have hseven : IsGroup ['0', '0', '7'] :=
    ((isGroup_singleton (by decide +kernel)).concat (by decide +kernel)).concat (by decide +kernel)
  have hdotted : Dotted mixedCut.number mixedGroups := .more htwelve (.one hseven)
  have hbefore : ∀ c ∈ mixedCut.before, ¬ IsDecimal c :=
    List.forall_mem_cons.mpr ⟨by decide +kernel, List.forall_mem_singleton.mpr not_isDecimal_point⟩
  have hafter : Ends mixedCut.after := by
    refine ⟨point_stops _, ?_⟩
    rintro c tail ⟨⟩
    exact not_isDecimal_point
  have hcut : mixedCut.IsFirst mixedText.toList :=
    ⟨by decide +kernel, hbefore, ⟨_, hdotted⟩, hafter⟩
  have hshort : ∀ group ∈ mixedGroups, group.length ≤ digitLimit := by decide
  obtain ⟨v, hparse, hwrites⟩ := (hread mixedCut mixedGroups hcut hdotted).2.1 hshort
  have hnumbers : List.Forall₂ Writes mixedGroups [12, 7] := by
    refine .cons ⟨[1, 2], ?_, rfl⟩ (.cons ⟨[0, 0, 7], ?_, rfl⟩ .nil)
    all_goals decide +kernel
  have hone : Relator.RightUnique Writes := fun _ _ _ => Writes.unique
  have hv : v = [12, 7] := List.right_unique_forall₂' hone hwrites hnumbers
  have hdigit := hcut.exists_isDecimal
  refine ⟨hdigit, hunique hdigit, hcut, hdotted, hshort, hv ▸ hparse, by simp, ?_⟩
  exact (htext [12, 7] (by simp)).mpr (by decide +kernel)

end ClassOrder.Version
