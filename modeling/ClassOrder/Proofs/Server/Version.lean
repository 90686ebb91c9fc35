import ClassOrder.Session.Start
import Mathlib.Data.List.GetD
import Mathlib.Order.PiLex

/-!
# Older servers

The number that is missing from a version reads as zero, so a version stands for an unending
sequence of numbers, and one version comes before another if it is the smaller one at the first
place where the two sequences differ.  A server is warned about exactly if it gives a version, there
is an oldest supported one, and the version that is given comes before it.

## Main definitions

* `Version.part` — one of the numbers of a version, zero where it is missing.
* `Version.Precedes` — the order of the sequences.
* `Version.Outdated` — of two texts, both have a version and that of the first comes before.
* `Version.Alike` — two texts have the same version, but for zeros that count for nothing.
* `Reports` — a server gives a text as its version in its answer to the handshake.

## Main results

* `Version.older_iff` — versions are compared in the order of the sequences.
* `Version.outdated_congr` — zeros in front of a number and at the end of a version count for
  nothing.
* `checkVersion_warns_iff` — **a server is warned about exactly if its version comes before the
  oldest supported one.**
-/

namespace ClassOrder

open Text

namespace Version

variable {v w u : Version} {s s' raw raw' minimum minimum' other : String}
  {groups groups' : List (List ℕ)}

/-! ### The order of versions -/

/-- A number of a version, the most significant at zero; one that is missing is zero. -/
def part (v : Version) (i : ℕ) : ℕ := v.getD i 0

@[simp] theorem part_nil (i : ℕ) : part [] i = 0 := by simp [part]

@[simp] theorem part_cons_zero (n : ℕ) (v : Version) : part (n :: v) 0 = n := by simp [part]

@[simp] theorem part_cons_succ (n : ℕ) (v : Version) (i : ℕ) :
    part (n :: v) (i + 1) = v.part i := by simp [part]

/-- A version comes before another if it has the smaller number at the first place where the two
have different ones. -/
def Precedes (v w : Version) : Prop := ∃ i, (∀ j < i, v.part j = w.part j) ∧ v.part i < w.part i

/-- The order of versions is that of sequences, from left to right. -/
theorem precedes_iff_lt : v.Precedes w ↔ toLex v.part < toLex w.part := Iff.rfl

theorem Precedes.asymm (h : v.Precedes w) : ¬ w.Precedes v := lt_asymm (precedes_iff_lt.mp h)

theorem Precedes.trans (h : v.Precedes w) (h' : w.Precedes u) : v.Precedes u :=
  lt_trans (precedes_iff_lt.mp h) (precedes_iff_lt.mp h')

/-- Versions with the same numbers compare alike. -/
theorem precedes_congr {v' w' : Version} (hv : v.part = v'.part) (hw : w.part = w'.part) :
    v.Precedes w ↔ v'.Precedes w' := by
  rw [precedes_iff_lt, precedes_iff_lt, hv, hw]

theorem not_precedes_nil (v : Version) : ¬ v.Precedes [] := by
  rintro ⟨i, -, hlt⟩
  simp at hlt

/-- The numbers after the first one are looked at only if the first ones are equal. -/
theorem precedes_cons (b : ℕ) (w : Version) :
    v.Precedes (b :: w) ↔ v.part 0 < b ∨ v.part 0 = b ∧ Precedes v.tail w := by
  have htail (i : ℕ) : part v.tail i = v.part (i + 1) := by cases v <;> simp
  constructor
  · rintro ⟨i, heq, hlt⟩
    cases i with
    | zero => exact .inl (by simpa using hlt)
    | succ i =>
      refine .inr ⟨by simpa using heq 0 (Nat.succ_pos i), i, fun j hj => ?_, ?_⟩
      · simpa [htail] using heq (j + 1) (by omega)
      · simpa [htail] using hlt
  · rintro (hlt | ⟨hfirst, i, heq, hlt⟩)
    · exact ⟨0, fun j hj => absurd hj (Nat.not_lt_zero j), by simpa using hlt⟩
    · refine ⟨i + 1, fun j hj => ?_, by simpa [htail] using hlt⟩
      cases j with
      | zero => simpa using hfirst
      | succ j => simpa [htail] using heq j (by omega)

/-- **Versions are compared in the order of the sequences.** -/
theorem older_iff (v w : Version) : v.older w = true ↔ v.Precedes w := by
  fun_induction older v w with
  | case1 v => simpa using not_precedes_nil v
  | case2 b w ih =>
    -- the missing number is zero, so it is the smaller one unless `b` is zero as well
    rw [Bool.or_eq_true, decide_eq_true_eq, ih, precedes_cons, part_nil, List.tail_nil]
    by_cases hb : b = 0
    · simp [hb]
    · simp [Nat.pos_of_ne_zero hb]
  | case3 a v b w ih => simp [precedes_cons, ih]

/-! ### The version in a text -/

/-- No number of the version in a text has more digits than a written integer may have. -/
def Short (s : String) : Prop :=
  ∀ groups, groups? s.toList = some groups → ∀ group ∈ groups, group.length ≤ digitLimit

theorem mapM_number (h : ∀ group ∈ groups, group.length ≤ digitLimit) :
    groups.mapM number = .ok (groups.map numeral) := by
  induction groups with
  | nil => rfl
  | cons group groups ih =>
    have hgroup : number group = .ok (numeral group) := if_pos (h group List.mem_cons_self)
    rw [List.mapM_cons, hgroup, ih fun g hg => h g (List.mem_cons_of_mem _ hg)]
    rfl

/-- A text without a number that is too long can be read, and its numbers are those that its groups
of digits write. -/
theorem parse_of_short (h : Short s) :
    parse s = .ok ((groups? s.toList).map (List.map numeral)) := by
  rw [parse]
  cases hgroups : groups? s.toList with
  | none => rfl
  | some groups =>
    simp only [mapM_number (h groups hgroups)]
    rfl

/-- Both texts have a version, and that of the first comes before that of the second. -/
def Outdated (raw minimum : String) : Prop :=
  ∃ v w : Version, parse raw = .ok (some v) ∧ parse minimum = .ok (some w) ∧ v.Precedes w

theorem Outdated.asymm (h : Outdated raw minimum) : ¬ Outdated minimum raw := by
  obtain ⟨v, w, hraw, hminimum, hprecedes⟩ := h
  rintro ⟨w', v', hminimum', hraw', hprecedes'⟩
  rw [hraw, Except.ok.injEq, Option.some.injEq] at hraw'
  rw [hminimum, Except.ok.injEq, Option.some.injEq] at hminimum'
  subst hraw' hminimum'
  exact hprecedes.asymm hprecedes'

theorem Outdated.trans (h : Outdated raw other) (h' : Outdated other minimum) :
    Outdated raw minimum := by
  obtain ⟨v, u, hraw, hother, hprecedes⟩ := h
  obtain ⟨u', w, hother', hminimum, hprecedes'⟩ := h'
  rw [hother, Except.ok.injEq, Option.some.injEq] at hother'
  subst hother'
  exact ⟨v, w, hraw, hminimum, hprecedes.trans hprecedes'⟩

/-! ### Zeros that count for nothing -/

/-- Both texts have a version or neither has one, and the groups of digits differ by zeros in front
of a group and by groups of zeros at the end alone. -/
def Alike (s s' : String) : Prop :=
  Option.Rel (fun groups groups' : List (List ℕ) =>
    ∀ i, (groups.getD i []).dropWhile (· == 0) = (groups'.getD i []).dropWhile (· == 0))
    (groups? s.toList) (groups? s'.toList)

theorem numeral_zero_cons (digits : List ℕ) : numeral (0 :: digits) = numeral digits := rfl

/-- Zeros in front of a number count for nothing. -/
theorem numeral_dropWhile_zero (digits : List ℕ) :
    numeral (digits.dropWhile (· == 0)) = numeral digits := by
  induction digits with
  | nil => rfl
  | cons d digits ih =>
    by_cases hd : d = 0
    · subst hd
      rw [List.dropWhile_cons_of_pos (by simp), ih, numeral_zero_cons]
    · rw [List.dropWhile_cons_of_neg (by simpa using hd)]

theorem part_map_numeral (groups : List (List ℕ)) (i : ℕ) :
    part (groups.map numeral) i = numeral (groups.getD i []) :=
  List.getD_map groups [] numeral

/-- Groups that differ by such zeros alone write the same numbers. -/
theorem part_congr
    (h : ∀ i, (groups.getD i []).dropWhile (· == 0) = (groups'.getD i []).dropWhile (· == 0)) :
    part (groups.map numeral) = part (groups'.map numeral) := by
  funext i
  rw [part_map_numeral, part_map_numeral, ← numeral_dropWhile_zero, h i, numeral_dropWhile_zero]

theorem Alike.symm (h : Alike s s') : Alike s' s := by
  rw [Alike] at h ⊢
  generalize groups? s.toList = found at h
  generalize groups? s'.toList = found' at h
  cases h with
  | none => exact .none
  | some hgroups => exact .some fun i => (hgroups i).symm

/-- A text has a version with the same numbers if it is like one that has a version. -/
theorem Alike.exists_parse (h : Alike s s') (hs : Short s) (hs' : Short s')
    (hv : parse s = .ok (some v)) : ∃ v', parse s' = .ok (some v') ∧ v.part = v'.part := by
  rw [parse_of_short hs] at hv
  rw [parse_of_short hs']
  rw [Alike] at h
  generalize groups? s.toList = found at h hv
  generalize groups? s'.toList = found' at h
  cases h with
  | none => cases hv
  | some hgroups =>
    cases hv
    exact ⟨_, rfl, part_congr hgroups⟩

theorem Outdated.alike (h : Outdated raw minimum) (hraw : Alike raw raw')
    (hminimum : Alike minimum minimum') (hshort : ∀ s ∈ [raw, raw', minimum, minimum'], Short s) :
    Outdated raw' minimum' := by
  obtain ⟨v, w, hv, hw, hprecedes⟩ := h
  obtain ⟨v', hv', hpart⟩ := hraw.exists_parse (hshort _ (by simp)) (hshort _ (by simp)) hv
  obtain ⟨w', hw', hpart'⟩ := hminimum.exists_parse (hshort _ (by simp)) (hshort _ (by simp)) hw
  exact ⟨v', w', hv', hw', (precedes_congr hpart hpart').mp hprecedes⟩

/-- **Zeros in front of a number and at the end of a version count for nothing.** -/
theorem outdated_congr (hraw : Alike raw raw') (hminimum : Alike minimum minimum')
    (hshort : ∀ s ∈ [raw, raw', minimum, minimum'], Short s) :
    Outdated raw minimum ↔ Outdated raw' minimum' := by
  constructor
  · intro h
    exact h.alike hraw hminimum hshort
  · intro h
    refine h.alike hraw.symm hminimum.symm fun s hs => hshort s ?_
    simp only [List.mem_cons] at hs ⊢
    tauto

end Version

/-! ### The warning -/

open Version

variable {answer : Json} {minimum raw text : String}

/-- A server gives a text as its version: its answer to the handshake is an object with an object
about the server, and that has the text as the version. -/
def Reports (answer : Json) (raw : String) : Prop :=
  ∃ about, answer.field? "serverInfo" = some about ∧ about.field? "version" = some (.string raw)

theorem Json.fieldOrNull_eq_string {name : String} {v : Json} :
    v.fieldOrNull name = .string raw ↔ v.field? name = some (.string raw) := by
  rw [fieldOrNull]
  cases v.field? name <;> simp

theorem reports_iff : Reports answer raw ↔ reportedVersion answer = .string raw := by
  rw [reportedVersion, Json.fieldOrNull_eq_string, Json.fieldOrNull, Reports]
  cases hfield : answer.field? "serverInfo" with
  | none => simp [Json.field?]
  | some about => simp

/-- A server gives one text at most. -/
theorem Reports.unique {raw' : String} (h : Reports answer raw) (h' : Reports answer raw') :
    raw = raw' := by
  rw [reports_iff] at h h'
  rw [h, Json.string.injEq] at h'
  exact h'

/-- A server that gives no version deserves no warning. -/
theorem checkVersion_of_silent (hminimum : Short minimum) (hsilent : ∀ raw, ¬ Reports answer raw) :
    checkVersion answer minimum = .ok ⟨none, none⟩ := by
  have hreported (raw : String) : reportedVersion answer ≠ .string raw := fun h =>
    hsilent raw (reports_iff.mpr h)
  rw [checkVersion.eq_def, parse_of_short hminimum]
  split
  · next raw hraw => exact absurd hraw (hreported raw)
  · rfl

/-- A server that gives a version deserves a warning if it is outdated. -/
theorem checkVersion_of_reports (hraw : Reports answer raw) (hshort : Short raw)
    (hminimum : Short minimum) :
    ∃ warning, checkVersion answer minimum = .ok ⟨some raw, warning⟩ ∧
      ∀ text, warning = some text ↔
        Outdated raw minimum ∧ text = oldVersionWarning raw minimum := by
  obtain ⟨version, hversion⟩ : ∃ version, parse raw = .ok version := ⟨_, parse_of_short hshort⟩
  obtain ⟨required, hrequired⟩ : ∃ required, parse minimum = .ok required :=
    ⟨_, parse_of_short hminimum⟩
  simp only [checkVersion.eq_def, reports_iff.mp hraw, hversion, hrequired]
  refine ⟨_, rfl, fun text => ?_⟩
  cases version with
  | none => simp [Outdated, hversion]
  | some v =>
    cases required with
    | none => simp [Outdated, hrequired]
    | some w =>
      have houtdated : Outdated raw minimum ↔ v.Precedes w := by
        simp [Outdated, hversion, hrequired]
      by_cases holder : v.Precedes w
      · simp [houtdated, holder, (older_iff v w).mpr holder, eq_comm]
      · have hnot : v.older w = false := by
          rw [← Bool.not_eq_true, older_iff]
          exact holder
        simp [houtdated, holder, hnot]

/-- **A server is warned about exactly if its version comes before the oldest supported one.**
Unless a number is too long to be read, every answer to the handshake can be checked against every
oldest supported version; what comes of it is the text that the server gives as its version, if it
gives one, and a warning exactly if that has a version, the other has one and the first comes before
the second.  A session makes a note of the text and gives the warning once, and once in its log.
Zeros in front of a number and at the end of a version make no difference, no two versions come
before each other, and a version that comes before another comes before all that the other comes
before. -/
theorem checkVersion_warns_iff (answer : Json) (minimum : String)
    (hreported : ∀ raw, Reports answer raw → Short raw) (hminimum : Short minimum) :
    (∃ check, checkVersion answer minimum = .ok check ∧
        (∀ raw, check.reported = some raw ↔ Reports answer raw) ∧
        (∀ text, check.warning = some text ↔ ∃ raw, Reports answer raw ∧ Outdated raw minimum ∧
          text = oldVersionWarning raw minimum) ∧
        ∀ {τ : Type} (s : Session τ), s.settings.minServerVersion = minimum →
          (Session.noteVersion answer).apply s = (.ok (), { s with
            serverVersion := check.reported
            world := { s.world with
              warnings := s.world.warnings ++ check.warning.toList
              log := s.world.log ++ check.warning.toList.map (⟨.warning, ·⟩) } })) ∧
      (∀ raw raw' minimum', Alike raw raw' → Alike minimum minimum' →
        (∀ s ∈ [raw, raw', minimum, minimum'], Short s) →
          (Outdated raw minimum ↔ Outdated raw' minimum')) ∧
      (∀ raw, Outdated raw minimum → ¬ Outdated minimum raw) ∧
      ∀ raw other, Outdated raw other → Outdated other minimum → Outdated raw minimum := by
  refine ⟨?_, fun raw raw' minimum' => outdated_congr, fun raw => Outdated.asymm,
    fun raw other => Outdated.trans⟩
  have hnoted (check : VersionCheck) (hcheck : checkVersion answer minimum = .ok check) {τ : Type}
      (s : Session τ) (hs : s.settings.minServerVersion = minimum) :
      (Session.noteVersion answer).apply s = (.ok (), { s with
        serverVersion := check.reported
        world := { s.world with
          warnings := s.world.warnings ++ check.warning.toList
          log := s.world.log ++ check.warning.toList.map (⟨.warning, ·⟩) } }) := by
    rw [Session.noteVersion, Action.apply_ofFun, hs, hcheck]
  by_cases hsilent : ∀ raw, ¬ Reports answer raw
  · have hcheck := checkVersion_of_silent hminimum hsilent
    exact ⟨_, hcheck, by simp [hsilent], by simp [hsilent], hnoted _ hcheck⟩
  · -- only one text is reported, and all is told by it
    obtain ⟨raw, hraw⟩ := not_forall_not.mp hsilent
    have honly (other : String) : Reports answer other ↔ other = raw :=
      ⟨fun hother => hother.unique hraw, fun hother => hother ▸ hraw⟩
    obtain ⟨warning, hcheck, hwarning⟩ :=
      checkVersion_of_reports hraw (hreported raw hraw) hminimum
    exact ⟨_, hcheck, by simp [honly, eq_comm], by simp [honly, hwarning], hnoted _ hcheck⟩

/-- An answer with a version that has zeros in front of its numbers and something after it. -/
def oldAnswer : Json :=
  .object [("serverInfo", .object [("name", .string "server"), ("version", .string "v0.00.9-rc")])]

theorem checkVersion_warns_iff_oldAnswer :
    (∀ raw, Reports oldAnswer raw → Short raw) ∧ Short "0.0.27" ∧
      ∃ check, checkVersion oldAnswer "0.0.27" = .ok check ∧
        check.reported = some "v0.00.9-rc" ∧
        check.warning = some (oldVersionWarning "v0.00.9-rc" "0.0.27") := by
  have hraw : Reports oldAnswer "v0.00.9-rc" := reports_iff.mpr rfl
  have hshort : Short "v0.00.9-rc" := by
    intro groups hgroups
    have hthree : groups? "v0.00.9-rc".toList = some [[0], [0, 0], [9]] := by decide +kernel
    rw [hthree, Option.some.injEq] at hgroups
    subst hgroups
    decide
  have hminimum : Short "0.0.27" := by
    intro groups hgroups
    have hthree : groups? "0.0.27".toList = some [[0], [0], [2, 7]] := by decide +kernel
    rw [hthree, Option.some.injEq] at hgroups
    subst hgroups
    decide
  have hreported : ∀ raw, Reports oldAnswer raw → Short raw := fun raw h => h.unique hraw ▸ hshort
  obtain ⟨⟨check, hcheck, hversion, hwarning, -⟩, -⟩ :=
    checkVersion_warns_iff oldAnswer "0.0.27" hreported hminimum
  refine ⟨hreported, hminimum, check, hcheck, (hversion _).mpr hraw, (hwarning _).mpr ?_⟩
  refine ⟨_, hraw, ⟨[0, 0, 9], [0, 0, 27], by decide +kernel, by decide +kernel, 2, ?_, ?_⟩, rfl⟩
  · decide
  · decide

end ClassOrder
