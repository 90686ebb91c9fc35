import ClassOrder.Proofs.Number.Compared
import ClassOrder.Settings.Environment
import ClassOrder.Settings.Fields

/-!
# Positive settings

Settings are checked once, when they are made, and what waits or counts time relies on that from
then on: every number of seconds is positive, and a command has a word.  The check turns down what
is at most zero.  That is the same as what is not positive for every number but one, the double
that is no number, which compares with nothing: it is not positive and passes.

Settings are made of the fields of an object, over the standard ones or over those that variables
give.  Every way of making them refuses by a fault over the settings, or else gives settings with
the numbers that were asked for.

## Main definitions

* `Amount.notNumber` — the double that is no number, as a number of seconds.
* `Refuses` — a check that turns down some values by a fault over the settings.
* `GivenSettings.IsTyped` — an object with fields of the kinds that the settings have.
* `GivenSettings.construct` — settings made of the fields of an object over others.
* `GivenSettings.IsBase` — settings over which others are made.
* `Validated` — a fault over the settings, or settings of which every number of seconds has a
  property and the command a word.

## Main results

* `Amount.zero_lt_real_iff` — which doubles are positive.
* `Amount.not_le_zero_iff` — **what the check lets through is positive or no number.**
* `GivenSettings.construct_refuses` — what is turned down, and what comes of the rest.
* `construction_validated_iff` — **settings are positive, except that a number of seconds may be
  no number.**
-/

namespace ClassOrder

variable {τ α β : Type}

/-! ### Positive numbers of seconds -/

namespace Amount

/-- The double that is no number, as a number of seconds. -/
def notNumber : Amount := .real (0.0 / 0.0)

theorem zero_lt_whole_iff (n : ℤ) : (0 : Amount) < .whole n ↔ 0 < n := decide_eq_true_iff

/-- Which doubles are positive: one of the infinities, and the positive rational numbers. -/
theorem zero_lt_real_iff (x : Float) :
    (0 : Amount) < .real x ↔ x = 1.0 / 0.0 ∨ ∃ q, Number.rational? x = some q ∧ 0 < q := by
  show (Number.compareWhole? 0 x == some .lt) = true ↔ _
  rcases Number.kinds x with ⟨q, hq⟩ | rfl | rfl | rfl
  · have hfinite : x ≠ 1.0 / 0.0 := by
      rintro rfl
      cases hq
    simp [Number.compareWhole?_of_rational hq, compare_lt_iff_lt, hq, hfinite]
  · exact iff_of_true rfl (.inl rfl)
  · refine iff_of_false (by decide) ?_
    rintro (heq | ⟨q, hq, -⟩)
    · exact absurd (congrArg Float.toBits heq) (by decide)
    · cases hq
  · refine iff_of_false (by decide) ?_
    rintro (heq | ⟨q, hq, -⟩)
    · exact absurd (congrArg Float.toBits heq) (by decide)
    · cases hq

theorem not_zero_lt_notNumber : ¬ (0 : Amount) < notNumber := by decide

/-- **What is not at most zero is positive or no number.** -/
theorem not_le_zero_iff (a : Amount) : ¬ a ≤ 0 ↔ 0 < a ∨ a = notNumber := by
  cases a with
  | whole n =>
    show ¬ decide (n ≤ 0) = true ↔ decide (0 < n) = true ∨ _
    simp [notNumber]
  | real x =>
    show ¬ (Number.compareWhole? 0 x).any (· != .lt) = true ↔
      (Number.compareWhole? 0 x == some .lt) = true ∨ _
    rcases hcompare : Number.compareWhole? 0 x with _ | order
    · simp [(Number.compareWhole?_eq_none_iff 0).mp hcompare, notNumber]
    · have hne : x ≠ 0.0 / 0.0 := fun h => by
        rw [(Number.compareWhole?_eq_none_iff 0).mpr h] at hcompare
        cases hcompare
      simp [notNumber, hne]

end Amount

/-! ### Checks -/

/-- A check turns down what is wrong by a fault over the settings, and what comes of the rest has
a property. -/
def Refuses (wrong : Prop) (P : α → Prop) : Except (Fault τ) α → Prop
  | .ok x => ¬ wrong ∧ P x
  | .error fault => wrong ∧ fault.kind = .configuration

namespace Refuses

variable {wrong wrong' : Prop} {P : α → Prop} {Q : β → Prop} {outcome : Except (Fault τ) α}

/-- Two checks in a row turn down what either of them does. -/
theorem bind {f : α → Except (Fault τ) β} (h : Refuses wrong P outcome)
    (hf : ∀ x, P x → Refuses wrong' Q (f x)) : Refuses (wrong ∨ wrong') Q (outcome >>= f) := by
  cases outcome with
  | error fault => exact ⟨.inl h.1, h.2⟩
  | ok x =>
    have hnext := hf x h.2
    show Refuses _ Q (f x)
    cases hx : f x with
    | error fault => rw [hx] at hnext; exact ⟨.inr hnext.1, hnext.2⟩
    | ok y => rw [hx] at hnext; exact ⟨not_or.mpr ⟨h.1, hnext.1⟩, hnext.2⟩

theorem of_iff (h : wrong ↔ wrong') (hcheck : Refuses wrong P outcome) :
    Refuses wrong' P outcome := propext h ▸ hcheck

theorem pure {x : α} (h : P x) : Refuses False P (.ok x : Except (Fault τ) α) := ⟨id, h⟩

end Refuses

/-- The numbers of seconds of settings. -/
def Settings.times (s : Settings τ) : List τ :=
  [s.cacheTtl, s.requestTimeout, s.readTimeout, s.drainTimeout, s.shutdownTimeout]

namespace GivenSettings

variable {fields : List (String × Json)} {g : GivenSettings}

/-- The numbers of seconds as they are given. -/
def times (g : GivenSettings) : List Amount := g.amounts.map (·.2)

/-- The check turns down a number of seconds that is at most zero and a command without a word,
and leaves the rest as it is. -/
theorem check_refuses (g : GivenSettings) :
    Refuses ((∃ t ∈ g.times, t ≤ 0) ∨ g.serverCommand = some [])
      (fun s => s.times = g.times ∧ s.serverCommand = g.serverCommand) (g.check (τ := τ)) := by
  rw [check, fault?]
  cases hfind : g.amounts.find? (·.2.isRefused) with
  | some found =>
    have hmem := List.mem_of_find?_eq_some hfind
    have hrefused := List.find?_some hfind
    exact ⟨.inl ⟨found.2, List.mem_map_of_mem hmem, hrefused⟩, rfl⟩
  | none =>
    have hpass : ¬ ∃ t ∈ g.times, t ≤ 0 := by
      rintro ⟨t, ht, hle⟩
      obtain ⟨entry, hentry, rfl⟩ := List.mem_map.mp ht
      exact List.find?_eq_none.mp hfind entry hentry hle
    by_cases hcommand : g.serverCommand = some []
    · rw [if_pos hcommand]
      exact ⟨.inr hcommand, rfl⟩
    · rw [if_neg hcommand]
      exact ⟨not_or.mpr ⟨hpass, hcommand⟩, rfl, rfl⟩

/-! ### Fields -/

/-- The names of the numbers of seconds. -/
def timeNames : List String :=
  ["cache_ttl", "request_timeout", "read_timeout", "drain_timeout", "shutdown_timeout"]

/-- An object that names settings only, with a number for each number of seconds that it gives,
and no command or what can be one, of which a list holds texts only. -/
structure IsTyped (fields : List (String × Json)) : Prop where
  named : ∀ f ∈ fields, f.1 ∈ settingNames
  number : ∀ name ∈ timeNames, ∀ value, (Json.object fields).field? name = some value →
    (amountOf? value).isSome
  command : ∀ value, (Json.object fields).field? "server_command" = some value →
    value = .null ∨ (commandOf? value).isSome

/-- The number of seconds that an object gives under a name, or else the one that was there. -/
def timeOver (fields : List (String × Json)) (name : String) (old : Amount) : Amount :=
  (((Json.object fields).field? name).bind amountOf?).getD old

/-- The numbers of seconds that come of the fields of an object over settings. -/
def timesOver (fields : List (String × Json)) (g : GivenSettings) : List Amount :=
  g.amounts.map fun entry => timeOver fields entry.1 entry.2

/-- The command that comes of the fields of an object over settings. -/
def commandOver (fields : List (String × Json)) (g : GivenSettings) : Option (List String) :=
  match (Json.object fields).field? "server_command" with
  | some value => commandOf? value
  | none => g.serverCommand

theorem amountField_refuses (hfields : IsTyped fields) {name : String} (hname : name ∈ timeNames)
    (old : Amount) :
    Refuses (timeOver fields name old ≤ 0) (· = timeOver fields name old)
      (amountField (.object fields) name old : Except (Fault τ) Amount) := by
  have hread := hfields.number name hname
  -- how a number that is read or left as it was is looked at
  have hlook (x : Amount) : Refuses (x ≤ 0) (· = x)
      (if x.isRefused then .error (.notPositive name x) else .ok x : Except (Fault τ) Amount) := by
    by_cases hx : x.isRefused = true
    · rw [if_pos hx]
      exact ⟨hx, rfl⟩
    · rw [if_neg hx]
      exact ⟨hx, rfl⟩
  rw [amountField, timeOver]
  cases hvalue : (Json.object fields).field? name with
  | none => exact hlook old
  | some value =>
    obtain ⟨x, hx⟩ := Option.isSome_iff_exists.mp (hread value hvalue)
    rw [Option.bind_some, hx, Option.getD_some]
    split
    · next h => cases h
    · next h =>
      cases h
      obtain rfl : Amount.whole 0 = x := Option.some.inj hx
      exact ⟨show (Amount.whole 0).isRefused = true by decide, rfl⟩
    · next h =>
      cases h
      simp only [hx]
      exact hlook x

theorem commandField_refuses (hfields : IsTyped fields) (g : GivenSettings) :
    Refuses False (· = commandOver fields g)
      (commandField (.object fields) g.serverCommand :
        Except (Fault τ) (Option (List String))) := by
  have hread := hfields.command
  rw [commandField, commandOver]
  cases hvalue : (Json.object fields).field? "server_command" with
  | none => exact .pure rfl
  | some value =>
    obtain rfl | hwords := hread value hvalue
    · exact .pure rfl
    · obtain ⟨words, hwords⟩ := Option.isSome_iff_exists.mp hwords
      cases value with
      | null => cases hwords
      | _ =>
        simp only [hwords]
        exact .pure rfl

/-- Fields of the right kinds are turned down over a number of seconds that is at most zero, and
put into their places else. -/
theorem withFields_refuses (hfields : IsTyped fields) (g : GivenSettings) :
    Refuses (∃ t ∈ timesOver fields g, t ≤ 0)
      (fun g' => g'.times = timesOver fields g ∧ g'.serverCommand = commandOver fields g)
      (g.withFields fields : Except (Fault τ) GivenSettings) := by
  have hnames : (fields.any fun f => !settingNames.contains f.1) = false := by
    simpa using hfields.named
  have hlook (name : String) (hname : name ∈ timeNames) (old : Amount) :=
    amountField_refuses (τ := τ) hfields hname old
  simp only [withFields, hnames, Bool.false_eq_true, if_false]
  refine .of_iff ?_ <|
    (hlook "cache_ttl" (by decide) _).bind fun _ hcache =>
    (hlook "request_timeout" (by decide) _).bind fun _ hrequest =>
    (hlook "read_timeout" (by decide) _).bind fun _ hreading =>
    (hlook "drain_timeout" (by decide) _).bind fun _ hdrain =>
    (hlook "shutdown_timeout" (by decide) _).bind fun _ hshutdown =>
    (commandField_refuses hfields g).bind fun _ hcommand =>
    Refuses.pure ⟨?_, hcommand⟩
  · simp [timesOver, amounts]
  · subst hcache hrequest hreading hdrain hshutdown
    rfl

/-- The settings of a session, made of the fields of an object over others. -/
def construct (fields : List (String × Json)) (g : GivenSettings) :
    Except (Fault τ) (Settings Amount) := do
  (← g.withFields fields).check

/-- **What is turned down: a number of seconds that is at most zero, and a command without a
word.** -/
theorem construct_refuses (hfields : IsTyped fields) (g : GivenSettings) :
    Refuses ((∃ t ∈ timesOver fields g, t ≤ 0) ∨ commandOver fields g = some [])
      (fun s => s.times = timesOver fields g ∧ s.serverCommand = commandOver fields g)
      (construct fields g : Except (Fault τ) (Settings Amount)) := by
  have hcheck (g' : GivenSettings)
      (hg' : g'.times = timesOver fields g ∧ g'.serverCommand = commandOver fields g) :
      Refuses ((∃ t ∈ timesOver fields g, t ≤ 0) ∨ commandOver fields g = some [])
        (fun s => s.times = timesOver fields g ∧ s.serverCommand = commandOver fields g)
        (g'.check (τ := τ)) := by
    rw [← hg'.1, ← hg'.2]
    exact check_refuses g'
  exact .of_iff ⟨fun h => h.elim .inl id, .inr⟩ ((withFields_refuses hfields g).bind hcheck)

/-! ### Variables -/

theorem amountVariable_refuses (h : Host) (name : String) :
    Refuses (∃ s, h.valueOf? name = some s ∧ Number.double? s = none)
      (· = ((h.valueOf? name).bind Number.double?).map Amount.real)
      (amountVariable h name : Except (Fault τ) (Option Amount)) := by
  rw [amountVariable]
  cases hvalue : h.valueOf? name with
  | none => exact ⟨by rintro ⟨s, ⟨⟩, -⟩, rfl⟩
  | some s =>
    simp only [Option.bind_some]
    cases hnumber : Number.double? s with
    | none => exact ⟨⟨s, rfl, hnumber⟩, rfl⟩
    | some x =>
      refine ⟨?_, rfl⟩
      rintro ⟨s', hs', hnone⟩
      cases hs'
      rw [hnumber] at hnone
      cases hnone

/-- The number of seconds that a variable gives, or else the standard one. -/
def timeFrom (h : Host) (name : String) (standard : Amount) : Amount :=
  (((h.valueOf? name).bind Number.double?).map Amount.real).getD standard

/-- Variables are turned down over one that should hold a number and does not. -/
theorem settingsFromVariables_refuses {h : Host} {command : Option (List String)}
    (hcommand : commandVariable (τ := τ) h = .ok command) :
    Refuses
      (∃ name ∈ ["TAILWIND_SORTER_CACHE_TTL", "TAILWIND_SORTER_REQUEST_TIMEOUT"],
        ∃ s, h.valueOf? name = some s ∧ Number.double? s = none)
      (fun g => g.serverCommand = command ∧
        g.times = [timeFrom h "TAILWIND_SORTER_CACHE_TTL" (.real 5.0),
          timeFrom h "TAILWIND_SORTER_REQUEST_TIMEOUT" (.real 5.0), .real 5.0, .real 0.5, .real 2.0])
      (settingsFromVariables h : Except (Fault τ) GivenSettings) := by
  rw [settingsFromVariables, hcommand]
  refine .of_iff ?_ <|
    (amountVariable_refuses h "TAILWIND_SORTER_CACHE_TTL").bind fun _ hcache =>
    (amountVariable_refuses h "TAILWIND_SORTER_REQUEST_TIMEOUT").bind fun _ hrequest =>
    Refuses.pure ⟨rfl, ?_⟩
  · simp
  · subst hcache hrequest
    rfl

/-- Settings over which others are made: the standard ones, or what variables give. -/
inductive IsBase : Except (Fault τ) GivenSettings → Prop where
  | standard : IsBase (.ok {})
  | ofVariables {h : Host} {command : Option (List String)} :
    commandVariable (τ := τ) h = .ok command → IsBase (settingsFromVariables h)

theorem IsBase.kind_of_error {base : Except (Fault τ) GivenSettings} (hbase : IsBase base)
    {fault : Fault τ} (h : base = .error fault) : fault.kind = .configuration := by
  cases hbase with
  | standard => cases h
  | ofVariables hcommand =>
    have hcheck := settingsFromVariables_refuses hcommand
    rw [h] at hcheck
    exact hcheck.2

end GivenSettings

/-! ### What is validated -/

/-- Settings are refused by a fault over them, or every number of seconds has a property and the
command, if there is one, has a word. -/
def Validated (P : Amount → Prop) : Except (Fault τ) (Settings Amount) → Prop
  | .ok s => (∀ t ∈ s.times, P t) ∧ s.serverCommand ≠ some []
  | .error fault => fault.kind = .configuration

theorem Refuses.validated_iff {wrong : Prop} {times : List Amount}
    {command : Option (List String)} {outcome : Except (Fault τ) (Settings Amount)}
    (h : Refuses (wrong ∨ command = some [])
      (fun s => s.times = times ∧ s.serverCommand = command) outcome) (P : Amount → Prop) :
    Validated P outcome ↔ (¬ wrong → command ≠ some [] → ∀ t ∈ times, P t) := by
  cases outcome with
  | error fault => exact iff_of_true h.2 fun hpass hword => absurd h.1 (not_or.mpr ⟨hpass, hword⟩)
  | ok s =>
    obtain ⟨hpass, rfl, rfl⟩ := h
    rw [not_or] at hpass
    exact ⟨fun hvalid _ _ => hvalid.1, fun htimes => ⟨htimes hpass.1 hpass.2, hpass.2⟩⟩

open GivenSettings in
/-- **Settings are positive, except that a number of seconds may be no number.**  Settings made of
fields of the right kinds, over the standard ones or over those of variables, are refused by a
fault over them, or every number of seconds is positive or no number and the command has a word.
So they are positive if and only if no number of seconds that is used is no number, where nothing
else is wrong with them. -/
theorem construction_validated_iff {fields : List (String × Json)} (hfields : IsTyped fields)
    {base : Except (Fault τ) GivenSettings} (hbase : IsBase base) :
    Validated (fun t => 0 < t ∨ t = .notNumber) (base >>= construct fields) ∧
      (Validated (0 < ·) (base >>= construct fields) ↔
        ∀ g, base = .ok g → (∀ t ∈ timesOver fields g, ¬ t ≤ 0) →
          commandOver fields g ≠ some [] → Amount.notNumber ∉ timesOver fields g) := by
  cases hresult : base with
  | error fault =>
    have hkind := hbase.kind_of_error hresult
    exact ⟨hkind, iff_of_true hkind fun _ => nofun⟩
  | ok g =>
    have hcheck := construct_refuses (τ := τ) hfields g
    have hpasses : (¬ ∃ t ∈ timesOver fields g, t ≤ 0) ↔ ∀ t ∈ timesOver fields g, ¬ t ≤ 0 := by
      simp
    constructor
    · refine (hcheck.validated_iff _).mpr fun hpass _ t ht => ?_
      exact (Amount.not_le_zero_iff t).mp (hpasses.mp hpass t ht)
    · refine (hcheck.validated_iff _).trans ?_
      rw [hpasses]
      constructor
      · rintro hpositive g' hg' hpass hword hmem
        cases hg'
        exact Amount.not_zero_lt_notNumber (hpositive hpass hword _ hmem)
      · intro hnumbers hpass hword t ht
        refine ((Amount.not_le_zero_iff t).mp (hpass t ht)).resolve_right ?_
        rintro rfl
        exact hnumbers g rfl hpass hword ht

/-- A host with a variable that names the double that is no number. -/
def unnumberedHost : Host := { environment := [("TAILWIND_SORTER_CACHE_TTL", "nan")] }

open GivenSettings in
/-- The variable passes the check, and the settings are not positive. -/
theorem construction_validated_iff_unnumberedHost :
    IsTyped [] ∧ IsBase (τ := Amount) (settingsFromVariables unnumberedHost) ∧
      ¬ Validated (0 < ·)
        ((settingsFromVariables unnumberedHost : Except (Fault Amount) _) >>= construct []) := by
  have htyped : IsTyped [] := ⟨nofun, fun _ _ _ => nofun, fun _ => nofun⟩
  have hcommand : commandVariable (τ := Amount) unnumberedHost = .ok none := rfl
  have hbase : IsBase (τ := Amount) (settingsFromVariables unnumberedHost) :=
    .ofVariables hcommand
  refine ⟨htyped, hbase, fun hvalid => ?_⟩
  have hnumbers := (construction_validated_iff htyped hbase).2.mp hvalid
  exact hnumbers _ rfl (by decide) nofun (.head _)

end ClassOrder
