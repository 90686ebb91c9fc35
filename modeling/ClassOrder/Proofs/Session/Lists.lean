import ClassOrder.Proofs.Json.Fields
import ClassOrder.Session.Calls
import Mathlib.Tactic.ByContra

/-!
# What a result says of an order

A result of the server may be any value.  It says how a class list is ordered if it holds no error
but a list, the first member of which is a text.  If something else than a list is in its place, the
result is misread: a text is taken for a list of its characters, and anything else ends in a fault
that is none of the session's own.

## Main definitions

* `Json.Lists` — a result with a list of class lists.
* `Json.Mislists` — a result with something else in the place of the class lists.
* `Json.BeginsWith` — a result whose first character is taken for a class list.
* `Json.Reads` — a result out of which a class list is read, rightly or not.

## Main results

* `sortedClasses_of_refused`, `sortedClasses_of_listed`, `sortedClasses_of_unlisted`,
  `sortedClasses_of_mislists` — what is read out of a result.
* `sortedClasses_eq_some_iff` — **a class list is read out of a result that lists it or begins with
  it.**
-/

namespace ClassOrder

variable {τ : Type}

namespace Json

/-- A result that holds no error but a list, and `sorted` is the first member, a text, with one
space between classes. -/
def Lists (result : Json) (sorted : String) : Prop :=
  (∀ error, ¬ result.Holds "error" error) ∧
    ∃ list rest, result.Holds "classLists" (.array (.string list :: rest)) ∧
      sorted = Text.normalize list

/-- A result that holds no error, and something else than a list in the place of the class
lists. -/
def Mislists (result : Json) : Prop :=
  (∀ error, ¬ result.Holds "error" error) ∧
    ∃ value, result.Holds "classLists" value ∧ ∀ items, value ≠ .array items

/-- A result that holds no error but a text in the place of the class lists, and `sorted` is its
first character, or nothing if that is blank. -/
def BeginsWith (result : Json) (sorted : String) : Prop :=
  (∀ error, ¬ result.Holds "error" error) ∧
    ∃ c rest, result.Holds "classLists" (.string (String.ofList (c :: rest))) ∧
      sorted = Text.normalize (String.singleton c)

/-- A result out of which a class list is read, rightly or not. -/
def Reads (result : Json) (sorted : String) : Prop :=
  result.Lists sorted ∨ result.BeginsWith sorted

end Json

open Json

variable {result error : Json} {sorted sorted' : String}

theorem Json.Mislists.not_lists (h : result.Mislists) : ¬ result.Lists sorted := by
  obtain ⟨-, value, hvalue, hother⟩ := h
  rintro ⟨-, list, rest, hlist, -⟩
  exact hother _ (hvalue.unique hlist)

theorem Json.BeginsWith.mislists (h : result.BeginsWith sorted) : result.Mislists := by
  obtain ⟨hnone, c, rest, hvalue, -⟩ := h
  exact ⟨hnone, _, hvalue, fun _ => nofun⟩

/-- What begins with a class list lists none. -/
theorem Json.BeginsWith.not_lists (h : result.BeginsWith sorted) : ¬ result.Lists sorted' :=
  h.mislists.not_lists

theorem heldError?_eq_some : heldError? result = some error ↔ result.Holds "error" error := by
  rw [holds_iff]
  cases result with
  | object fields =>
    rw [heldError?]
    split
    · next hfilled =>
      exact ⟨fun h => by cases h; exact ⟨rfl, hfilled⟩, fun h => congrArg some h.1⟩
    · next hfilled => exact ⟨nofun, fun h => absurd (h.1 ▸ h.2) hfilled⟩
  | _ => exact ⟨nofun, fun h => by rw [← h.1] at h; cases h.2⟩

/-- A result that holds an error is refused. -/
theorem sortedClasses_of_refused (h : result.Holds "error" error) :
    (sortedClasses result : Except (Fault τ) (Option String)) =
      .error (.reported "sorting classes" error) := by
  rw [sortedClasses, heldError?_eq_some.mpr h]

theorem sortedClasses_of_not_refused (h : ∀ error, ¬ result.Holds "error" error) :
    (sortedClasses result : Except (Fault τ) (Option String)) =
      match firstList? (result.fieldOrNull "classLists") with
      | .error fault => .error fault
      | .ok list => .ok (list.map Text.normalize) := by
  unfold sortedClasses
  split
  · next error heq => exact absurd (heldError?_eq_some.mp heq) (h error)
  · rfl

/-- A list of class lists says what its first one is. -/
theorem sortedClasses_of_listed (h : ∀ error, ¬ result.Holds "error" error) {list : String}
    {rest : List Json} (hlist : result.Holds "classLists" (.array (.string list :: rest))) :
    (sortedClasses result : Except (Fault τ) (Option String)) =
      .ok (some (Text.normalize list)) := by
  rw [sortedClasses_of_not_refused h, (holds_iff.mp hlist).1]
  rfl

/-- Without a list of class lists, and with nothing else in its place, there is no answer. -/
theorem sortedClasses_of_unlisted (h : ∀ error, ¬ result.Holds "error" error)
    (hlist : ∀ list rest, ¬ result.Holds "classLists" (.array (.string list :: rest)))
    (hplace : ¬ result.Mislists) :
    (sortedClasses result : Except (Fault τ) (Option String)) = .ok none := by
  have hfirst : firstList? (τ := τ) (result.fieldOrNull "classLists") = .ok none := by
    rw [firstList?.eq_def]
    by_cases hfilled : (result.fieldOrNull "classLists").isFilled = true
    · have harray : ∃ items, result.fieldOrNull "classLists" = .array items := by
        by_contra hnot
        exact hplace ⟨h, _, holds_iff.mpr ⟨rfl, hfilled⟩, not_exists.mp hnot⟩
      obtain ⟨items, hitems⟩ := harray
      rw [if_pos hfilled]
      split
      · -- a list whose first member is a text
        next list rest heq =>
        exact absurd (holds_iff.mpr ⟨heq, heq ▸ hfilled⟩) (hlist list rest)
      · next heq => cases hitems.symm.trans heq
      · rfl
      · next heq => cases hitems.symm.trans heq
      · next hother _ => exact absurd hitems (hother items)
    · rw [if_neg hfilled]
  rw [sortedClasses_of_not_refused h, hfirst]
  rfl

/-- What is made of a result that has something else in the place of the list. -/
theorem sortedClasses_of_mislists {value : Json} (h : ∀ error, ¬ result.Holds "error" error)
    (hvalue : result.Holds "classLists" value) :
    (∀ c rest, value = .string (String.ofList (c :: rest)) →
      (sortedClasses result : Except (Fault τ) (Option String)) =
        .ok (some (Text.normalize (String.singleton c)))) ∧
    (∀ fields, value = .object fields →
      (sortedClasses result : Except (Fault τ) (Option String)) = .error .missingKey) ∧
    (value.IsScalar →
      (sortedClasses result : Except (Fault τ) (Option String)) = .error .wrongType) := by
  obtain ⟨hfield, hfilled⟩ := holds_iff.mp hvalue
  rw [sortedClasses_of_not_refused h, hfield, firstList?.eq_def, if_pos hfilled]
  refine ⟨?_, ?_, ?_⟩
  · rintro c rest rfl
    simp
  · rintro fields rfl
    rfl
  · intro hscalar
    cases value with
    | string text => exact absurd rfl (hscalar.not_string text)
    | object fields => exact absurd rfl (hscalar.not_object fields)
    | array items => exact absurd rfl (hscalar.not_array items)
    | null => cases hfilled
    | bool b => rfl
    | int n => rfl
    | float x => rfl

/-- A text that is held is not empty. -/
theorem Json.Holds.exists_cons {name text : String} (h : result.Holds name (.string text)) :
    ∃ c rest, text = String.ofList (c :: rest) := by
  cases hchars : text.toList with
  | nil =>
    obtain rfl : text = "" := String.toList_inj.mp hchars
    cases (holds_iff.mp h).2
  | cons c rest => exact ⟨c, rest, by rw [← hchars, String.ofList_toList]⟩

/-- **A class list is read out of a result that lists it or begins with it**, and out of no
other. -/
theorem sortedClasses_eq_some_iff :
    (sortedClasses result : Except (Fault τ) (Option String)) = .ok (some sorted) ↔
      result.Reads sorted := by
  constructor
  · intro hread
    have hnone (error : Json) : ¬ result.Holds "error" error := by
      intro h
      rw [sortedClasses_of_refused h] at hread
      cases hread
    by_cases hlist : ∃ list rest, result.Holds "classLists" (.array (.string list :: rest))
    · obtain ⟨list, rest, hlist⟩ := hlist
      rw [sortedClasses_of_listed hnone hlist] at hread
      cases hread
      exact .inl ⟨hnone, list, rest, hlist, rfl⟩
    · by_cases hplace : result.Mislists
      · obtain ⟨-, value, hvalue, harray⟩ := hplace
        obtain ⟨htext, hobject, hscalar⟩ := sortedClasses_of_mislists (τ := τ) hnone hvalue
        cases value with
        | string text =>
          obtain ⟨c, rest, rfl⟩ := hvalue.exists_cons
          rw [htext c rest rfl] at hread
          cases hread
          exact .inr ⟨hnone, c, rest, hvalue, rfl⟩
        | object fields =>
          rw [hobject fields rfl] at hread
          cases hread
        | array items => exact absurd rfl (harray items)
        | _ =>
          rw [hscalar ⟨by simp, by simp, by simp⟩] at hread
          cases hread
      · rw [sortedClasses_of_unlisted hnone (by simpa using hlist) hplace] at hread
        cases hread
  · rintro (⟨hnone, list, rest, hlist, rfl⟩ | ⟨hnone, c, rest, hvalue, rfl⟩)
    · exact sortedClasses_of_listed hnone hlist
    · exact (sortedClasses_of_mislists hnone hvalue).1 c rest rfl

end ClassOrder
