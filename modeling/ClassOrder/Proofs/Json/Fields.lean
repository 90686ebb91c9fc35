import ClassOrder.Json.Value

/-!
# What an object holds

A field of an object counts if it is neither null, false, zero nor empty; one that is absent reads
as null and does not.  What reads a field that it expects to be a list may find something else in
its place.

## Main definitions

* `Json.Holds` — an object with a value under a name.
* `Json.IsScalar` — a value that is made of no others.

## Main results

* `holds_iff` — what is held is what is read, if it is filled.
-/

namespace ClassOrder.Json

variable {name : String} {value value' result : Json}

/-- An object with a value under a name that is neither null, false, zero nor empty. -/
def Holds (result : Json) (name : String) (value : Json) : Prop :=
  ∃ fields, result = .object fields ∧ Assoc.get? name fields = some value ∧ value.isFilled = true

/-- A value that is neither a list, nor a text, nor an object. -/
structure IsScalar (value : Json) : Prop where
  not_array : ∀ items, value ≠ .array items
  not_string : ∀ text, value ≠ .string text
  not_object : ∀ fields, value ≠ .object fields

/-- **What is held is what is read**, if it is filled. -/
theorem holds_iff :
    result.Holds name value ↔ result.fieldOrNull name = value ∧ value.isFilled = true := by
  constructor
  · rintro ⟨fields, rfl, hget, hfilled⟩
    exact ⟨by rw [fieldOrNull, field?, hget, Option.getD_some], hfilled⟩
  · rintro ⟨rfl, hfilled⟩
    cases result with
    | object fields =>
      refine ⟨fields, rfl, ?_, hfilled⟩
      rw [fieldOrNull, field?] at hfilled ⊢
      cases hget : Assoc.get? name fields with
      | none =>
        rw [hget] at hfilled
        cases hfilled
      | some value => rfl
    | _ => cases hfilled

theorem Holds.unique (h : result.Holds name value) (h' : result.Holds name value') :
    value = value' := (holds_iff.mp h).1.symm.trans (holds_iff.mp h').1

end ClassOrder.Json
