/-!
# Association lists

Values under keys, in the order in which the keys first came.  Putting a value under a key that
is already there keeps the key's place.

## Main definitions

* `Assoc.get?` — the value under a key.
* `Assoc.put` — gives a key a value.
* `Assoc.merge` — puts a list of values one after the other.

## Main results

* `Assoc.get?_put_self`, `Assoc.get?_put_of_ne` — what is under a key after a value was put.
* `Assoc.get?_filter` — the same after the entries of some keys were left out.
* `Assoc.merge_nil` — merging entries with distinct keys into none gives these entries.
-/

namespace ClassOrder.Assoc

variable {κ α : Type} [DecidableEq κ]

/-- The value under a key. -/
def get? (key : κ) : List (κ × α) → Option α
  | [] => none
  | (k, v) :: rest => if k = key then some v else get? key rest

/-- Gives `key` the value `v`: in its old place if it had one, else at the end. -/
def put (key : κ) (v : α) : List (κ × α) → List (κ × α)
  | [] => [(key, v)]
  | (k, w) :: rest => if k = key then (k, v) :: rest else (k, w) :: put key v rest

/-- The entries of `new` put one after the other. -/
def merge (old new : List (κ × α)) : List (κ × α) := new.foldl (fun done e => put e.1 e.2 done) old

@[simp] theorem get?_nil (key : κ) : get? key ([] : List (κ × α)) = none := rfl

@[simp] theorem put_nil (key : κ) (v : α) : put key v [] = [(key, v)] := rfl

@[simp] theorem get?_put_self (key : κ) (v : α) (entries : List (κ × α)) :
    get? key (put key v entries) = some v := by
  induction entries with
  | nil => simp [get?, put]
  | cons e rest ih =>
    by_cases h : e.1 = key
    · simp [get?, put, h]
    · simp [get?, put, h, ih]

theorem get?_put_of_ne {key other : κ} (h : other ≠ key) (v : α) (entries : List (κ × α)) :
    get? other (put key v entries) = get? other entries := by
  induction entries with
  | nil => simp [get?, put, Ne.symm h]
  | cons e rest ih =>
    by_cases hk : e.1 = key
    · simp [get?, put, hk, Ne.symm h]
    · by_cases ho : e.1 = other
      · simp [get?, put, ho, h]
      · simp [get?, put, hk, ho, ih]

theorem mem_of_get? {key : κ} {v : α} {entries : List (κ × α)} (h : get? key entries = some v) :
    (key, v) ∈ entries := by
  induction entries with
  | nil => cases h
  | cons e rest ih =>
    rw [get?] at h
    split at h
    · next hkey =>
      cases h
      exact hkey ▸ List.mem_cons_self
    · exact List.mem_cons_of_mem _ (ih h)

/-- What is under a key when the entries of some keys are left out. -/
theorem get?_filter (keep : κ → Bool) (key : κ) (entries : List (κ × α)) :
    get? key (entries.filter fun e => keep e.1) = if keep key then get? key entries else none := by
  induction entries with
  | nil => simp
  | cons e rest ih =>
    by_cases hk : e.1 = key
    · subst hk
      cases hkeep : keep e.1 with
      | true => simp [hkeep, get?]
      | false => simpa [hkeep] using ih
    · cases hkeep : keep e.1 with
      | true => simpa [hkeep, get?, hk] using ih
      | false => simpa [hkeep, get?, hk] using ih

/-- A key that is not there comes last. -/
theorem put_of_notMem {key : κ} {entries : List (κ × α)} (h : key ∉ entries.map (·.1)) (v : α) :
    put key v entries = entries ++ [(key, v)] := by
  induction entries with
  | nil => rfl
  | cons e rest ih =>
    simp only [List.map_cons, List.mem_cons, not_or] at h
    simp [put, Ne.symm h.1, ih h.2]

theorem merge_eq_append {old new : List (κ × α)} (h : ((old ++ new).map (·.1)).Nodup) :
    merge old new = old ++ new := by
  induction new generalizing old with
  | nil => simp [merge]
  | cons e rest ih =>
    have hkey : e.1 ∉ old.map (·.1) := by
      intro hmem
      rw [List.map_append, List.map_cons, List.nodup_append] at h
      exact h.2.2 e.1 hmem e.1 (by simp) rfl
    have hstep : merge old (e :: rest) = merge (old ++ [e]) rest := by
      simp [merge, put_of_notMem hkey]
    rw [hstep, ih (by simpa using h)]
    simp

/-- Entries with distinct keys stay as they are when they are put one after the other. -/
theorem merge_nil {entries : List (κ × α)} (h : (entries.map (·.1)).Nodup) :
    merge [] entries = entries := by
  rw [merge_eq_append (by simpa using h), List.nil_append]

end ClassOrder.Assoc
