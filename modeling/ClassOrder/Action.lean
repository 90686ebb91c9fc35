import ClassOrder.Fault

/-!
# Actions

An action changes a state and either gives a value or fails; what it changed before it failed
stays changed.

## Main definitions

* `Action` — the actions on states of one type.
* `Action.attempt` — an action's outcome as a value.
* `Action.andThen` — an action, and another one after it in any case.

## Main results

* `Action.apply_bind`, `Action.apply_tryCatch`, `Action.apply_andThen` — what an action made of
  others gives, told by what they give.
-/

namespace ClassOrder

/-- An action on states of type `σ` that gives a value of type `α` or fails. -/
abbrev Action (σ τ α : Type) : Type := ExceptT (Fault τ) (StateM σ) α

namespace Action

variable {σ τ α β : Type}

/-- The action with a given effect. -/
def ofFun (f : σ → Except (Fault τ) α × σ) : Action σ τ α := ExceptT.mk f

/-- What an action gives in a state, and the state afterwards. -/
def apply (a : Action σ τ α) (s : σ) : Except (Fault τ) α × σ := ExceptT.run a s

/-- The action with a given outcome, which leaves the state as it is. -/
def ofExcept (r : Except (Fault τ) α) : Action σ τ α := ofFun fun s => (r, s)

/-- An action's outcome as a value. -/
def attempt (a : Action σ τ α) : Action σ τ (Except (Fault τ) α) :=
  ofFun fun s =>
    let (r, s) := a.apply s
    (.ok r, s)

/-- An action, and another one after it whether it fails or not; a fault of the second one hides
one of the first. -/
def andThen (a : Action σ τ α) (after : Action σ τ Unit) : Action σ τ α := do
  let outcome ← a.attempt
  after
  ofExcept outcome

/-! ### What the parts of an action do -/

@[simp] theorem apply_ofFun (f : σ → Except (Fault τ) α × σ) (s : σ) :
    (ofFun f).apply s = f s := rfl

@[simp] theorem apply_ofExcept (r : Except (Fault τ) α) (s : σ) :
    (ofExcept r).apply s = (r, s) := rfl

@[simp] theorem apply_pure (a : α) (s : σ) :
    (pure a : Action σ τ α).apply s = (.ok a, s) := rfl

@[simp] theorem apply_throw (fault : Fault τ) (s : σ) :
    (throw fault : Action σ τ α).apply s = (.error fault, s) := rfl

@[simp] theorem apply_get (s : σ) : (get : Action σ τ σ).apply s = (.ok s, s) := rfl

@[simp] theorem apply_modify (f : σ → σ) (s : σ) :
    (modify f : Action σ τ Unit).apply s = (.ok (), f s) := rfl

theorem apply_bind (a : Action σ τ α) (f : α → Action σ τ β) (s : σ) :
    (a >>= f).apply s =
      match a.apply s with
      | (.ok x, s) => (f x).apply s
      | (.error fault, s) => (.error fault, s) := by
  change ExceptT.bindCont f (a.apply s).1 (a.apply s).2 = _
  rcases a.apply s with ⟨_ | _, _⟩ <;> rfl

/-- An action made of two gives a value exactly if both parts do. -/
theorem apply_bind_eq_ok {a : Action σ τ α} {f : α → Action σ τ β} {s t : σ} {y : β} :
    (a >>= f).apply s = (.ok y, t) ↔
      ∃ x u, a.apply s = (.ok x, u) ∧ (f x).apply u = (.ok y, t) := by
  rw [apply_bind]
  rcases a.apply s with ⟨fault | x, u⟩ <;> simp [and_assoc]

theorem apply_of_isOk {a : Action σ τ Unit} {s : σ} (h : (a.apply s).1.isOk = true) :
    a.apply s = (.ok (), (a.apply s).2) := by
  generalize a.apply s = ran at h
  obtain ⟨fault | ⟨⟩, t⟩ := ran
  · cases h
  · rfl

/-- What gives its value out in another form leaves the same. -/
theorem snd_apply_bind_pure (a : Action σ τ α) (f : α → β) (s : σ) :
    ((do return f (← a) : Action σ τ β).apply s).2 = (a.apply s).2 := by
  rw [apply_bind]
  rcases a.apply s with ⟨_ | _, _⟩ <;> rfl

theorem apply_tryCatch (a : Action σ τ α) (handle : Fault τ → Action σ τ α) (s : σ) :
    (tryCatch a handle).apply s =
      match a.apply s with
      | (.ok x, s) => (.ok x, s)
      | (.error fault, s) => (handle fault).apply s := by
  simp only [apply, tryCatch, tryCatchThe, MonadExceptOf.tryCatch, ExceptT.tryCatch, ExceptT.run,
    ExceptT.mk, bind, StateT.bind]
  rcases a s with ⟨_ | _, _⟩ <;> rfl

@[simp] theorem apply_attempt (a : Action σ τ α) (s : σ) :
    a.attempt.apply s = (.ok (a.apply s).1, (a.apply s).2) := rfl

theorem apply_andThen (a : Action σ τ α) (after : Action σ τ Unit) (s : σ) :
    (a.andThen after).apply s =
      match after.apply (a.apply s).2 with
      | (.ok (), t) => ((a.apply s).1, t)
      | (.error fault, t) => (.error fault, t) := by
  simp only [andThen, apply_bind, apply_attempt]
  rcases after.apply (a.apply s).2 with ⟨_ | _, _⟩ <;> rfl

end Action

end ClassOrder
