import ClassOrder.Action

/-!
# Actions that do not see a part of the state

A part of the state may be forgotten.  An action is *blind* to it if it does the same in any two
states that differ in nothing else: it has the same outcome, and what it leads to differs in that
part alone.  What is made of blind actions is blind, as long as it does not look at that part in
between.

## Main definitions

* `Action.Blind` — an action that does not see what is forgotten.

## Main results

* `Blind.of_forget` — it is enough to compare a state with the one in which the part is forgotten.
* `Blind.bind`, `Blind.get_bind`, `Blind.tryCatch`, `Blind.andThen` — the rules for the parts of an
  action.
-/

namespace ClassOrder.Action

variable {σ τ α β : Type} {forget : σ → σ}

/-- In two states that are the same once a part is forgotten, the action has the same outcome and
leads to two such states. -/
def Blind (forget : σ → σ) (a : Action σ τ α) : Prop :=
  ∀ s t, forget s = forget t → (a.apply s).1 = (a.apply t).1 ∧
    forget (a.apply s).2 = forget (a.apply t).2

namespace Blind

variable {a : Action σ τ α}

/-- It is enough to compare a state with the one in which the part is forgotten, and what the
action leads to there up to what is forgotten again. -/
theorem of_forget (again : σ → σ) (h : ∀ s, (a.apply s).1 = (a.apply (forget s)).1 ∧
    forget (a.apply s).2 = again (a.apply (forget s)).2) : Blind forget a := by
  intro s t hst
  obtain ⟨hs, hs'⟩ := h s
  obtain ⟨ht, ht'⟩ := h t
  rw [hst] at hs hs'
  exact ⟨hs.trans ht.symm, hs'.trans ht'.symm⟩

/-- The outcome of a blind action in such states, and what it leads to. -/
theorem cases (h : Blind forget a) {s t : σ} (hst : forget s = forget t) :
    (∃ x u v, a.apply s = (.ok x, u) ∧ a.apply t = (.ok x, v) ∧ forget u = forget v) ∨
      ∃ fault u v, a.apply s = (.error fault, u) ∧ a.apply t = (.error fault, v) ∧
        forget u = forget v := by
  have hsame := h s t hst
  generalize a.apply s = ran at hsame ⊢
  generalize a.apply t = ran' at hsame ⊢
  obtain ⟨outcome, u⟩ := ran
  obtain ⟨outcome', v⟩ := ran'
  obtain ⟨rfl, hleft⟩ : outcome = outcome' ∧ forget u = forget v := hsame
  cases outcome with
  | error fault => exact .inr ⟨fault, u, v, rfl, rfl, hleft⟩
  | ok x => exact .inl ⟨x, u, v, rfl, rfl, hleft⟩

protected theorem pure (x : α) : Blind forget (pure x : Action σ τ α) :=
  fun _ _ hst => ⟨rfl, hst⟩

protected theorem throw (fault : Fault τ) : Blind forget (throw fault : Action σ τ α) :=
  fun _ _ hst => ⟨rfl, hst⟩

theorem ofExcept (r : Except (Fault τ) α) : Blind forget (Action.ofExcept r : Action σ τ α) :=
  fun _ _ hst => ⟨rfl, hst⟩

protected theorem modify {f : σ → σ} (again : σ → σ)
    (h : ∀ s, forget (f s) = again (f (forget s))) : Blind forget (modify f : Action σ τ Unit) :=
  of_forget again fun s => ⟨rfl, h s⟩

protected theorem bind {f : α → Action σ τ β} (ha : Blind forget a)
    (hf : ∀ x, Blind forget (f x)) : Blind forget (a >>= f) := by
  intro s t hst
  rw [apply_bind, apply_bind]
  rcases ha.cases hst with ⟨x, u, v, hu, hv, huv⟩ | ⟨fault, u, v, hu, hv, huv⟩
  · rw [hu, hv]
    exact hf x u v huv
  · rw [hu, hv]
    exact ⟨rfl, huv⟩

/-- Reading the state: what is done then must not depend on what is forgotten. -/
theorem get_bind {f : σ → Action σ τ β} (hsame : ∀ s, f s = f (forget s))
    (hf : ∀ s, Blind forget (f s)) : Blind forget (get >>= f) := by
  intro s t hst
  have hfst : f s = f t := by rw [hsame s, hst, ← hsame t]
  rw [apply_bind, apply_bind, apply_get, apply_get]
  dsimp only
  rw [← hfst]
  exact hf s s t hst

protected theorem tryCatch {handle : Fault τ → Action σ τ α} (ha : Blind forget a)
    (hhandle : ∀ fault, Blind forget (handle fault)) : Blind forget (tryCatch a handle) := by
  intro s t hst
  rw [apply_tryCatch, apply_tryCatch]
  rcases ha.cases hst with ⟨x, u, v, hu, hv, huv⟩ | ⟨fault, u, v, hu, hv, huv⟩
  · rw [hu, hv]
    exact ⟨rfl, huv⟩
  · rw [hu, hv]
    exact hhandle fault u v huv

theorem andThen {after : Action σ τ Unit} (ha : Blind forget a) (hafter : Blind forget after) :
    Blind forget (a.andThen after) := by
  intro s t hst
  obtain ⟨houtcome, hleft⟩ := ha s t hst
  rw [apply_andThen, apply_andThen, houtcome]
  rcases hafter.cases hleft with ⟨x, u, v, hu, hv, huv⟩ | ⟨fault, u, v, hu, hv, huv⟩
  · rw [hu, hv]
    exact ⟨rfl, huv⟩
  · rw [hu, hv]
    exact ⟨rfl, huv⟩

theorem ite {c : Prop} [Decidable c] {b : Action σ τ α} (ha : Blind forget a)
    (hb : Blind forget b) : Blind forget (if c then a else b) := by
  split
  · exact ha
  · exact hb

end Blind

end ClassOrder.Action
