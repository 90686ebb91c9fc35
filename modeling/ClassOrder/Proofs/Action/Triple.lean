import ClassOrder.Action

/-!
# Triples of actions

What is known after an action, told by what was known before it.  An action may fail and keeps
what it changed before it did, so there are two things to know afterwards: one for its value and
one for its fault.  A property that holds either way is *kept*.

## Main definitions

* `Action.Triple` — what an action makes of what was known.
* `Action.Keeps` — a property that an action keeps, however it ends.
* `Action.Leaves` — a part of the state that an action leaves as it is.

## Main results

* `Triple.bind`, `Triple.tryCatch`, `Triple.andThen` — the rules for the parts of an action.
-/

namespace ClassOrder.Action

variable {σ τ α β : Type}

/-- From a state with `P`, the action gives a value with `Q` or fails with `E`. -/
def Triple (P : σ → Prop) (a : Action σ τ α) (Q : α → σ → Prop) (E : Fault τ → σ → Prop) : Prop :=
  ∀ s, P s →
    match a.apply s with
    | (.ok x, t) => Q x t
    | (.error fault, t) => E fault t

/-- The action keeps a property, however it ends. -/
def Keeps (I : σ → Prop) (a : Action σ τ α) : Prop := Triple I a (fun _ => I) (fun _ => I)

/-- Two actions in a row succeed exactly if the first does and the second does after it. -/
theorem isOk_bind {a : Action σ τ Unit} {f : Unit → Action σ τ α} {s : σ} :
    ((a >>= f).apply s).1.isOk = true ↔
      (a.apply s).1.isOk = true ∧ ((f ()).apply (a.apply s).2).1.isOk = true := by
  rw [apply_bind]
  rcases a.apply s with ⟨fault | ⟨⟩, t⟩
  · exact iff_of_false nofun fun h => nomatch h.1
  · exact (and_iff_right rfl).symm

namespace Triple

variable {P P' : σ → Prop} {Q Q' : α → σ → Prop} {R : β → σ → Prop} {E E' : Fault τ → σ → Prop}
  {a : Action σ τ α}

theorem of_ok (h : Triple P a Q E) {s t : σ} {x : α} (hs : P s) (hrun : a.apply s = (.ok x, t)) :
    Q x t := by
  have := h s hs
  rwa [hrun] at this

theorem of_error (h : Triple P a Q E) {s t : σ} {fault : Fault τ} (hs : P s)
    (hrun : a.apply s = (.error fault, t)) : E fault t := by
  have := h s hs
  rwa [hrun] at this

theorem conseq (h : Triple P a Q E) (hP : ∀ s, P' s → P s) (hQ : ∀ x s, Q x s → Q' x s)
    (hE : ∀ fault s, E fault s → E' fault s) : Triple P' a Q' E' := by
  intro s hs
  have hrun := h s (hP s hs)
  split at hrun
  · exact hQ _ _ hrun
  · exact hE _ _ hrun

theorem pre (h : Triple P a Q E) (hP : ∀ s, P' s → P s) : Triple P' a Q E :=
  h.conseq hP (fun _ _ hq => hq) (fun _ _ he => he)

theorem post (h : Triple P a Q E) (hQ : ∀ x s, Q x s → Q' x s)
    (hE : ∀ fault s, E fault s → E' fault s) : Triple P a Q' E' :=
  h.conseq (fun _ hp => hp) hQ hE

/-- Two things known before an action give two things known after it. -/
protected theorem and (h : Triple P a Q E) (h' : Triple P' a Q' E') :
    Triple (fun s => P s ∧ P' s) a (fun x s => Q x s ∧ Q' x s)
      (fun fault s => E fault s ∧ E' fault s) := by
  rintro s ⟨hs, hs'⟩
  have hrun := h s hs
  have hrun' := h' s hs'
  split at hrun
  · next heq =>
    rw [heq] at hrun'
    exact ⟨hrun, hrun'⟩
  · next heq =>
    rw [heq] at hrun'
    exact ⟨hrun, hrun'⟩

/-- What is known whatever the state may be used for the action. -/
theorem given {c : Prop} (h : c → Triple P a Q E) : Triple (fun s => P s ∧ c) a Q E :=
  fun s hs => h hs.2 s hs.1

protected theorem pure {x : α} (h : ∀ s, P s → Q x s) : Triple P (pure x : Action σ τ α) Q E :=
  fun s hs => h s hs

protected theorem throw {fault : Fault τ} (h : ∀ s, P s → E fault s) :
    Triple P (throw fault : Action σ τ α) Q E := fun s hs => h s hs

protected theorem get {Q : σ → σ → Prop} (h : ∀ s, P s → Q s s) :
    Triple P (get : Action σ τ σ) Q E := fun s hs => h s hs

protected theorem modify {f : σ → σ} {Q : Unit → σ → Prop} (h : ∀ s, P s → Q () (f s)) :
    Triple P (modify f : Action σ τ Unit) Q E := fun s hs => h s hs

theorem ofExcept {r : Except (Fault τ) α} (hQ : ∀ x s, P s → Q x s)
    (hE : ∀ fault s, P s → E fault s) : Triple P (Action.ofExcept r) Q E := by
  intro s hs
  cases r with
  | ok x => exact hQ x s hs
  | error fault => exact hE fault s hs

protected theorem bind {S : α → σ → Prop} {f : α → Action σ τ β} (ha : Triple P a S E)
    (hf : ∀ x, Triple (S x) (f x) R E) : Triple P (a >>= f) R E := by
  intro s hs
  have hrun := ha s hs
  rw [apply_bind]
  rcases heq : a.apply s with ⟨fault | x, t⟩
  · rw [heq] at hrun
    exact hrun
  · rw [heq] at hrun
    exact hf x t hrun

/-- Reading the state: the rest may use the state that it starts in. -/
theorem get_bind {f : σ → Action σ τ β} (h : ∀ s, P s → Triple (· = s) (f s) R E) :
    Triple P (get >>= f) R E := by
  intro s hs
  exact h s hs s rfl

protected theorem tryCatch {F : Fault τ → σ → Prop} {handle : Fault τ → Action σ τ α}
    (ha : Triple P a Q F) (hhandle : ∀ fault, Triple (F fault) (handle fault) Q E) :
    Triple P (tryCatch a handle) Q E := by
  intro s hs
  have hrun := ha s hs
  rw [apply_tryCatch]
  rcases heq : a.apply s with ⟨fault | x, t⟩
  · rw [heq] at hrun
    exact hhandle fault t hrun
  · rw [heq] at hrun
    exact hrun

/-- An action that succeeds if something holds, and fails if not, succeeds exactly if it holds. -/
theorem isOk_iff {c : Prop} (h : Triple P a (fun _ _ => c) (fun _ _ => ¬ c)) {s : σ} (hs : P s) :
    (a.apply s).1.isOk = true ↔ c := by
  have hrun := h s hs
  split at hrun
  · next heq => exact iff_of_true (congrArg (·.1.isOk) heq) hrun
  · next heq => exact iff_of_false (by rw [heq]; exact Bool.false_ne_true) hrun

/-- What comes after an action in any case starts from either of its endings. -/
theorem andThen {S : α → σ → Prop} {F : Fault τ → σ → Prop} {after : Action σ τ Unit}
    (ha : Triple P a S F) (hok : ∀ x, Triple (S x) after (fun _ => Q x) E)
    (herror : ∀ fault, Triple (F fault) after (fun _ => E fault) E) :
    Triple P (a.andThen after) Q E := by
  intro s hs
  have hrun := ha s hs
  rw [apply_andThen]
  split at hrun
  · next x t heq =>
    have hafter := hok x t hrun
    simp only [heq]
    split at hafter <;> simp_all
  · next fault t heq =>
    have hafter := herror fault t hrun
    simp only [heq]
    split at hafter <;> simp_all

theorem ite {c : Prop} [Decidable c] {b : Action σ τ α} (ha : c → Triple P a Q E)
    (hb : ¬ c → Triple P b Q E) : Triple P (if c then a else b) Q E := by
  split
  · next h => exact ha h
  · next h => exact hb h

end Triple

namespace Keeps

variable {I : σ → Prop} {a : Action σ τ α}

theorem apply (h : Keeps I a) {s : σ} (hs : I s) : I (a.apply s).2 := by
  have hrun := h s hs
  split at hrun
  · next heq => rwa [heq]
  · next heq => rwa [heq]

theorem of_apply (h : ∀ s, I s → I (a.apply s).2) : Keeps I a := by
  intro s hs
  have hrun := h s hs
  split
  · next heq => rwa [heq] at hrun
  · next heq => rwa [heq] at hrun

protected theorem pure (x : α) : Keeps I (pure x : Action σ τ α) := fun _ hs => hs

protected theorem throw (fault : Fault τ) : Keeps I (throw fault : Action σ τ α) := fun _ hs => hs

protected theorem modify {f : σ → σ} (h : ∀ s, I s → I (f s)) :
    Keeps I (modify f : Action σ τ Unit) := fun s hs => h s hs

theorem ofExcept (r : Except (Fault τ) α) : Keeps I (Action.ofExcept r : Action σ τ α) :=
  Triple.ofExcept (fun _ _ hs => hs) (fun _ _ hs => hs)

protected theorem bind {f : α → Action σ τ β} (ha : Keeps I a) (hf : ∀ x, Keeps I (f x)) :
    Keeps I (a >>= f) := Triple.bind ha hf

theorem get_bind {f : σ → Action σ τ β} (hf : ∀ s, Keeps I (f s)) : Keeps I (get >>= f) :=
  Triple.bind (Triple.get (Q := fun _ => I) fun _ hs => hs) hf

protected theorem tryCatch {handle : Fault τ → Action σ τ α} (ha : Keeps I a)
    (hhandle : ∀ fault, Keeps I (handle fault)) : Keeps I (tryCatch a handle) :=
  Triple.tryCatch ha hhandle

theorem andThen {after : Action σ τ Unit} (ha : Keeps I a) (hafter : Keeps I after) :
    Keeps I (a.andThen after) :=
  Triple.andThen ha (fun _ => hafter) (fun _ => hafter)

theorem ite {c : Prop} [Decidable c] {b : Action σ τ α} (ha : Keeps I a) (hb : Keeps I b) :
    Keeps I (if c then a else b) :=
  Triple.ite (fun _ => ha) (fun _ => hb)

/-- What holds after the first part and is kept by the rest holds after both. -/
theorem apply_bind {f : α → Action σ τ β} (hf : ∀ x, Keeps I (f x)) {s : σ}
    (hs : I (a.apply s).2) : I ((a >>= f).apply s).2 := by
  rw [Action.apply_bind]
  rcases hrun : a.apply s with ⟨fault | x, t⟩
  · rwa [hrun] at hs
  · rw [hrun] at hs
    exact (hf x).apply hs

theorem apply_andThen {after : Action σ τ Unit} (hafter : Keeps I after) {s : σ}
    (hs : I (a.apply s).2) : I ((a.andThen after).apply s).2 := by
  have h := hafter.apply hs
  rw [Action.apply_andThen]
  split <;> next heq => rwa [heq] at h

end Keeps

/-! ### Parts of the state that stay as they are -/

/-- The action leaves the part of the state that a view shows as it is, however it ends. -/
def Leaves {ν : Type} (view : σ → ν) (a : Action σ τ α) : Prop := ∀ v, Keeps (view · = v) a

namespace Leaves

variable {ν μ : Type} {view : σ → ν} {a : Action σ τ α}

theorem apply (h : Leaves view a) (s : σ) : view (a.apply s).2 = view s :=
  Keeps.apply (h (view s)) rfl

theorem of_apply (h : ∀ s, view (a.apply s).2 = view s) : Leaves view a :=
  fun _ => Keeps.of_apply fun s hs => (h s).trans hs

/-- What is known by the view alone is kept. -/
theorem keeps (h : Leaves view a) {I : σ → Prop} (hI : ∀ s t, view t = view s → I s → I t) :
    Keeps I a := Keeps.of_apply fun s hs => hI s _ (h.apply s) hs

/-- What a view shows less than another one does is left as it is with it. -/
theorem map (h : Leaves view a) (f : ν → μ) : Leaves (fun s => f (view s)) a :=
  of_apply fun s => congrArg f (h.apply s)

protected theorem pure (x : α) : Leaves view (pure x : Action σ τ α) := fun _ => Keeps.pure x

protected theorem throw (fault : Fault τ) : Leaves view (throw fault : Action σ τ α) :=
  fun _ => Keeps.throw fault

protected theorem modify {f : σ → σ} (h : ∀ s, view (f s) = view s) :
    Leaves view (modify f : Action σ τ Unit) := of_apply h

theorem ofExcept (r : Except (Fault τ) α) : Leaves view (Action.ofExcept r : Action σ τ α) :=
  fun _ => Keeps.ofExcept r

protected theorem bind {f : α → Action σ τ β} (ha : Leaves view a) (hf : ∀ x, Leaves view (f x)) :
    Leaves view (a >>= f) := fun v => Keeps.bind (ha v) fun x => hf x v

theorem get_bind {f : σ → Action σ τ β} (hf : ∀ s, Leaves view (f s)) :
    Leaves view (get >>= f) := fun v => Keeps.get_bind fun s => hf s v

protected theorem tryCatch {handle : Fault τ → Action σ τ α} (ha : Leaves view a)
    (hhandle : ∀ fault, Leaves view (handle fault)) : Leaves view (tryCatch a handle) :=
  fun v => Keeps.tryCatch (ha v) fun fault => hhandle fault v

theorem andThen {after : Action σ τ Unit} (ha : Leaves view a) (hafter : Leaves view after) :
    Leaves view (a.andThen after) := fun v => Keeps.andThen (ha v) (hafter v)

theorem ite {c : Prop} [Decidable c] {b : Action σ τ α} (ha : Leaves view a)
    (hb : Leaves view b) : Leaves view (if c then a else b) := fun v => Keeps.ite (ha v) (hb v)

end Leaves

end ClassOrder.Action
