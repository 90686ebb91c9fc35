import ClassOrder.Proofs.Session.Growth
import ClassOrder.Proofs.Session.Premises

/-!
# The course of a start

A start takes down a server that is not to be talked to, makes the workspace ready, and then deals
with servers alone.  So what a start makes of the premises is what making the workspace ready makes
of them, if it comes to that.

## Main definitions

* `Session.clear` — takes down a server that is not to be talked to.
* `Session.preparesFrom`, `Turn.preparesFrom` — the session in which a start or a turn makes the
  workspace ready, if it does.

## Main results

* `premises_ensureStarted` — what a start makes of the premises.
-/

namespace ClassOrder

open ClassOrder.Action (Keeps Leaves Triple)

variable {τ : Type} [Timeline τ]

namespace Session

variable {s t u v : Session τ}

/-- Takes down a server that is there but not to be talked to. -/
def clear : Action (Session τ) τ Unit := do
  if (← get).attached.isSome then
    log "Discarding dead language server session"
    abandon

/-- The session in which a start makes the workspace ready, if it comes to that. -/
def preparesFrom (u : Session τ) : Option (Session τ) :=
  if u.isRunning then none
  else match clear.apply u with
    | (.ok (), v) => some v
    | (.error _, _) => none

theorem outward_askProject : Outward (askProject : Action (Session τ) τ Json) := by
  refine Leaves.get_bind fun _ => Leaves.bind (outward_present _) fun _ =>
    Leaves.bind (outward_uriOf _) fun _ => Leaves.bind (outward_call _ _) fun result => ?_
  split
  · exact Leaves.throw _
  · exact Leaves.ite (Leaves.bind (Leaves.modify fun _ => rfl) fun _ => Leaves.pure _)
      (Leaves.pure _)

theorem outward_clear : Outward (clear : Action (Session τ) τ Unit) :=
  Leaves.get_bind fun _ =>
    Leaves.ite (Leaves.bind (outward_log _) fun _ => outward_abandon) (Leaves.pure _)

/-- A startup clears the way, makes the workspace ready and launches a server. -/
theorem apply_startup (u : Session τ) :
    startup.apply u =
      match clear.apply u with
      | (.ok (), v) =>
        match prepareWorkspace.apply v with
        | (.ok (), w) => launch.apply w
        | (.error fault, w) => (.error fault, w)
      | (.error fault, v) => (.error fault, v) := by
  cases hsome : u.attached.isSome with
  | true =>
    simp only [startup, clear, Action.apply_bind, Action.apply_get, hsome, ↓reduceIte]
    rcases (log "Discarding dead language server session").apply u with ⟨_ | ⟨⟩, s₁⟩
    · rfl
    dsimp only
    rcases abandon.apply s₁ with ⟨_ | ⟨⟩, s₂⟩
    · rfl
    dsimp only
    rcases prepareWorkspace.apply s₂ with ⟨_ | ⟨⟩, s₃⟩ <;> rfl
  | false =>
    simp only [startup, clear, Action.apply_bind, Action.apply_get, hsome, Bool.false_eq_true,
      ↓reduceIte]
    change _ = match prepareWorkspace.apply u with
      | (.ok (), w) => launch.apply w
      | (.error fault, w) => (.error fault, w)
    rcases prepareWorkspace.apply u with ⟨_ | ⟨⟩, s₁⟩ <;> rfl

theorem preparesFrom_eq_some (h : preparesFrom u = some v) :
    u.isRunning = false ∧ clear.apply u = (.ok (), v) := by
  unfold preparesFrom at h
  split at h
  · cases h
  · next hrunning =>
    split at h
    · next heq =>
      cases h
      exact ⟨by simpa using hrunning, heq⟩
    · cases h

theorem premises_preparesFrom (h : preparesFrom u = some v) : v.premises = u.premises := by
  have hclear := outward_clear.apply u
  rwa [(preparesFrom_eq_some h).2] at hclear

/-- **What a start makes of the premises** is what making the workspace ready makes of them. -/
theorem premises_ensureStarted (u : Session τ) :
    (ensureStarted.apply u).2.premises =
      match preparesFrom u with
      | some v => (prepareWorkspace.apply v).2.premises
      | none => u.premises := by
  rw [apply_ensureStarted, preparesFrom]
  split
  · rfl
  · have hclear := outward_clear.apply u
    rw [apply_startup]
    generalize clear.apply u = cleared at hclear ⊢
    obtain ⟨fault | ⟨⟩, v⟩ := cleared
    · exact hclear
    · dsimp only
      generalize prepareWorkspace.apply v = prepared
      obtain ⟨fault | ⟨⟩, w⟩ := prepared
      · rfl
      · -- a launch and a handshake leave the premises alone
        have hlaunch := outward_launch.apply w
        dsimp only
        generalize launch.apply w = launched at hlaunch
        obtain ⟨fault | ⟨⟩, x⟩ := launched
        · exact hlaunch
        · exact (outward_handshake.apply x).trans hlaunch

end Session

/-- The session in which a turn makes the workspace ready, if it does. -/
def Turn.preparesFrom (s : Session τ) (turn : Turn τ) : Option (Session τ) :=
  match turn with
  | call .prepare => some s
  | _ => (turn.startsFrom s).bind Session.preparesFrom

end ClassOrder
