import ClassOrder.Proofs.Session.History
import ClassOrder.Proofs.Session.Tidy

/-!
# What lasts

Whatever a session does is made of few steps that have to do with servers: talking to the server
that there is, taking it down, and launching one when there is none.  A property that these steps
keep is kept by every turn.

## Main definitions

* `Session.Enduring` — a property that the basic steps of a session keep.
* `Session.Lasting` — the same, whatever the server does by itself.

## Main results

* `Enduring.startup_of` — a startup makes of another property what taking a server down makes of it.
* `Enduring.perform` — what the basic steps keep is kept by every call.
* `Lasting.take`, `Lasting.run` — what lasts is kept by every turn and every run.
-/

namespace ClassOrder

open ClassOrder.Action (Keeps Triple)

variable {τ α : Type}

namespace Session

variable [Timeline τ] {s t u : Session τ}

/-- The basic steps keep a property: what leaves the servers alone, talking to the server that
there is, taking it down, and launching one when there is none. -/
structure Enduring (I : Session τ → Prop) : Prop where
  quiet : ∀ s t, t.holdings = s.holdings → I s → I t
  request : ∀ method params, (request method params : Action (Session τ) τ Json).Keeps I
  notify : ∀ method params, (notify method params : Action (Session τ) τ Unit).Keeps I
  drain : ∀ timeout, (drain timeout : Action (Session τ) τ Nat).Keeps I
  teardown : ∀ graceful, (teardown graceful : Action (Session τ) τ Unit).Keeps I
  attach : ∀ s k c, s.attached = none → s.world.launches k = .ok c → I s → I (s.attach c)

/-- The property is kept as well by what the server does by itself, whatever that is. -/
structure Lasting (I : Session τ → Prop) : Prop extends Enduring I where
  act : ∀ s deeds, I s → I (s.onServer fun now v => v.performAll now deeds)
  breakInput : ∀ s fault, I s → I (s.onServer fun _ v => v.breakInput fault none)

/-- A teardown that succeeds leaves no server. -/
theorem attached_of_teardown_ok {graceful : Bool}
    (hrun : (Session.teardown graceful).apply s = (.ok (), t)) : t.attached = none := by
  cases ha : s.attached with
  | none =>
    rw [teardown_of_attached_none graceful ha] at hrun
    cases hrun
    exact ha
  | some a => exact ((teardown_triple a s.former graceful).of_ok ⟨ha, rfl⟩ hrun).1

namespace Enduring

variable {I : Session τ → Prop}

theorem keeps (h : Enduring I) {a : Action (Session τ) τ α} (ha : Quiet a) : a.Keeps I :=
  ha.keeps h.quiet

theorem orAbandon (h : Enduring I) {gives : FaultKind → Bool} {a : Action (Session τ) τ α}
    (ha : a.Keeps I) : (orAbandon gives a).Keeps I :=
  Keeps.tryCatch ha fun _ =>
    Keeps.ite (Keeps.bind (h.teardown false) fun _ => Keeps.throw _) (Keeps.throw _)

theorem stop (h : Enduring I) : (stop : Action (Session τ) τ Unit).Keeps I := by
  have hfarewell : (farewell : Action (Session τ) τ Unit).Keeps I :=
    Keeps.get_bind fun _ => Keeps.bind (h.notify _ _) fun _ => h.notify _ _
  have hgone : (farewellOrGone : Action (Session τ) τ Unit).Keeps I :=
    Keeps.tryCatch hfarewell fun _ => Keeps.ite (h.keeps (quiet_log _)) (Keeps.throw _)
  refine Keeps.get_bind fun _ => Keeps.ite ?_ (Keeps.pure _)
  exact Keeps.bind (h.keeps (quiet_log _)) fun _ => Keeps.andThen hgone (h.teardown true)

theorem cleanup (h : Enduring I) : (cleanup : Action (Session τ) τ Unit).Keeps I :=
  Keeps.bind h.stop fun _ => Keeps.bind (h.teardown false) fun _ =>
    Keeps.bind (h.keeps quiet_removeWorkspace) fun _ => h.keeps quiet_forgetWorkspace

/-- A startup makes of another property what taking a server down makes of it, since it launches a
server only when there is none. -/
theorem startup_of (h : Enduring I) {A : Session τ → Prop}
    (hquiet : ∀ s t, t.holdings = s.holdings → A s → A t)
    (hnone : ∀ s, A s → s.attached = none → I s)
    (hclear : Triple A (abandon : Action (Session τ) τ Unit) (fun _ => I) (fun _ => I)) :
    Triple A (startup : Action (Session τ) τ Unit) (fun _ => I) (fun _ => I) := by
  refine startup_spec (B := fun s => I s ∧ s.attached = none) hquiet
    (fun s hs ha => ⟨hnone s hs ha, ha⟩) (fun s hs => ?_) (fun s t hholdings hs => ?_)
    (fun _ _ _ hs => hs.1) fun command directory s hs => ?_
  · -- once the way is clear, a launch comes to an empty place
    have hcleared := hclear s hs
    split at hcleared
    · next heq => exact ⟨hcleared, attached_of_teardown_ok heq⟩
    · exact hcleared
  · exact ⟨h.quiet s t hholdings hs.1, (congrArg Holdings.attached hholdings).trans hs.2⟩
  · rw [launchWith, Action.apply_ofFun]
    cases hlaunch : s.world.launches s.world.launched with
    | error fault => exact h.quiet s _ rfl hs.1
    | ok conduct => exact h.attach _ _ conduct hs.2 hlaunch (h.quiet s _ rfl hs.1)

theorem openConversation (h : Enduring I) :
    (openConversation : Action (Session τ) τ Unit).Keeps I := by
  have htalks : Talks I (fun _ => I) (fun _ => I) :=
    { quiet_before := h.quiet
      quiet_after := fun _ => h.quiet
      failed_before := fun _ _ hs => hs
      failed_after := fun _ _ _ hs => hs
      ask := fun _ => h.request _ _
      announce := fun _ _ _ => h.notify _ _
      drain := fun _ _ => h.drain _ }
  exact htalks.openConversation.post (fun _ _ hs => hs.choose_spec) fun _ _ hs => hs

/-- A start makes of another property what taking a server down makes of it, unless there is a
server to talk to. -/
theorem ensureStarted_of (h : Enduring I) {A : Session τ → Prop}
    (hquiet : ∀ s t, t.holdings = s.holdings → A s → A t)
    (hnone : ∀ s, A s → s.attached = none → I s)
    (hclear : Triple A (abandon : Action (Session τ) τ Unit) (fun _ => I) (fun _ => I)) :
    Triple A (ensureStarted : Action (Session τ) τ Unit)
      (fun _ s => A s ∧ s.isRunning = true ∨ I s) (fun _ => I) := by
  intro s hs
  have hhandshake : (handshake : Action (Session τ) τ Unit).Keeps I :=
    Keeps.tryCatch h.openConversation fun _ =>
      Keeps.ite (Keeps.bind (h.teardown false) fun _ => Keeps.throw _) (Keeps.throw _)
  have hstart := h.startup_of hquiet hnone hclear s hs
  rw [apply_ensureStarted]
  split_ifs with hrunning
  · exact .inl ⟨hs, hrunning⟩
  · split at hstart
    · next heq =>
      rw [heq]
      exact Triple.post hhandshake (fun _ _ ht => .inr ht) (fun _ _ ht => ht) _ hstart
    · next heq =>
      rw [heq]
      exact hstart

theorem ensureStarted (h : Enduring I) : (ensureStarted : Action (Session τ) τ Unit).Keeps I := by
  refine (h.ensureStarted_of h.quiet (fun _ hs _ => hs) (h.teardown false)).post
    (fun _ s hs => ?_) fun _ _ hs => hs
  rcases hs with ⟨hs, -⟩ | hs <;> exact hs

theorem call (h : Enduring I) (method : String) (params : Json) :
    (call method params : Action (Session τ) τ Json).Keeps I :=
  h.orAbandon (h.request method params)

theorem changeDocument (h : Enduring I) (classes : String) :
    (changeDocument classes : Action (Session τ) τ Unit).Keeps I :=
  Keeps.bind (Keeps.modify fun s hs => h.quiet s _ rfl hs) fun _ => Keeps.get_bind fun _ =>
    h.orAbandon (h.notify _ _)

theorem order (h : Enduring I) (classes : String) :
    (order classes : Action (Session τ) τ String).Keeps I := by
  refine Keeps.bind (h.changeDocument classes) fun _ => Keeps.get_bind fun _ =>
    Keeps.bind (h.call _ _) fun result => Keeps.bind (Keeps.ofExcept _) fun list => ?_
  cases list with
  | none => exact Keeps.bind (h.keeps (quiet_log _)) fun _ => Keeps.pure _
  | some sorted => exact Keeps.bind (h.keeps (quiet_keep _ _)) fun _ => Keeps.pure _

theorem sortClasses (h : Enduring I) (classes : String) :
    (sortClasses classes : Action (Session τ) τ String).Keeps I := by
  refine Keeps.bind (h.keeps (quiet_kept? classes)) fun kept => ?_
  cases kept with
  | some result => exact Keeps.pure _
  | none => exact Keeps.bind h.ensureStarted fun _ => h.order classes

theorem askProject (h : Enduring I) : (askProject : Action (Session τ) τ Json).Keeps I := by
  refine Keeps.get_bind fun _ => Keeps.bind (h.keeps (quiet_present _)) fun _ =>
    Keeps.bind (h.keeps (quiet_uriOf _)) fun _ => Keeps.bind (h.call _ _) fun result => ?_
  cases heldError? result with
  | some error => exact Keeps.throw _
  | none =>
    exact Keeps.ite (Keeps.bind (Keeps.modify fun s hs => h.quiet s _ rfl hs) fun _ => Keeps.pure _)
      (Keeps.pure _)

theorem getProject (h : Enduring I) : (getProject : Action (Session τ) τ Json).Keeps I :=
  Keeps.bind h.ensureStarted fun _ => h.askProject

/-- What the basic steps keep is kept by every call. -/
theorem perform (h : Enduring I) (c : Call) : (c.perform : Action (Session τ) τ Json).Keeps I := by
  have hnull {a : Action (Session τ) τ Unit} (ha : a.Keeps I) :
      (do a; return .null : Action (Session τ) τ Json).Keeps I :=
    Keeps.bind ha fun _ => Keeps.pure _
  cases c with
  | start => exact hnull h.ensureStarted
  | stop => exact hnull h.stop
  | abandon => exact hnull (h.teardown false)
  | cleanup => exact hnull h.cleanup
  | prepare => exact hnull (h.keeps quiet_prepareWorkspace)
  | sort classes => exact Keeps.bind (h.sortClasses classes) fun _ => Keeps.pure _
  | sortOnce classes =>
    exact Keeps.bind (Keeps.andThen (h.sortClasses classes) h.stop) fun _ => Keeps.pure _
  | project => exact h.getProject

end Enduring

namespace Lasting

variable {I : Session τ → Prop}

/-- What lasts is kept by every turn. -/
theorem take (h : Lasting I) (turn : Turn τ) (hs : I s) : I (turn.take s).2 := by
  cases turn with
  | call c => exact (h.perform c).apply hs
  | pass time => exact h.quiet s _ rfl hs
  | edit change => exact h.quiet s _ rfl hs
  | act deeds => exact h.act s deeds hs
  | breakInput fault => exact h.breakInput s fault hs

theorem run (h : Lasting I) (turns : List (Turn τ)) (hs : I s) : I (s.run turns) := by
  induction turns generalizing s with
  | nil => exact hs
  | cons turn turns ih => exact ih (h.take turn hs)

end Lasting

end Session

end ClassOrder
