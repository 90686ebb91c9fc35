import ClassOrder.Proofs.Server.Streams
import ClassOrder.Proofs.Session.Housing

/-!
# When a session lets go of its server

A server is let go of once its streams have been closed, and it is spoken to before that if it is
there to be talked to.  Each of these steps may fail, and whether one does shows in the server
beforehand: it takes the last words or not, which may break its input one after the other, and
closing one of its streams fails with a fault that is passed over or not.

## Main definitions

* `Session.lastWords` — what the server is told last.
* `Session.Yields` — nothing stands in the way of letting go of the server.

## Main results

* `teardown_outcome` — a teardown succeeds exactly if closing the streams is passed over.
* `farewellOrGone_taking` — the last words do not fail exactly if the server takes them.
* `stop_isOk_iff`, `abandon_isOk_iff` — **when stopping and abandoning a server succeeds.**
-/

namespace ClassOrder.Session

open ClassOrder.Action (Keeps Triple)

variable {τ α : Type} {s t : Session τ} {f : StreamFaults τ}

/-- The streams of the server that there is fail with given faults when they are closed. -/
def Closing (f : StreamFaults τ) (s : Session τ) : Prop :=
  ∃ a, s.attached = some a ∧ a.server.streamFaults = f

theorem bears_closing {c : Prop} : Bears (τ := τ) (fun v w => w.streamFaults = v.streamFaults)
    fun s => Closing f s ∧ c where
  note _ h := h
  happen _ h := h
  onServer hchange h := by
    obtain ⟨⟨a, ha, hfaults⟩, hc⟩ := h
    exact ⟨⟨_, by rw [Session.onServer, ha]; rfl, (hchange _ _).trans hfaults⟩, hc⟩

/-! ### Closing the streams -/

/-- Closing a stream fails exactly if that is not passed over. -/
theorem closeStream_closing {close : τ → Server τ → Except (Fault τ) Unit × Server τ}
    {e : ServerEvent τ} (fault : StreamFaults τ → Option (Fault τ))
    (hclose : ∀ now v, (close now v).1 = closing (fault v.streamFaults))
    (hkeeps : ∀ now v, (close now v).2.streamFaults = v.streamFaults) :
    Triple (Closing f) (closeStream close e : Action (Session τ) τ Unit)
      (fun _ s => Closing f s ∧ Closable (fault f)) (fun _ _ => ¬ Closable (fault f)) := by
  rintro s ⟨a, ha, rfl⟩
  have hafter : Closing a.server.streamFaults ((closeStream close e).apply s).2 :=
    ⟨_, (closeStream_apply close e ha).1, hkeeps _ _⟩
  revert hafter
  simp only [closeStream, Action.apply_ofFun, ha]
  rw [hclose]
  cases hfault : fault a.server.streamFaults with
  | none => exact fun hafter => ⟨hafter, fun f hf => (by cases hf)⟩
  | some cause =>
    simp only [closing]
    by_cases hpass : passedOver cause = true
    · rw [if_pos hpass]
      exact fun hafter => ⟨hafter, fun f hf => by cases hf; exact hpass⟩
    · rw [if_neg hpass]
      exact fun _ hclosable => hpass (hclosable cause rfl)

theorem closeOutputs_closing :
    Triple (Closing f) (closeOutputs : Action (Session τ) τ Unit)
      (fun _ s => Closing f s ∧ Closable f.output ∧ Closable f.complaints)
      (fun _ _ => ¬ (Closable f.output ∧ Closable f.complaints)) := by
  refine Triple.bind ((closeStream_closing (·.output) (fun _ _ => rfl) fun _ _ => rfl).post
    (fun _ _ h => h) fun _ _ h => fun hmild => h hmild.1) fun _ => Triple.given fun houtput => ?_
  exact (closeStream_closing (·.complaints) (fun _ _ => rfl) fun _ _ => rfl).post
    (fun _ _ h => ⟨h.1, houtput, h.2⟩) fun _ _ h => fun hmild => h hmild.2

variable [Timeline τ]

theorem undergoes_sameFaults :
    Server.Undergoes (τ := τ) fun v w => w.streamFaults = v.streamFaults where
  elapse now time v := Server.streamFaults_elapse now time v
  nudge now v := Server.streamFaults_nudge now .terminated v
  kill now v := Server.streamFaults_kill now v
  closeOutput _ := rfl
  closeComplaints _ := rfl

/-- **A teardown succeeds exactly if closing the streams is passed over.** -/
theorem teardown_outcome (graceful : Bool) :
    Triple (Closing f) (teardown graceful : Action (Session τ) τ Unit)
      (fun _ _ => f.Mild) (fun _ _ => ¬ f.Mild) := by
  have hend : Triple (fun s => Closing f s ∧ Closable f.input)
      (do closeOutputs; detach : Action (Session τ) τ Unit)
      (fun _ _ => f.Mild) (fun _ _ => ¬ f.Mild) := by
    refine Triple.given fun hinput => Triple.bind (S := fun _ _ => f.Mild) ?_ fun _ =>
      Triple.modify fun _ h => h
    exact closeOutputs_closing.post (fun _ _ h => ⟨hinput, h.2.1, h.2.2⟩)
      fun _ _ h => fun hmild => h ⟨hmild.output, hmild.complaints⟩
  refine bears_closing.teardown undergoes_sameFaults (fun s hs _ => hs)
    ((closeStream_closing (·.input) (fun _ _ => rfl)
      fun now v => Server.streamFaults_closeInput now v).post (fun _ _ h => h)
        fun _ _ h => fun hmild => h hmild.input) hend ?_ graceful
  rintro s ⟨a, ha, -⟩ hnone
  rw [ha] at hnone
  cases hnone

/-! ### The last words -/

/-- What telling the server something comes to. -/
theorem notify_apply (method : String) (params : Json) {a : Attached τ}
    (ha : s.attached = some a) :
    let sent := a.server.send s.world.clock (.notification method params)
    ((notify method params).apply s).1 = sent.1 ∧
      ((notify method params).apply s).2.attached = some { a with server := sent.2 } := by
  obtain ⟨hresult, hattached, -⟩ := onWire_apply (fun x w =>
    let told := (Exchange.notify Wire.link method params).apply w
    (told.1, x, told.2)) ha
  exact ⟨hresult, hattached⟩

/-- The server that there is takes messages at a time exactly if something holds. -/
def Taking (now : τ) (ms : List Message) (c : Prop) (s : Session τ) : Prop :=
  s.world.clock = now ∧
    ∃ a, s.attached = some a ∧ a.server.isConnected = true ∧ (a.server.Takes now ms ↔ c)

/-- Telling the server the first of some messages leaves the others to be taken, or it fails, and
for a lost connection exactly if the server takes them. -/
theorem notify_taking {now : τ} {ms : List Message} {c : Prop} (method : String) (params : Json) :
    Triple (Taking now (.notification method params :: ms) c)
      (notify method params : Action (Session τ) τ Unit)
      (fun _ => Taking now ms c) (fun fault _ => fault.kind.isProtocol = true ↔ c) := by
  rintro s ⟨rfl, a, ha, hopen, htakes⟩
  obtain ⟨hresult, hattached⟩ := notify_apply method params ha
  have hclock : ((notify method params).apply s).2.world.clock = s.world.clock := by
    rw [notify, onWire, Action.apply_ofFun, ha]
    rfl
  rw [Server.takes_cons_iff hopen] at htakes
  split
  · next heq =>
    rw [heq] at hresult hattached hclock
    rw [← hresult] at htakes
    exact ⟨hclock, _, hattached, (Server.isConnected_send ..).trans hopen, htakes⟩
  · next heq =>
    rw [heq] at hresult
    rwa [← hresult] at htakes

/-- The last words: the document is closed, and the server is to end. -/
def lastWords (s : Session τ) : List Message :=
  [.notification "textDocument/didClose"
      (.object [("textDocument", .object [("uri", s.documentUri)])]),
    .notification "exit" (.object [])]

omit [Timeline τ] in
theorem lastWords_eq (s : Session τ) : s.lastWords =
    [.notification Method.documentClosed (closedParams s.documentUri),
      .notification Method.exit (.object [])] := rfl

/-- **The last words do not fail exactly if the server takes them.** -/
theorem farewellOrGone_taking {now : τ} {c : Prop} :
    Triple (fun s => Taking now s.lastWords c s) (farewellOrGone : Action (Session τ) τ Unit)
      (fun _ _ => c) (fun _ _ => ¬ c) := by
  have hfarewell : Triple (fun s => Taking now s.lastWords c s)
      (farewell : Action (Session τ) τ Unit)
      (fun _ _ => c) (fun fault _ => fault.kind.isProtocol = true ↔ c) := by
    refine Triple.get_bind fun s hs => ?_
    rw [lastWords_eq] at hs
    refine Triple.bind ((notify_taking _ _).pre fun t (ht : t = s) => by subst ht; exact hs)
      fun _ => ?_
    exact (notify_taking _ _).post (fun _ _ ⟨_, _, _, _, htakes⟩ => htakes.mp trivial)
      fun _ _ h => h
  refine Triple.tryCatch hfarewell fun fault => Triple.ite (fun hlost => ?_) fun hkind => ?_
  · exact Triple.modify fun t ht => ht.mp hlost
  · exact Triple.throw fun t ht hc => hkind (ht.mpr hc)

theorem farewellOrGone_closing :
    (farewellOrGone : Action (Session τ) τ Unit).Keeps (Closing f) := by
  have htold (method : String) (params : Json) :
      (notify method params : Action (Session τ) τ Unit).Keeps (Closing f) := by
    refine Keeps.of_apply fun s ⟨a, ha, hfaults⟩ => ?_
    exact ⟨_, (notify_apply method params ha).2, (Server.streamFaults_send _ _ _).trans hfaults⟩
  have hfarewell : (farewell : Action (Session τ) τ Unit).Keeps (Closing f) :=
    Keeps.get_bind fun _ => Keeps.bind (htold _ _) fun _ => htold _ _
  exact Keeps.tryCatch hfarewell fun _ => Keeps.ite (Keeps.modify fun _ h => h) (Keeps.throw _)

/-! ### Stopping and abandoning -/

/-- Nothing stands in the way of letting go of the server: its streams can be closed, and it takes
the last words if it is there to be talked to. -/
structure Yields (s : Session τ) : Prop where
  mild : ∀ a, s.attached = some a → a.server.streamFaults.Mild
  takes : s.isRunning = true → ∀ a, s.attached = some a →
    a.server.Takes s.world.clock s.lastWords

/-- Nothing stands in the way if there is no server. -/
theorem yields_of_attached_none (h : s.attached = none) : s.Yields where
  mild a ha := by
    rw [h] at ha
    cases ha
  takes _ a ha := by
    rw [h] at ha
    cases ha

/-- **When abandoning a server succeeds.** -/
theorem abandon_isOk_iff (s : Session τ) : (abandon.apply s).1.isOk = true ↔
    ∀ a, s.attached = some a → a.server.streamFaults.Mild := by
  cases ha : s.attached with
  | none => simp [abandon, teardown_of_attached_none false ha, Except.isOk, Except.toBool]
  | some a =>
    refine ((teardown_outcome false).isOk_iff ⟨a, ha, rfl⟩).trans ?_
    exact ⟨fun hmild b hb => by cases hb; exact hmild, fun h => h a rfl⟩

theorem apply_stop (s : Session τ) :
    stop.apply s = if s.isRunning then
        (farewellOrGone.andThen (teardown true)).apply
          (s.note ⟨.debug, "Stopping language server"⟩)
      else (.ok (), s) := by
  rw [stop, Action.apply_bind, Action.apply_get]
  dsimp only
  split <;> rfl

/-- The last words and the teardown after them succeed exactly if both would. -/
theorem farewellThenTeardown_isOk_iff {a : Attached τ} (ha : s.attached = some a)
    (hopen : a.server.isConnected = true) :
    ((farewellOrGone.andThen (teardown true)).apply s).1.isOk = true ↔
      a.server.Takes s.world.clock s.lastWords ∧ a.server.streamFaults.Mild := by
  let takes := a.server.Takes s.world.clock s.lastWords
  let mild := a.server.streamFaults.Mild
  have hwords : Triple
      (fun t => Taking s.world.clock t.lastWords takes t ∧ Closing a.server.streamFaults t)
      (farewellOrGone : Action (Session τ) τ Unit)
      (fun _ t => takes ∧ Closing a.server.streamFaults t)
      (fun _ t => ¬ takes ∧ Closing a.server.streamFaults t) :=
    farewellOrGone_taking.and farewellOrGone_closing
  have hclosing (c : Prop) : Triple (fun t => c ∧ Closing a.server.streamFaults t)
      (teardown true : Action (Session τ) τ Unit) (fun _ _ => c ∧ mild) (fun _ _ => ¬ mild) :=
    fun t ⟨hc, ht⟩ =>
      ((teardown_outcome true).post (fun _ _ hmild => ⟨hc, hmild⟩) fun _ _ h => h) t ht
  have hall : Triple
      (fun t => Taking s.world.clock t.lastWords takes t ∧ Closing a.server.streamFaults t)
      (farewellOrGone.andThen (teardown true) : Action (Session τ) τ Unit)
      (fun _ _ => takes ∧ mild) (fun _ _ => ¬ (takes ∧ mild)) := by
    refine Triple.andThen hwords (fun _ => (hclosing _).post (fun _ _ h => h) ?_)
      fun _ => (hclosing _).post (fun _ _ h both => h.1 both.1) ?_
    · exact fun _ _ h both => h both.2
    · exact fun _ _ h both => h both.2
  exact hall.isOk_iff ⟨⟨rfl, a, ha, hopen, Iff.rfl⟩, a, ha, rfl⟩

/-- **When stopping a server succeeds.** -/
theorem stop_isOk_iff (s : Session τ) : (stop.apply s).1.isOk = true ↔
    (s.isRunning = true → ∀ a, s.attached = some a →
      a.server.Takes s.world.clock s.lastWords ∧ a.server.streamFaults.Mild) := by
  rw [apply_stop]
  cases hrunning : s.isRunning with
  | false => exact iff_of_true rfl fun h => absurd h Bool.false_ne_true
  | true =>
    cases ha : s.attached with
    | none =>
      rw [isRunning_of_attached_none ha] at hrunning
      cases hrunning
    | some a =>
      have hopen : a.server.isConnected = true := by
        simp only [isRunning, ha, Bool.and_eq_true] at hrunning
        exact hrunning.1
      have hnoted : (s.note ⟨.debug, "Stopping language server"⟩).attached = some a := ha
      rw [if_pos rfl, farewellThenTeardown_isOk_iff hnoted hopen]
      exact ⟨fun h _ b hb => by cases hb; exact h, fun h => h rfl a rfl⟩

/-- A stop that succeeds leaves no server to talk to. -/
theorem attached_of_stop_ok (hrun : stop.apply s = (.ok (), t)) :
    t.attached = none ∨ s.isRunning = false ∧ t = s := by
  rw [apply_stop] at hrun
  cases hrunning : s.isRunning with
  | false =>
    rw [hrunning] at hrun
    cases hrun
    exact .inr ⟨rfl, rfl⟩
  | true =>
    left
    rw [hrunning, if_pos rfl, Action.apply_andThen] at hrun
    split at hrun
    · next heq =>
      obtain ⟨-, rfl⟩ := Prod.mk.inj hrun
      exact attached_of_teardown_ok heq
    · cases hrun

end ClassOrder.Session
