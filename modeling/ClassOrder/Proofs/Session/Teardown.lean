import ClassOrder.Proofs.Server.Onward
import ClassOrder.Proofs.Session.Holdings
import ClassOrder.Proofs.Session.Unwinding

/-!
# What a teardown leaves

Once a teardown has closed the server's input, the session has no server to talk to, whatever
happens next.  A fault in closing the input that is not passed over stops the teardown there; past
it the server is brought to its end, and lost to the session unless closing one of its other
streams fails.

## Main definitions

* `Session.Cut` — the server is the same one, some time later, and not to be talked to.
* `Session.Refuses` — closing the server's input failed with a fault that is not passed over.
* `Session.Gone`, `Session.Stuck` — what a teardown leaves when it succeeds and when it fails.

## Main results

* `teardown_triple` — how a teardown ends and what it leaves.
-/

namespace ClassOrder.Session

open ClassOrder.Action (Keeps Triple)

variable {τ α : Type} {s t : Session τ} {v : Server τ} {former : List (Server τ)}

theorem isRunning_of_attached_none (h : s.attached = none) : s.isRunning = false := by
  rw [isRunning, h]

theorem serverAlive_of_isRunning (h : s.isRunning = true) : s.serverAlive = true := by
  rw [isRunning] at h
  rw [serverAlive]
  cases ha : s.attached with
  | some a =>
    rw [ha] at h
    exact (Bool.and_eq_true_iff.mp h).2
  | none =>
    rw [ha] at h
    cases h

theorem isRunning_congr (h : t.holdings = s.holdings) : t.isRunning = s.isRunning := by
  have hattached : t.attached = s.attached := congrArg Holdings.attached h
  rw [isRunning, isRunning, hattached]

/-- The session has a later state of the server `v`, which is not to be talked to. -/
structure Cut (v : Server τ) (former : List (Server τ)) (s : Session τ) : Prop where
  former_eq : s.former = former
  attached : ∃ a, s.attached = some a ∧ v.Onward a.server ∧ a.server.isConnected = false

/-- Closing the server's input fails with a fault that is not passed over. -/
def Refuses (fault : Fault τ) (s : Session τ) : Prop :=
  ∃ a, s.attached = some a ∧ a.server.channel.outlet.closeFault = some fault ∧
    passedOver fault = false

/-- The server has ended as well. -/
def Ended (v : Server τ) (former : List (Server τ)) (s : Session τ) : Prop :=
  Cut v former s ∧ s.serverAlive = false

theorem Cut.isRunning (h : Cut v former s) : s.isRunning = false := by
  obtain ⟨a, ha, -, hconnected⟩ := h.attached
  rw [Session.isRunning, ha]
  simp [hconnected]

theorem Cut.onServer (h : Cut v former s) {change : τ → Server τ → Server τ}
    (hchange : ∀ now w, Server.Onward w (change now w)) : Cut v former (s.onServer change) := by
  obtain ⟨a, ha, honward, hconnected⟩ := h.attached
  have hnext := hchange s.world.clock a.server
  refine ⟨h.former_eq, ⟨change s.world.clock a.server, a.exchange⟩, ?_, honward.trans hnext, ?_⟩
  · simp [Session.onServer, ha]
  · exact Bool.eq_false_iff.mpr fun hc => Bool.eq_false_iff.mp hconnected (hnext.isConnected hc)

theorem serverAlive_onServer {change : τ → Server τ → Server τ}
    (hchange : ∀ now w, Server.Onward w (change now w)) (h : s.serverAlive = false) :
    (s.onServer change).serverAlive = false := by
  rw [serverAlive] at h ⊢
  cases ha : s.attached with
  | none => simp [onServer, ha]
  | some a =>
    rw [ha] at h
    simp only [onServer, ha, Option.map_some]
    exact Bool.eq_false_iff.mpr fun halive => Bool.eq_false_iff.mp h ((hchange _ _).isAlive halive)

theorem bears_cut : Bears Server.Onward (Cut v former) where
  note _ h := ⟨h.former_eq, h.attached⟩
  happen _ h := ⟨h.former_eq, h.attached⟩
  onServer hchange h := h.onServer hchange

theorem bears_ended : Bears Server.Onward (Ended v former) where
  note _ h := ⟨bears_cut.note _ h.1, h.2⟩
  happen _ h := ⟨bears_cut.happen _ h.1, h.2⟩
  onServer hchange h := ⟨h.1.onServer hchange, serverAlive_onServer hchange h.2⟩

/-! ### Closing a stream -/

/-- Closing a stream changes the server and fails only with a fault that is not passed over. -/
theorem closeStream_apply (close : τ → Server τ → Except (Fault τ) Unit × Server τ)
    (e : ServerEvent τ) {a : Attached τ} (ha : s.attached = some a) :
    ((closeStream close e).apply s).2.attached =
        some { a with server := (close s.world.clock a.server).2 } ∧
      ((closeStream close e).apply s).2.former = s.former ∧
      ∀ fault, ((closeStream close e).apply s).1 = .error fault →
        (close s.world.clock a.server).1 = .error fault ∧ passedOver fault = false := by
  simp only [closeStream, Action.apply_ofFun, ha]
  rcases close s.world.clock a.server with ⟨fault | ⟨⟩, server⟩
  · by_cases hpass : passedOver fault = true
    · simp [hpass, note, Session.happen]
    · simp [hpass, Session.happen]
  · simp [Session.happen]

variable [Timeline τ]

/-- What closing the input leaves; it fails only with a fault that is not passed over. -/
theorem closeInput_triple (a : Attached τ) (former : List (Server τ)) :
    Triple (fun s => s.attached = some a ∧ s.former = former)
      (closeInput : Action (Session τ) τ Unit)
      (fun _ => Cut a.server former) (fun fault s => Cut a.server former s ∧ s.Refuses fault) := by
  rintro s ⟨ha, hformer⟩
  obtain ⟨hattached, hsame, herror⟩ := closeStream_apply Server.closeInput .inputClosed ha
  -- the input counts as closed even if closing it failed
  have hcut : Cut a.server former ((closeInput : Action (Session τ) τ Unit).apply s).2 :=
    ⟨hsame.trans hformer, _, hattached, Server.onward_closeInput _ _,
      Server.isConnected_closeInput _ _⟩
  split
  · next heq => rwa [heq] at hcut
  · next fault t heq =>
    rw [closeInput] at heq
    rw [closeInput, heq] at hcut
    obtain ⟨hfault, hpass⟩ := herror fault (congrArg Prod.fst heq)
    rw [heq] at hattached
    refine ⟨hcut, _, hattached, ?_, hpass⟩
    rw [Server.closeFault_closeInput]
    -- closing fails with the outlet's own fault
    change closing a.server.channel.outlet.closeFault = .error fault at hfault
    cases hclose : a.server.channel.outlet.closeFault with
    | none =>
      rw [hclose] at hfault
      cases hfault
    | some f =>
      rw [hclose] at hfault
      cases hfault
      rfl

/-! ### Waiting for the end -/

theorem undergoes_onward : Server.Undergoes (τ := τ) Server.Onward where
  elapse now time v := Server.onward_elapse now time v
  nudge now v := Server.onward_nudge now .terminated v
  kill now v := Server.onward_kill now v
  closeOutput v := Server.onward_closeOutput v
  closeComplaints v := Server.onward_closeComplaints v

/-- Waiting tells whether the server has ended. -/
theorem awaitEnd_triple (timeout : τ) :
    Triple (Cut v former) (awaitEnd timeout : Action (Session τ) τ Bool)
      (fun ended s => Cut v former s ∧ (ended = true → s.serverAlive = false))
      (fun _ _ => False) := by
  refine Triple.bind (S := fun _ => Cut v former) (Triple.modify fun s hs => ?_) fun _ => ?_
  · exact bears_cut.happen _ (hs.onServer fun now w => Server.onward_elapse now timeout w)
  · refine Triple.get_bind fun s hs => Triple.pure fun t ht => ?_
    subst ht
    exact ⟨hs, by simp⟩

/-- Whatever the server does, it has ended when `terminate` is done. -/
theorem terminate_triple :
    Triple (Cut v former) (terminate : Action (Session τ) τ Unit) (fun _ => Ended v former)
      (fun _ _ => False) := by
  refine Triple.bind (S := fun _ => Cut v former) (Triple.modify fun s hs => ?_) fun _ => ?_
  · exact bears_cut.happen _ (hs.onServer undergoes_onward.nudge)
  refine Triple.get_bind fun s hs => ?_
  refine Triple.bind ((awaitEnd_triple _).pre fun t ht => ht ▸ hs) fun ended => ?_
  refine Triple.ite (fun _ => ?_) (fun hended => Triple.pure fun t ht => ⟨ht.1, ht.2 ?_⟩)
  · refine Triple.bind (S := fun _ => Cut v former) ?_ fun _ => Triple.modify fun t ht => ?_
    · exact Triple.modify fun t ht => bears_cut.note _ ht.1
    · have hcut := ht.onServer undergoes_onward.kill
      refine ⟨bears_cut.happen _ (bears_cut.happen _ hcut), ?_⟩
      obtain ⟨a, ha, -⟩ := ht.attached
      simp [serverAlive, Session.happen, onServer, ha]
  · simpa using hended

/-- What is left when the server is let go of. -/
def Gone (v : Server τ) (former : List (Server τ)) (s : Session τ) : Prop :=
  s.attached = none ∧ ∃ w, v.Onward w ∧ w.isAlive = false ∧ s.former = former ++ [w]

/-- What is left when a teardown fails with a fault. -/
def Stuck (v : Server τ) (former : List (Server τ)) (fault : Fault τ) (s : Session τ) : Prop :=
  Cut v former s ∧ (s.serverAlive = false ∨ s.Refuses fault)

omit [Timeline τ] in
theorem letGo_triple :
    Triple (Ended v former) (do closeOutputs; detach : Action (Session τ) τ Unit)
      (fun _ => Gone v former) (Stuck v former) := by
  refine Triple.bind (S := fun _ => Ended v former)
    ((bears_ended.closeOutputs Server.onward_closeOutput Server.onward_closeComplaints).post
      (fun _ _ h => h) fun _ s h => ⟨h.1, .inl h.2⟩) fun _ => ?_
  refine Triple.modify fun s ⟨hcut, hended⟩ => ?_
  obtain ⟨a, ha, honward, -⟩ := hcut.attached
  refine ⟨rfl, a.server, honward, ?_, ?_⟩
  · rwa [serverAlive, ha] at hended
  · simp [servers, ha, hcut.former_eq]

theorem bringDown_triple :
    Triple (Cut v former)
      (do
        if (← get).serverAlive then terminate
        closeOutputs
        detach : Action (Session τ) τ Unit)
      (fun _ => Gone v former) (Stuck v former) := by
  refine Triple.get_bind fun s hs => Triple.ite (fun _ => ?_) (fun hended => ?_)
  · refine Triple.bind ((terminate_triple.pre fun t ht => ht ▸ hs).post (fun _ _ h => h) ?_)
      fun _ => letGo_triple
    exact fun _ _ hno => hno.elim
  · exact letGo_triple.pre fun t ht => ht ▸ ⟨hs, by simpa using hended⟩

/-- **How a teardown ends and what it leaves.**  If it fails, the server is not to be talked to
any more, and it has ended unless closing its input failed. -/
theorem teardown_triple (a : Attached τ) (former : List (Server τ)) (graceful : Bool) :
    Triple (fun s => s.attached = some a ∧ s.former = former)
      (teardown graceful : Action (Session τ) τ Unit)
      (fun _ => Gone a.server former) (Stuck a.server former) := by
  refine Triple.get_bind fun s hs => Triple.ite (fun _ => ?_) (fun hnone => ?_)
  · refine Triple.bind (S := fun _ s => s.attached = some a ∧ s.former = former)
      (Triple.modify fun t ht => by subst ht; exact hs) fun _ => ?_
    refine Triple.bind ((closeInput_triple a former).post (fun _ _ h => h)
      fun _ _ h => ⟨h.1, .inr h.2⟩) fun _ => ?_
    refine Triple.ite (fun _ => ?_) (fun _ => bringDown_triple)
    exact Triple.bind ((bears_cut.awaitLeave undergoes_onward).post (fun _ _ h => h)
      fun _ _ hno => hno.elim) fun _ => bringDown_triple
  · rw [hs.1] at hnone
    exact absurd rfl hnone

/-- Without a server there is nothing to take down. -/
theorem teardown_of_attached_none (graceful : Bool) (h : s.attached = none) :
    (teardown graceful).apply s = (.ok (), s) := by
  simp [teardown, Action.apply_bind, h]

end ClassOrder.Session
