import ClassOrder.Proofs.Session.Growth

/-!
# Servers that are told nothing more

Once a server's input has been closed it is told nothing more, and closing the input is the first
thing that a teardown does.  So whatever happens after a teardown, however that ended, the server
has been told what it had been told before.

## Main definitions

* `Server.Settled` — the server's input is closed, and what it has been told.
* `Session.Closed` — the same of the server in a given place.

## Main results

* `teardown_closed` — a teardown, however it ends, settles what the server has been told.
* `lasting_closed` — **what a settled server has been told lasts.**
-/

namespace ClassOrder

open ClassOrder.Action (Keeps Triple)

variable {τ α : Type} {ms : List Message} {k : Nat}

/-- The server's input is closed, and it has been told just `ms`. -/
structure Server.Settled (ms : List Message) (v : Server τ) : Prop where
  closed : v.channel.outlet.closed = true
  received : v.received = ms

namespace Server.Settled

variable {v : Server τ}

theorem send [Timeline τ] (h : v.Settled ms) (now : τ) (m : Message) :
    (v.send now m).2.Settled ms := by
  have hsend : (v.send now m).2 = v := by
    rw [Server.send, Channel.send, Outlet.write_of_closed h.closed]
    rfl
  rwa [hsend]

theorem of_transcript {w : Server τ} (h : v.Settled ms) (htranscript : w.transcript = v.transcript)
    (hclosed : w.channel.outlet.closed = v.channel.outlet.closed) : w.Settled ms where
  closed := hclosed.trans h.closed
  received := by rw [← h.received, Server.received, htranscript, Server.received]

variable [Timeline τ]

theorem receive (h : v.Settled ms) (timeout clock : τ) :
    (v.receive timeout clock).2.1.Settled ms where
  closed := h.closed
  received := by
    rw [← h.received, Server.received, transcript_receive, List.filterMap_append]
    -- what is read tells the server nothing
    cases (v.receive timeout clock).1 <;> exact List.append_nil _

theorem finish (h : v.Settled ms) (now : τ) (code : Int) : (v.finish now code).Settled ms := by
  refine h.of_transcript (transcript_finish now code v) ?_
  unfold Server.finish
  split <;> rfl

theorem perform (h : v.Settled ms) (now : τ) (deed : Deed τ) :
    (v.perform now deed).Settled ms := by
  cases deed with
  | write chunk =>
    simp only [Server.perform]
    split
    · exact h.of_transcript rfl rfl
    · exact h
  | exit code => exact h.finish now code
  | breakInput writing flushing =>
    simp only [Server.perform]
    split
    · exact h.of_transcript rfl rfl
    · exact h

theorem performAll (h : v.Settled ms) (now : τ) (deeds : List (Deed τ)) :
    (v.performAll now deeds).Settled ms := by
  induction deeds generalizing v with
  | nil => exact h
  | cons deed deeds ih => exact ih (h.perform now deed)

theorem elapse (h : v.Settled ms) (now time : τ) : (v.elapse now time).Settled ms := by
  unfold Server.elapse
  split
  · exact h.finish _ _
  · exact h

theorem nudge (h : v.Settled ms) (now : τ) (n : Nudge) : (v.nudge now n).Settled ms :=
  elapse (v := { v with nudges := v.nudges ++ [n] }) (h.of_transcript rfl rfl) now 0

end Server.Settled

/-- Closing its input settles what a server has been told. -/
theorem Server.settled_closeInput [Timeline τ] {v : Server τ} (h : v.received = ms) (now : τ) :
    (v.closeInput now).2.Settled ms := by
  have hclosed : Settled ms
      { v with channel := { v.channel with outlet := v.channel.outlet.close.2 } } := ⟨rfl, h⟩
  unfold closeInput
  dsimp only
  split
  · exact hclosed
  · exact hclosed.nudge now .inputEnded

/-- Whatever an exchange does over a wire, a settled server is told nothing. -/
theorem Wire.send_settled [Timeline τ] (m : Message) :
    (Wire.send m : Action (Wire τ) τ Unit).Keeps fun w => w.server.Settled ms :=
  Keeps.of_apply fun w h => h.send w.clock m

theorem Wire.serves_settled [Timeline τ] (ms : List Message) :
    (Wire.link : Link (Wire τ) τ).Serves fun w => w.server.Settled ms where
  note _ _ h := h
  reply _ _ := Wire.send_settled _
  receive timeout := Keeps.of_apply fun w h => h.receive timeout w.clock

namespace Session

variable {s : Session τ}

/-- The server that there is, in the place `k`, is settled. -/
structure Shut (k : Nat) (ms : List Message) (s : Session τ) : Prop where
  place : s.former.length = k
  attached : ∃ a, s.attached = some a ∧ a.server.Settled ms

/-- The server in the place `k` has been told just `ms` and is told nothing more: it is one of
before, or its input is closed. -/
def Closed (k : Nat) (ms : List Message) (s : Session τ) : Prop :=
  (∃ v, s.former[k]? = some v ∧ v.received = ms) ∨ s.Shut k ms

theorem Closed.getElem? (h : s.Closed k ms) : ∃ v, s.servers[k]? = some v ∧ v.received = ms := by
  rcases h with ⟨v, hv, hreceived⟩ | ⟨hplace, a, ha, hsettled⟩
  · refine ⟨v, ?_, hreceived⟩
    rw [servers, List.getElem?_append_left (List.getElem?_eq_some_iff.mp hv).1]
    exact hv
  · exact ⟨a.server, by simp [servers, ha, ← hplace], hsettled.received⟩

/-! ### Taking a server down -/

theorem Shut.onServer (h : s.Shut k ms) {change : τ → Server τ → Server τ}
    (hchange : ∀ now v, v.Settled ms → (change now v).Settled ms) :
    (s.onServer change).Shut k ms := by
  obtain ⟨hplace, a, ha, hsettled⟩ := h
  refine ⟨hplace, ⟨change s.world.clock a.server, a.exchange⟩, ?_, hchange _ _ hsettled⟩
  simp [Session.onServer, ha]

/-- What is done to a settled server on its way down leaves it settled. -/
theorem undergoes_settled [Timeline τ] :
    Server.Undergoes (τ := τ) fun v w => v.Settled ms → w.Settled ms where
  elapse now time _ hv := hv.elapse now time
  nudge now _ hv := hv.nudge now .terminated
  kill now _ hv := hv.finish now (-9)
  closeOutput _ hv := hv.of_transcript rfl rfl
  closeComplaints _ hv := hv.of_transcript rfl rfl

theorem bears_shut :
    Bears (τ := τ) (fun v w => v.Settled ms → w.Settled ms) (Shut k ms) where
  note _ h := ⟨h.place, h.attached⟩
  happen _ h := ⟨h.place, h.attached⟩
  onServer hchange h := h.onServer hchange

variable [Timeline τ]

/-- From when its input is closed, whether that failed or not, the server is told nothing. -/
theorem closeInput_shut :
    Triple (fun s => s.former.length = k ∧ ∃ a, s.attached = some a ∧ a.server.received = ms)
      (closeInput : Action (Session τ) τ Unit) (fun _ => Shut k ms) (fun _ => Shut k ms) := by
  rintro s ⟨hplace, a, ha, hreceived⟩
  obtain ⟨hattached, hformer, -⟩ := closeStream_apply Server.closeInput .inputClosed ha
  have hafter : (closeInput.apply s).2.Shut k ms :=
    ⟨hformer ▸ hplace, _, hattached, Server.settled_closeInput hreceived _⟩
  split <;> next heq => rwa [heq] at hafter

/-- Letting go of a server puts it right in its place. -/
theorem letGo_closed :
    Triple (Shut k ms) (do closeOutputs; detach : Action (Session τ) τ Unit)
      (fun _ => Closed k ms) (fun _ => Closed k ms) := by
  refine Triple.bind ((bears_shut.closeOutputs undergoes_settled.closeOutput
    undergoes_settled.closeComplaints).post (fun _ _ h => h) fun _ _ h => .inr h) fun _ => ?_
  refine Triple.modify fun s ⟨hplace, a, ha, hsettled⟩ => .inl ⟨a.server, ?_, hsettled.received⟩
  simp [servers, ha, ← hplace]

/-- **A teardown, however it ends, settles what the server has been told.** -/
theorem teardown_closed (graceful : Bool) :
    Triple (fun s => s.former.length = k ∧ ∃ a, s.attached = some a ∧ a.server.received = ms)
      (teardown graceful : Action (Session τ) τ Unit)
      (fun _ => Closed k ms) (fun _ => Closed k ms) := by
  refine bears_shut.teardown undergoes_settled (fun s hs _ => hs)
    (closeInput_shut.post (fun _ _ h => h) fun _ _ h => .inr h) letGo_closed ?_ graceful
  rintro s ⟨-, a, ha, -⟩ hnone
  rw [ha] at hnone
  cases hnone

/-! ### What lasts -/

omit [Timeline τ] in
theorem onWire_closed {talk : Exchange τ → Wire τ → Except (Fault τ) α × Exchange τ × Wire τ}
    (htalk : ∀ x (w : Wire τ), w.server.Settled ms → (talk x w).2.2.server.Settled ms) :
    (onWire talk : Action (Session τ) τ α).Keeps (Closed k ms) := by
  refine Keeps.of_apply fun s hs => ?_
  cases ha : s.attached with
  | none => rwa [onWire_of_attached_none talk ha]
  | some a =>
    obtain ⟨-, hattached, hformer⟩ := onWire_apply talk ha
    rcases hs with hbefore | ⟨hplace, a', ha', hsettled⟩
    · exact .inl (hformer ▸ hbefore)
    · rw [ha, Option.some_inj] at ha'
      exact .inr ⟨hformer ▸ hplace, _, hattached, htalk _ _ (ha' ▸ hsettled)⟩

omit [Timeline τ] in
theorem Closed.onServer (h : s.Closed k ms) {change : τ → Server τ → Server τ}
    (hchange : ∀ now v, v.Settled ms → (change now v).Settled ms) :
    (s.onServer change).Closed k ms :=
  h.imp id fun hshut => hshut.onServer hchange

/-- **What a settled server has been told lasts.** -/
theorem lasting_closed (k : Nat) (ms : List Message) : Lasting (τ := τ) (Closed k ms) where
  quiet s t hholdings h := by
    have hattached : t.attached = s.attached := congrArg Holdings.attached hholdings
    have hformer : t.former = s.former := congrArg Holdings.former hholdings
    rcases h with ⟨v, hv, hreceived⟩ | ⟨hplace, a, ha, hsettled⟩
    · exact .inl ⟨v, hformer ▸ hv, hreceived⟩
    · exact .inr ⟨hformer ▸ hplace, a, hattached.trans ha, hsettled⟩
  request method params := onWire_closed fun x _ h =>
    x.request_keeps (Wire.serves_settled ms) (fun _ => Wire.send_settled _) none h
  notify _ _ := onWire_closed fun _ _ h => (Wire.send_settled _).apply h
  drain timeout := onWire_closed fun x _ h => x.drain_keeps (Wire.serves_settled ms) timeout h
  teardown graceful := by
    intro s hs
    cases ha : s.attached with
    | none =>
      rw [teardown_of_attached_none graceful ha]
      exact hs
    | some a =>
      rcases hs with hbefore | ⟨hplace, a', ha', hsettled⟩
      · -- a server of before keeps its place when another one joins
        obtain ⟨v, hv, hreceived⟩ := hbefore
        obtain ⟨joined, hjoined⟩ := (teardown_grows graceful s).former
        have hlt := (List.getElem?_eq_some_iff.mp hv).1
        have hafter : ((Session.teardown graceful).apply s).2.former[k]? = some v := by
          rw [← hjoined, List.getElem?_append_left hlt, hv]
        split <;> next heq =>
          rw [heq] at hafter
          exact .inl ⟨v, hafter, hreceived⟩
      · exact teardown_closed graceful s ⟨hplace, a', ha', hsettled.received⟩
  attach s _ c hnone _ h := by
    rcases h with hbefore | ⟨-, a, ha, -⟩
    · exact .inl hbefore
    · rw [hnone] at ha
      cases ha
  act _ deeds h := h.onServer fun now _ hv => hv.performAll now deeds
  breakInput _ _ h := h.onServer fun _ _ hv => hv.of_transcript rfl rfl

end Session

end ClassOrder
