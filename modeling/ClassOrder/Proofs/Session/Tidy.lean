import ClassOrder.Proofs.Session.Outstanding

/-!
# Tidy sessions

A session is tidy if its servers have had one request at a time and no request is open on a server
to talk to.  What is quiet keeps it so, and a teardown makes it so, whatever was open before: the
open request is then one of a server that is not talked to any more.

## Main definitions

* `Session.Loose` — on every server there was one request at a time.
* `Session.Tidy` — the same, and none is open on a server to talk to.

## Main results

* `teardown_tidy` — a teardown, however it ends, leaves a tidy session.
-/

namespace ClassOrder

open ClassOrder.Action (Keeps Triple)

variable {τ α : Type}

namespace Session

variable {s t : Session τ} {P Q : List Passage → Prop}

/-- What has passed between the session and its servers, one by one. -/
def transcripts (s : Session τ) : List (List Passage) := s.servers.map (·.transcript)

/-- On every server there was one request at a time. -/
def Loose (s : Session τ) : Prop := ∀ t ∈ s.transcripts, OneAtATime t

/-- On every server there was one request at a time, and none is open on one to talk to. -/
structure Tidy (s : Session τ) : Prop where
  loose : s.Loose
  none_open : s.isRunning = true → s.OnTranscript (openRequests · = [])

/-- On the servers of before there was one request at a time, and something holds of the
transcript of the server that there is. -/
def InOrder (P : List Passage → Prop) (s : Session τ) : Prop :=
  (∀ v ∈ s.former, OneAtATime v.transcript) ∧ s.OnTranscript P

theorem transcripts_of_attached {a : Attached τ} (ha : s.attached = some a) :
    s.transcripts = s.former.map (·.transcript) ++ [a.server.transcript] := by
  simp [transcripts, servers, ha]

theorem transcripts_congr (h : t.holdings = s.holdings) : t.transcripts = s.transcripts := by
  have hattached : t.attached = s.attached := congrArg Holdings.attached h
  have hformer : t.former = s.former := congrArg Holdings.former h
  rw [transcripts, transcripts, servers, servers, hattached, hformer]

theorem Tidy.of_holdings (hs : s.Tidy) (h : t.holdings = s.holdings) : t.Tidy where
  loose := by
    rw [Loose, transcripts_congr h]
    exact hs.loose
  none_open hrunning := (hs.none_open (isRunning_congr h ▸ hrunning)).of_holdings h

theorem Tidy.of_not_running (hs : s.Loose) (h : s.isRunning = false) : s.Tidy where
  loose := hs
  none_open hrunning := by
    rw [h] at hrunning
    cases hrunning

theorem InOrder.mono (hs : s.InOrder P) (hPQ : ∀ t, P t → Q t) : s.InOrder Q :=
  ⟨hs.1, hs.2.mono hPQ⟩

theorem InOrder.of_holdings (hs : s.InOrder P) (h : t.holdings = s.holdings) : t.InOrder P := by
  refine ⟨?_, hs.2.of_holdings h⟩
  rw [show t.former = s.former from congrArg Holdings.former h]
  exact hs.1

theorem InOrder.loose (hs : s.InOrder OneAtATime) : s.Loose := by
  obtain ⟨hformer, a, ha, hattached⟩ := hs
  rw [Loose, transcripts_of_attached ha]
  intro t ht
  rw [List.mem_append, List.mem_map, List.mem_singleton] at ht
  rcases ht with ⟨v, hv, rfl⟩ | rfl
  · exact hformer v hv
  · exact hattached

theorem InOrder.tidy (hs : s.InOrder Idle) : s.Tidy where
  loose := (hs.mono fun _ ht => ht.inOrder).loose
  none_open _ := hs.2.mono fun _ ht => ht.none_open

/-- No request is open on a server to talk to. -/
theorem Tidy.inOrder (hs : s.Tidy) (hrunning : s.isRunning = true) : s.InOrder Idle := by
  obtain ⟨a, ha, hopen⟩ := hs.none_open hrunning
  have hloose := hs.loose
  rw [Loose, transcripts_of_attached ha] at hloose
  refine ⟨fun v hv => hloose _ ?_, a, ha, hloose _ ?_, hopen⟩
  · exact List.mem_append_left _ (List.mem_map_of_mem hv)
  · exact List.mem_append_right _ (List.mem_singleton_self _)

/-! ### Quiet actions and teardowns -/

theorem Quiet.tidy {a : Action (Session τ) τ α} (h : Quiet a) : a.Keeps Tidy :=
  h.keeps fun _ _ hholdings hs => hs.of_holdings hholdings

theorem Quiet.inOrder {a : Action (Session τ) τ α} (h : Quiet a) : a.Keeps (InOrder P) :=
  h.keeps fun _ _ hholdings hs => hs.of_holdings hholdings

theorem transcripts_onServer {change : τ → Server τ → Server τ}
    (h : ∀ now w, (change now w).transcript = w.transcript) (s : Session τ) :
    (s.onServer change).transcripts = s.transcripts := by
  cases ha : s.attached with
  | none => simp [transcripts, servers, onServer, ha]
  | some a => simp [transcripts, servers, onServer, ha, h]

theorem bears_transcripts (ts : List (List Passage)) :
    Bears (τ := τ) (fun v w => w.transcript = v.transcript) (·.transcripts = ts) where
  note _ h := h
  happen _ h := h
  onServer hchange h := (transcripts_onServer hchange _).trans h

variable [Timeline τ]

/-- A teardown adds nothing to a transcript. -/
theorem teardown_transcripts (graceful : Bool) (ts : List (List Passage)) :
    (teardown graceful : Action (Session τ) τ Unit).Keeps fun s => s.transcripts = ts := by
  have hserver : Server.Undergoes (τ := τ) fun v w => w.transcript = v.transcript :=
    { elapse := Server.transcript_elapse
      nudge := fun now v => Server.transcript_nudge now .terminated v
      kill := fun now v => Server.transcript_finish now (-9) v
      closeOutput := fun _ => rfl
      closeComplaints := fun _ => rfl }
  refine (bears_transcripts ts).keeps_teardown hserver (fun _ h => h) Server.transcript_closeInput
    (fun s h => ?_) graceful
  -- the server moves to those of before
  simpa [transcripts, servers] using h

theorem isRunning_teardown (graceful : Bool) (s : Session τ) :
    ((teardown graceful).apply s).2.isRunning = false := by
  cases ha : s.attached with
  | none =>
    rw [teardown_of_attached_none graceful ha]
    exact isRunning_of_attached_none ha
  | some a =>
    have hrun := teardown_triple a s.former graceful s ⟨ha, rfl⟩
    split at hrun
    · next heq =>
      rw [heq]
      exact isRunning_of_attached_none hrun.1
    · next heq =>
      rw [heq]
      exact hrun.1.isRunning

/-- A teardown, however it ends, leaves a tidy session. -/
theorem teardown_tidy (graceful : Bool) :
    Triple Loose (teardown graceful : Action (Session τ) τ Unit)
      (fun _ => Tidy) (fun _ => Tidy) := by
  intro s hs
  have hrunning := isRunning_teardown graceful s
  have hkept := (teardown_transcripts graceful s.transcripts).apply rfl
  rcases hrun : (teardown graceful).apply s with ⟨fault | ⟨⟩, t⟩
  · rw [hrun] at hrunning hkept
    exact .of_not_running (by rw [Loose, hkept]; exact hs) hrunning
  · rw [hrun] at hrunning hkept
    exact .of_not_running (by rw [Loose, hkept]; exact hs) hrunning

end Session

end ClassOrder
