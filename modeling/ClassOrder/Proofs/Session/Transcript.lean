import ClassOrder.Proofs.Session.Later

/-!
# What passes in a conversation

What a session does to the transcript of its server: a request adds itself, what is read and
replied while it waits, and its response if that comes; a notification adds itself; a drain adds
what is read and replied.

## Main definitions

* `Session.OnTranscript` — something holds of the transcript of the server that there is.
* `Message.responds` — whether a message is the response to a request.

## Main results

* `request_transcript`, `notify_transcript`, `drain_transcript` — what the three do to it.
-/

namespace ClassOrder

open ClassOrder.Action (Keeps Triple)

variable {τ α : Type}

/-- Whether a message is the response to a request. -/
def Message.responds (id : MessageId) : Message → Bool
  | .response rid _ _ => rid = some id
  | _ => false

theorem Message.eq_of_responds {id : MessageId} {m : Message} (h : m.responds id = true) :
    ∃ result error, m = .response (some id) result error := by
  cases m with
  | response rid result error =>
    simp only [responds, decide_eq_true_eq] at h
    exact ⟨result, error, by rw [h]⟩
  | request _ _ _ => cases h
  | notification _ _ => cases h

/-- A reply to the server. -/
def reply (id : MessageId) (result : Json) : Passage := .sent (.response (some id) result none)

namespace Session

/-- Something holds of the transcript of the server that there is. -/
def OnTranscript (P : List Passage → Prop) (s : Session τ) : Prop :=
  ∃ a, s.attached = some a ∧ P a.server.transcript

variable {P : List Passage → Prop}

theorem OnTranscript.mono {Q : List Passage → Prop} {s : Session τ} (h : s.OnTranscript P)
    (hPQ : ∀ t, P t → Q t) : s.OnTranscript Q := by
  obtain ⟨a, ha, hP⟩ := h
  exact ⟨a, ha, hPQ _ hP⟩

theorem OnTranscript.of_holdings {s t : Session τ} (h : s.OnTranscript P)
    (hholdings : t.holdings = s.holdings) : t.OnTranscript P := by
  obtain ⟨a, ha, hP⟩ := h
  exact ⟨a, (congrArg Holdings.attached hholdings).trans ha, hP⟩

theorem onWire_transcript {Q : α → List Passage → Prop} {E : Fault τ → List Passage → Prop}
    {talk : Exchange τ → Wire τ → Except (Fault τ) α × Exchange τ × Wire τ}
    (htalk : ∀ x (w : Wire τ), P w.server.transcript → match talk x w with
      | (.ok r, _, w) => Q r w.server.transcript
      | (.error fault, _, w) => E fault w.server.transcript) :
    Triple (OnTranscript P) (onWire talk : Action (Session τ) τ α)
      (fun r => OnTranscript (Q r)) (fun fault => OnTranscript (E fault)) := by
  rintro s ⟨a, ha, hP⟩
  have hrun := htalk a.exchange ⟨a.server, s.world.clock, s.world.log⟩ hP
  rw [onWire, Action.apply_ofFun]
  simp only [ha]
  generalize talk a.exchange _ = talked at hrun
  obtain ⟨fault | r, x, w⟩ := talked
  · exact ⟨_, rfl, hrun⟩
  · exact ⟨_, rfl, hrun⟩

end Session

variable [Timeline τ]

/-! ### Wires -/

theorem Wire.send_transcript {P Q : List Passage → Prop} {m : Message}
    (h : ∀ t, P t → Q (t ++ [.sent m])) :
    Triple (fun w => P w.server.transcript) (Wire.send m : Action (Wire τ) τ Unit)
      (fun _ w => Q w.server.transcript) (fun _ w => P w.server.transcript) := by
  intro w hw
  have hsent := w.server.transcript_send w.clock m
  rw [Wire.send, Action.apply_ofFun]
  dsimp only
  generalize w.server.send w.clock m = sent at hsent
  obtain ⟨fault | ⟨⟩, v⟩ := sent
  · dsimp only at hsent ⊢
    rw [hsent, List.append_nil]
    exact hw
  · dsimp only at hsent ⊢
    rw [hsent]
    exact h _ hw

theorem Wire.receive_transcript {P : List Passage → Prop} {Q : Message → List Passage → Prop}
    (h : ∀ t m, P t → Q m (t ++ [.read m])) (timeout : τ) :
    Triple (fun w => P w.server.transcript) (Wire.receive timeout : Action (Wire τ) τ Message)
      (fun m w => Q m w.server.transcript) (fun _ w => P w.server.transcript) := by
  intro w hw
  have hread := w.server.transcript_receive timeout w.clock
  rw [Wire.receive, Action.apply_ofFun]
  dsimp only
  generalize w.server.receive timeout w.clock = read at hread
  obtain ⟨fault | m, v, clock⟩ := read
  · dsimp only at hread ⊢
    rw [hread, List.append_nil]
    exact hw
  · dsimp only at hread ⊢
    rw [hread]
    exact h _ _ hw

/-- What holds of a transcript whatever is read and replied holds while the server is served. -/
theorem Wire.serves_transcript {P : List Passage → Prop}
    (hreply : ∀ t id result, P t → P (t ++ [reply id result]))
    (hread : ∀ t m, P t → P (t ++ [.read m])) :
    (Wire.link : Link (Wire τ) τ).Serves fun w => P w.server.transcript where
  note _ _ h := h
  reply id result := Wire.send_transcript fun t ht => hreply t id result ht
  receive := Wire.receive_transcript hread

/-- The same while a request waits, until its response is read. -/
theorem Wire.awaits_transcript {id : MessageId} {I D : List Passage → Prop}
    (hreply : ∀ t rid result, I t → I (t ++ [reply rid result]))
    (hread : ∀ t m, I t → m.responds id = false → I (t ++ [.read m]))
    (hanswer : ∀ t m, I t → m.responds id = true → D (t ++ [.read m])) :
    (Wire.link : Link (Wire τ) τ).Awaits id (fun w => I w.server.transcript)
      (fun w => D w.server.transcript) where
  note _ _ h := h
  reply rid result := Wire.send_transcript fun t ht => hreply t rid result ht
  receive timeout := by
    have h := Wire.receive_transcript (τ := τ) (P := I)
      (Q := fun m t => if m.responds id then D t else I t) (fun t m ht => ?_) timeout
    · refine h.post (fun m w hw => ?_) fun _ _ hw => hw
      cases m with
      | response rid result error => simpa [Message.responds] using hw
      | request rid method params => exact hw
      | notification method params => exact hw
    · split
      · next hresponds => exact hanswer t m ht hresponds
      · next hresponds => exact hread t m ht (by simpa using hresponds)

namespace Session

/-! ### The three operations -/

/-- What a request does to the transcript: `I` holds while it waits, and `D` once the response is
there. -/
theorem request_transcript {B D : List Passage → Prop} {I : MessageId → List Passage → Prop}
    {method : String} {params : Json}
    (hsend : ∀ id t, B t → I id (t ++ [.sent (.request id method params)]))
    (hreply : ∀ id t rid result, I id t → I id (t ++ [reply rid result]))
    (hread : ∀ id t m, I id t → m.responds id = false → I id (t ++ [.read m]))
    (hanswer : ∀ id t m, I id t → m.responds id = true → D (t ++ [.read m])) :
    Triple (OnTranscript B) (request method params : Action (Session τ) τ Json)
      (fun _ => OnTranscript D)
      (fun _ => OnTranscript fun t => D t ∨ (∃ id, I id t) ∨ B t) := by
  refine onWire_transcript fun x w hw => ?_
  have hspec := x.request_spec method params (B := fun w => B w.server.transcript)
    (fun _ _ h => h) (Wire.send_transcript (hsend (.number (x.lastId + 1))))
    (Wire.awaits_transcript (hreply _) (hread _) (hanswer _)) none hw
  generalize x.request Wire.link method params none w = talked at hspec
  obtain ⟨fault | result, y, v⟩ := talked
  · rcases hspec with h | h | h
    · exact .inl h
    · exact .inr (.inl ⟨_, h⟩)
    · exact .inr (.inr h)
  · exact hspec

theorem notify_transcript {P Q : List Passage → Prop} {method : String} {params : Json}
    (h : ∀ t, P t → Q (t ++ [.sent (.notification method params)])) :
    Triple (OnTranscript P) (notify method params : Action (Session τ) τ Unit)
      (fun _ => OnTranscript Q) (fun _ => OnTranscript P) := by
  refine onWire_transcript fun x w hw => ?_
  have hsent := Wire.send_transcript h w hw
  dsimp only [Exchange.notify, Wire.link]
  generalize (Wire.send (.notification method params)).apply w = sent at hsent
  obtain ⟨fault | r, v⟩ := sent <;> exact hsent

theorem drain_transcript {P : List Passage → Prop} (timeout : τ)
    (hreply : ∀ t id result, P t → P (t ++ [reply id result]))
    (hread : ∀ t m, P t → P (t ++ [.read m])) :
    (drain timeout : Action (Session τ) τ Nat).Keeps (OnTranscript P) := by
  refine onWire_transcript (Q := fun _ => P) (E := fun _ => P) fun x w hw => ?_
  have hkept := x.drain_keeps (Wire.serves_transcript hreply hread) timeout hw
  dsimp only
  generalize x.drain Wire.link timeout w = drained at hkept
  obtain ⟨fault | r, v⟩ := drained <;> exact hkept

end Session

end ClassOrder
