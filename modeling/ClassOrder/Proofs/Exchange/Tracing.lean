import ClassOrder.Channel.Line
import ClassOrder.Proofs.Action.Blind
import ClassOrder.Proofs.Exchange.Surroundings
import ClassOrder.Session.Wire

/-!
# Traced connections

Tracing a connection adds to its log what is sent and received, and nothing else comes of it.  An
exchange over a connection that does not see the log, nor whether it is traced, does not see them
either: it asks, waits and replies in the same way.

## Main definitions

* `Link.Blind` — a connection that does not see what is forgotten, the log among it.
* `Channel.untraced`, `Server.untraced`, `Wire.untraced`, `Line.untraced` — without the tracing and
  without the log.

## Main results

* `Link.Blind.request`, `Link.Blind.drain` — **an exchange does not see what its connection does not
  see.**
* `Wire.blind`, `Line.blind` — a connection does not see whether it is traced.
-/

namespace ClassOrder

open ClassOrder.Action (Blind)

variable {σ τ : Type}

/-! ### Exchanges -/

/-- A connection that does not see what is forgotten; its log is forgotten. -/
structure Link.Blind (link : Link σ τ) (forget : σ → σ) : Prop where
  send : ∀ m, Action.Blind forget (link.send m)
  receive : ∀ time, Action.Blind forget (link.receive time)
  now : ∀ s, link.now s = link.now (forget s)
  unread : ∀ s, link.unread s = link.unread (forget s)
  note : ∀ r s, forget (link.note r s) = forget s

namespace Link.Blind

variable {link : Link σ τ} {forget : σ → σ} {s t : σ}

theorem now_eq (h : link.Blind forget) (hst : forget s = forget t) : link.now s = link.now t := by
  rw [h.now s, hst, ← h.now t]

theorem unread_eq (h : link.Blind forget) (hst : forget s = forget t) :
    link.unread s = link.unread t := by
  rw [h.unread s, hst, ← h.unread t]

theorem note_eq (h : link.Blind forget) (hst : forget s = forget t) (r r' : Record) :
    forget (link.note r s) = forget (link.note r' t) := by
  rw [h.note, h.note, hst]

/-- Replying sees as little: which reply is due is told by the message alone. -/
theorem answer (h : link.Blind forget) (p : Preferences) (m : Message) :
    Action.Blind forget (answer link p m) := by
  rw [← answer_surroundings]
  refine Action.Blind.bind (fun s t hst => ⟨rfl, ?_⟩) fun reply => ?_
  · simp only [Link.surroundings, Action.apply_ofFun]
    split
    · exact h.note_eq hst _ _
    · exact hst
  · cases reply with
    | some reply => exact h.send reply
    | none => exact .pure ()

/-- Replying sees as little together with what is done then, if that sees as little. -/
theorem answer_then (h : link.Blind forget) (p : Preferences) (m : Message) {β : Type}
    (stuck : Fault τ → β) {next : σ → β × σ}
    (hnext : ∀ {s t}, forget s = forget t →
      (next s).1 = (next t).1 ∧ forget (next s).2 = forget (next t).2)
    (hst : forget s = forget t) :
    let done (s : σ) : β × σ :=
      match (ClassOrder.answer link p m).apply s with
      | (.error fault, s) => (stuck fault, s)
      | (.ok (), s) => next s
    (done s).1 = (done t).1 ∧ forget (done s).2 = forget (done t).2 := by
  dsimp only
  rcases (h.answer p m).cases hst with ⟨x, u, v, hu, hv, huv⟩ | ⟨fault, u, v, hu, hv, huv⟩
  · rw [hu, hv]
    exact hnext huv
  · rw [hu, hv]
    exact ⟨rfl, huv⟩

variable [Timeline τ]

/-- Waiting sees as little: by induction on the messages that may still be read. -/
theorem awaitResponse (h : link.Blind forget) (p : Preferences) (b : Bounds τ) (id : MessageId)
    (reads : Nat) (hst : forget s = forget t) :
    (awaitResponse link p b id reads s).1 = (awaitResponse link p b id reads t).1 ∧
      forget (awaitResponse link p b id reads s).2 =
        forget (awaitResponse link p b id reads t).2 := by
  induction reads generalizing s t with
  | zero => exact ⟨rfl, hst⟩
  | succ reads ih =>
    rw [ClassOrder.awaitResponse, ClassOrder.awaitResponse, h.now_eq hst]
    split
    · exact ⟨rfl, hst⟩
    · rcases (h.receive _).cases hst with ⟨m, u, v, hu, hv, huv⟩ | ⟨fault, u, v, hu, hv, huv⟩
      · rw [hu, hv]
        cases m with
        | response rid result error =>
          dsimp only
          split
          · exact ⟨rfl, huv⟩
          · exact ih (h.note_eq huv _ _)
        | request rid method params =>
          exact h.answer_then p (.request rid method params) .failed ih huv
        | notification method params =>
          exact h.answer_then p (.notification method params) .failed ih huv
      · rw [hu, hv]
        dsimp only
        split <;> exact ⟨rfl, huv⟩

/-- **A request does not see what its connection does not see.** -/
theorem request (h : link.Blind forget) (method : String) (params : Json) (timeout : Option τ)
    (x : Exchange τ) (hst : forget s = forget t) :
    (x.request link method params timeout s).1 = (x.request link method params timeout t).1 ∧
      (x.request link method params timeout s).2.1 =
        (x.request link method params timeout t).2.1 ∧
      forget (x.request link method params timeout s).2.2 =
        forget (x.request link method params timeout t).2.2 := by
  unfold Exchange.request
  dsimp only
  rcases (h.send _).cases (h.note_eq hst _ _) with
    ⟨x, u, v, hu, hv, huv⟩ | ⟨fault, u, v, hu, hv, huv⟩
  · rw [hu, hv]
    dsimp only
    split
    · rw [h.now_eq huv, h.unread_eq huv]
      obtain ⟨hending, hleft⟩ := h.awaitResponse _ _ _ _ huv
      rw [hending]
      exact ⟨rfl, rfl, hleft⟩
    · exact ⟨rfl, rfl, huv⟩
  · rw [hu, hv]
    exact ⟨rfl, rfl, huv⟩

theorem drainFrom (h : link.Blind forget) (p : Preferences) (start timeout : τ)
    (reads handled : Nat) (hst : forget s = forget t) :
    (Exchange.drainFrom link p start timeout reads handled s).1 =
        (Exchange.drainFrom link p start timeout reads handled t).1 ∧
      forget (Exchange.drainFrom link p start timeout reads handled s).2 =
        forget (Exchange.drainFrom link p start timeout reads handled t).2 := by
  induction reads generalizing handled s t with
  | zero => exact ⟨rfl, hst⟩
  | succ reads ih =>
    rw [Exchange.drainFrom, Exchange.drainFrom, h.now_eq hst]
    split
    · exact ⟨rfl, hst⟩
    · rcases (h.receive _).cases hst with ⟨m, u, v, hu, hv, huv⟩ | ⟨fault, u, v, hu, hv, huv⟩
      · rw [hu, hv]
        cases m with
        | response rid result error => exact ih _ (h.note_eq huv _ _)
        | request rid method params =>
          exact h.answer_then p (.request rid method params) .error (ih _) huv
        | notification method params =>
          exact h.answer_then p (.notification method params) .error (ih _) huv
      · rw [hu, hv]
        dsimp only
        split <;> exact ⟨rfl, huv⟩

/-- **A drain does not see what its connection does not see.** -/
theorem drain (h : link.Blind forget) (timeout : τ) (x : Exchange τ) (hst : forget s = forget t) :
    (x.drain link timeout s).1 = (x.drain link timeout t).1 ∧
      forget (x.drain link timeout s).2 = forget (x.drain link timeout t).2 := by
  unfold Exchange.drain
  split
  · rw [h.now_eq hst, h.unread_eq hst]
    exact h.drainFrom _ _ _ _ _ hst
  · exact ⟨rfl, hst⟩

end Link.Blind

/-! ### Channels and servers -/

/-- A channel that is not traced. -/
def Channel.untraced (c : Channel τ) : Channel τ := { c with traced := false }

namespace Server

/-- A server with a channel that is not traced. -/
def untraced (v : Server τ) : Server τ := { v with channel := v.channel.untraced }

@[simp] theorem isAlive_untraced (v : Server τ) : v.untraced.isAlive = v.isAlive := rfl

variable [Timeline τ] (now : τ) (v : Server τ)

theorem finish_untraced (code : Int) :
    v.untraced.finish now code = (v.finish now code).untraced := by
  unfold finish
  rw [isAlive_untraced]
  split <;> rfl

theorem perform_untraced (deed : Deed τ) :
    v.untraced.perform now deed = (v.perform now deed).untraced := by
  cases deed with
  | write chunk =>
    simp only [perform]
    show (if chunk.size ≤ v.credit then _ else _) = _
    split <;> rfl
  | exit code => exact v.finish_untraced now code
  | breakInput writing flushing =>
    simp only [perform]
    rw [isAlive_untraced]
    split <;> rfl

theorem performAll_untraced (deeds : List (Deed τ)) :
    v.untraced.performAll now deeds = (v.performAll now deeds).untraced := by
  induction deeds generalizing v with
  | nil => rfl
  | cons deed deeds ih => rw [performAll_cons, performAll_cons, perform_untraced, ih]

/-- A server is the same when it is launched to be traced. -/
theorem launch_untraced (readTimeout : τ) (traced : Bool) (credit : Nat) (c : Conduct τ) :
    (launch now readTimeout traced credit c).untraced =
      launch now readTimeout false credit c :=
  (performAll_untraced now _ c.opening).symm

theorem send_untraced (m : Message) :
    v.untraced.send now m = ((v.send now m).1, (v.send now m).2.untraced) := by
  unfold send Channel.send
  rw [show v.untraced.channel.outlet = v.channel.outlet from rfl]
  generalize v.channel.outlet.write m.frame = written
  obtain ⟨fault | ⟨⟩, outlet⟩ := written
  · rfl
  · -- the message has arrived, and what the server does about it is told by the messages alone
    let sent : Server τ :=
      { v with channel := { v.channel with outlet }, transcript := v.transcript ++ [.sent m] }
    exact Prod.ext rfl (performAll_untraced now sent (v.conduct.react sent.received))

theorem receive_untraced (timeout clock : τ) :
    v.untraced.receive timeout clock = ((v.receive timeout clock).1,
      (v.receive timeout clock).2.1.untraced, (v.receive timeout clock).2.2) := by
  unfold receive Channel.receive
  rw [show v.untraced.channel.intake = v.channel.intake from rfl]
  rfl

theorem elapse_untraced (time : τ) :
    v.untraced.elapse now time = (v.elapse now time).untraced := by
  unfold elapse
  have hleaves : v.untraced.conduct.leaves v.untraced.nudges time =
      v.conduct.leaves v.nudges time := rfl
  rw [hleaves]
  cases v.conduct.leaves v.nudges time with
  | some code => exact v.finish_untraced now code
  | none => rfl

theorem nudge_untraced (n : Nudge) : v.untraced.nudge now n = (v.nudge now n).untraced :=
  elapse_untraced now { v with nudges := v.nudges ++ [n] } 0

theorem kill_untraced : v.untraced.kill now = (v.kill now).untraced := v.finish_untraced now _

theorem closeInput_untraced :
    v.untraced.closeInput now = ((v.closeInput now).1, (v.closeInput now).2.untraced) := by
  refine Prod.ext rfl ?_
  show (if v.channel.outlet.closed then _ else _) = Server.untraced (if _ then _ else _)
  split
  · rfl
  · exact nudge_untraced now
      { v with channel := { v.channel with outlet := v.channel.outlet.close.2 } } .inputEnded

end Server

/-! ### Connections -/

/-- A wire to a server that is not traced, without the log. -/
def Wire.untraced (w : Wire τ) : Wire τ := { w with server := w.server.untraced, log := [] }

/-- A line that is not traced, without the log. -/
def Line.untraced (l : Line τ) : Line τ := { l with channel := l.channel.untraced, log := [] }

variable [Timeline τ]

/-- **A wire does not see whether it is traced.** -/
theorem Wire.blind : (Wire.link : Link (Wire τ) τ).Blind Wire.untraced where
  send m := Blind.of_forget untraced fun w => by
    have hsend := (w.server.send_untraced w.clock m).symm
    exact ⟨(congrArg Prod.fst hsend :),
      congrArg (fun r => ({ w with server := r.2.untraced, log := [] } : Wire τ)) hsend⟩
  receive time := Blind.of_forget untraced fun w => by
    have hreceive := (w.server.receive_untraced time w.clock).symm
    exact ⟨(congrArg Prod.fst hreceive :), congrArg
      (fun r => ({ w with server := r.2.1.untraced, clock := r.2.2, log := [] } : Wire τ)) hreceive⟩
  now _ := rfl
  unread _ := rfl
  note _ _ := rfl

/-- **A line does not see whether it is traced.** -/
theorem Line.blind : (Line.link : Link (Line τ) τ).Blind Line.untraced where
  send _ := Blind.of_forget untraced fun _ => ⟨rfl, rfl⟩
  receive _ := Blind.of_forget untraced fun _ => ⟨rfl, rfl⟩
  now _ := rfl
  unread _ := rfl
  note _ _ := rfl

end ClassOrder
