import ClassOrder.Exchange.Basic

/-!
# Exchanges in any surroundings

What an exchange does with the messages that it reads does not depend on which replies the server
is due, nor on a clock that stands still between two actions.  Here both are left open: the replies
come from a handler that may keep a memory, and looking at the clock is something that happens.
With the replies of `replyTo` and the clock of a link, this is the exchange over that link.

## Main definitions

* `Surroundings` — what an exchange has to do with.
* `Surroundings.awaitRound`, `Surroundings.drainRound` — one round of waiting and of draining.
* `Surroundings.await`, `Surroundings.request`, `Surroundings.drain` — the operations.
* `Link.surroundings` — a link with the replies that are due under given preferences.

## Main results

* `request_surroundings`, `drain_surroundings`, `notify_surroundings` — over a link, the operations
  are those of `Exchange`.
-/

namespace ClassOrder

variable {σ τ : Type}

/-- What an exchange has to do with, as it stands in a state of type `σ`. -/
structure Surroundings (σ τ : Type) where
  /-- Sends a message. -/
  send : Message → Action σ τ Unit
  /-- Receives a message within a given time. -/
  receive : τ → Action σ τ Message
  /-- Makes the reply to a message of the server, if one is due. -/
  handle : Message → Action σ τ (Option Message)
  /-- Looks at the clock. -/
  look : σ → τ × σ
  /-- A number that every message received makes smaller. -/
  unread : σ → Nat
  /-- Adds a log entry. -/
  note : Record → σ → σ

/-- A link with the replies that are due under given preferences. -/
def Link.surroundings (link : Link σ τ) (p : Preferences) : Surroundings σ τ where
  send := link.send
  receive := link.receive
  handle m := .ofFun fun s =>
    (replyTo p m, match replyNote? m with
      | some text => link.note ⟨.debug, text⟩ s
      | none => s)
  look s := (link.now s, s)
  unread := link.unread
  note := link.note

namespace Surroundings

variable (e : Surroundings σ τ)

/-- Replies to a message of the server, if a reply is due. -/
def answer (m : Message) : Action σ τ Unit := do
  match ← e.handle m with
  | some reply => e.send reply
  | none => pure ()

/-- Sends a notification. -/
def notify (method : String) (params : Json) : Action σ τ Unit :=
  e.send (.notification method params)

variable [Timeline τ]

/-- One round of waiting for the response to the request `id`, after which waiting goes on as
`again` says, if it does. -/
def awaitRound (b : Bounds τ) (id : MessageId) (again : σ → Ending τ × σ) (s : σ) :
    Ending τ × σ :=
  let (now, s) := e.look s
  let remaining := b.timeout - (now - b.start)
  if remaining ≤ 0 then (.expired, s)
  else match (e.receive (earlier b.readTimeout remaining)).apply s with
    | (.error fault, s) =>
      if fault.kind = .timeout then
        (if b.readTimeout < remaining then .stalled else .expired, s)
      else (.failed fault, s)
    | (.ok (.response rid result error), s) =>
      if rid = some id then
        (match error with
          | some e => .refused e
          | none => .answered result, s)
      else again (e.note (discardNote rid) s)
    | (.ok m, s) =>
      match (e.answer m).apply s with
      | (.error fault, s) => (.failed fault, s)
      | (.ok (), s) => again s

/-- Waits for the response to the request `id`, reading at most `reads` messages. -/
def await (b : Bounds τ) (id : MessageId) : (reads : Nat) → σ → Ending τ × σ
  | 0, s => (.expired, s)
  | reads + 1, s => e.awaitRound b id (await b id reads) s

/-- Sends a request and waits for its response: its result, or why there is none. -/
def request (method : String) (params : Json) (timeout : Option τ) (x : Exchange τ) (s : σ) :
    Except (Fault τ) Json × Exchange τ × σ :=
  let timeout := timeout.getD x.requestTimeout
  let id := x.lastId + 1
  let x := { x with lastId := id }
  let s := e.note ⟨.debug, "Sending request " ++ toString id ++ ": " ++ method⟩ s
  let (ending, s) : Ending τ × σ :=
    match (e.send (.request (.number id) method params)).apply s with
    | (.error fault, s) => (.failed fault, s)
    | (.ok (), s) =>
      if Timeline.fits timeout then
        let (start, s) := e.look s
        e.await ⟨start, timeout, x.readTimeout⟩ (.number id) (e.unread s + 1) s
      else (.failed .timeTooLong, s)
  (ending.outcome method timeout x.readTimeout, { x with state := ending.stateAfter }, s)

/-- One round of replying to the server's messages until the time is up, which goes on as `again`
says, if it does. -/
def drainRound (start timeout : τ) (again : Nat → σ → Except (Fault τ) Nat × σ) (handled : Nat)
    (s : σ) : Except (Fault τ) Nat × σ :=
  let (now, s) := e.look s
  let remaining := timeout - (now - start)
  if remaining ≤ 0 then (.ok handled, s)
  else match (e.receive remaining).apply s with
    | (.error fault, s) =>
      if fault.kind = .timeout then (.ok handled, s) else (.error fault, s)
    | (.ok (.response rid _ _), s) => again handled (e.note (discardNote rid) s)
    | (.ok m, s) =>
      match (e.answer m).apply s with
      | (.error fault, s) => (.error fault, s)
      | (.ok (), s) => again (handled + 1) s

/-- Replies to the server's messages until the time is up, reading at most `reads` of them, and
counts them on from `handled`. -/
def drainFrom (start timeout : τ) : (reads handled : Nat) → σ → Except (Fault τ) Nat × σ
  | 0, handled, s => (.ok handled, s)
  | reads + 1, handled, s => e.drainRound start timeout (drainFrom start timeout reads) handled s

/-- Replies to the server's messages until the time is up: how many there were. -/
def drain (timeout : τ) (s : σ) : Except (Fault τ) Nat × σ :=
  if Timeline.fits timeout then
    let (start, s) := e.look s
    e.drainFrom start timeout (e.unread s + 1) 0 s
  else (.error .timeTooLong, s)

end Surroundings

/-! ### Over a link -/

variable (link : Link σ τ) (p : Preferences)

theorem answer_surroundings (m : Message) :
    (link.surroundings p).answer m = answer link p m := by
  funext s
  change ((link.surroundings p).answer m).apply s = (answer link p m).apply s
  rw [Surroundings.answer, Action.apply_bind]
  simp only [Link.surroundings, answer, Action.apply_ofFun]
  cases (replyTo p m : Except (Fault τ) (Option Message)) with
  | error fault => rfl
  | ok reply => cases reply <;> rfl

/-- **A notification over a link is one in its surroundings.** -/
theorem notify_surroundings (method : String) (params : Json) :
    (link.surroundings p).notify method params = Exchange.notify link method params := rfl

variable [Timeline τ]

/-- Waiting over a link is waiting in its surroundings: by induction on the messages that may still
be read. -/
theorem await_surroundings (b : Bounds τ) (id : MessageId) (reads : Nat) (s : σ) :
    (link.surroundings p).await b id reads s = awaitResponse link p b id reads s := by
  induction reads generalizing s with
  | zero => rfl
  | succ reads ih =>
    simp only [Surroundings.await, Surroundings.awaitRound, awaitResponse, answer_surroundings, ih]
    rfl

/-- **A request over a link is one in its surroundings.** -/
theorem request_surroundings (method : String) (params : Json) (timeout : Option τ)
    (x : Exchange τ) (s : σ) :
    (link.surroundings x.preferences).request method params timeout x s =
      x.request link method params timeout s := by
  simp only [Surroundings.request, Exchange.request, await_surroundings]
  rfl

theorem drainFrom_surroundings (start timeout : τ) (reads handled : Nat) (s : σ) :
    (link.surroundings p).drainFrom start timeout reads handled s =
      Exchange.drainFrom link p start timeout reads handled s := by
  induction reads generalizing handled s with
  | zero => rfl
  | succ reads ih =>
    simp only [Surroundings.drainFrom, Surroundings.drainRound, Exchange.drainFrom,
      answer_surroundings, ih]
    rfl

/-- **A drain over a link is one in its surroundings.** -/
theorem drain_surroundings (timeout : τ) (x : Exchange τ) (s : σ) :
    (link.surroundings x.preferences).drain timeout s = x.drain link timeout s := by
  simp only [Surroundings.drain, Exchange.drain, drainFrom_surroundings]
  rfl

end ClassOrder
