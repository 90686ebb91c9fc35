import ClassOrder.Action
import ClassOrder.Log.Record
import ClassOrder.Server.Reply

/-!
# Exchanges

An exchange sends the requests of this side, one at a time, and waits for the response to each.
While it waits it replies to what the server asks and passes over everything else.  Two bounds
hold: a request waits so long for its response, and one read waits so long for any message.

## Main definitions

* `Link` — what an exchange needs of the connection below it.
* `RequestState`, `Exchange` — where the last request stands, and what is kept between requests.
* `awaitResponse` — waits for the response to a request.
* `Exchange.request`, `Exchange.notify`, `Exchange.drain` — the operations.
-/

namespace ClassOrder

/-- What an exchange needs of the connection below it, whose states have type `σ`. -/
structure Link (σ τ : Type) where
  /-- Sends a message. -/
  send : Message → Action σ τ Unit
  /-- Receives a message within a given time. -/
  receive : τ → Action σ τ Message
  /-- The time. -/
  now : σ → τ
  /-- A number that every message received makes smaller and nothing sent makes larger. -/
  unread : σ → Nat
  /-- Adds a log entry. -/
  note : Record → σ → σ

/-- Where the last request stands. -/
inductive RequestState where
  | idle
  | awaitingResponse
  | completed
  | timedOut
  | failed
  deriving DecidableEq, Repr, Inhabited

/-- The name of a state. -/
def RequestState.name : RequestState → String
  | idle => "idle"
  | awaitingResponse => "awaiting_response"
  | completed => "completed"
  | timedOut => "timed_out"
  | failed => "failed"

/-- What is kept between requests. -/
structure Exchange (τ : Type) where
  /-- The number of the last request. -/
  lastId : Int := 0
  /-- How long a request waits for its response. -/
  requestTimeout : τ
  /-- How long one read waits for a message. -/
  readTimeout : τ
  /-- Where the last request stands. -/
  state : RequestState := .idle
  /-- The settings that the server may ask for. -/
  preferences : Preferences

/-- How waiting for a response ends. -/
inductive Ending (τ : Type) where
  /-- With the response, which holds a result. -/
  | answered (result : Json)
  /-- With the response, which holds an error. -/
  | refused (error : ErrorObject)
  /-- Without a response in the time allowed. -/
  | expired
  /-- Without any message in the time that one read is allowed. -/
  | stalled
  /-- With a fault of receiving, of sending a reply or of making one. -/
  | failed (fault : Fault τ)

/-- The text of the identifier of a response in the log. -/
def shownId : Option MessageId → String
  | some id => id.shown
  | none => "None"

variable {σ τ : Type}

/-- Replies to a message of the server, if a reply is due. -/
def answer (link : Link σ τ) (p : Preferences) (m : Message) : Action σ τ Unit :=
  .ofFun fun s =>
    let s := match replyNote? m with
      | some text => link.note ⟨.debug, text⟩ s
      | none => s
    match replyTo p m with
    | .error fault => (.error fault, s)
    | .ok none => (.ok (), s)
    | .ok (some reply) => (link.send reply).apply s

/-- The log entry about a response that no request waits for. -/
def discardNote (id : Option MessageId) : Record :=
  ⟨.debug, "Discarding unmatched response " ++ shownId id⟩

variable [Timeline τ]

/-- What bounds waiting for a response. -/
structure Bounds (τ : Type) where
  /-- When waiting began. -/
  start : τ
  /-- How long it may last. -/
  timeout : τ
  /-- How long one read may last. -/
  readTimeout : τ

/-- Waits for the response to the request `id`, reading at most `reads` messages. -/
def awaitResponse (link : Link σ τ) (p : Preferences) (b : Bounds τ) (id : MessageId) :
    (reads : Nat) → σ → Ending τ × σ
  | 0, s => (.expired, s)
  | reads + 1, s =>
    let remaining := b.timeout - (link.now s - b.start)
    if remaining ≤ 0 then (.expired, s)
    else match (link.receive (earlier b.readTimeout remaining)).apply s with
      | (.error fault, s) =>
        if fault.kind = .timeout then
          (if b.readTimeout < remaining then .stalled else .expired, s)
        else (.failed fault, s)
      | (.ok (.response rid result error), s) =>
        if rid = some id then
          (match error with
            | some e => .refused e
            | none => .answered result, s)
        else awaitResponse link p b id reads (link.note (discardNote rid) s)
      | (.ok m, s) =>
        match (answer link p m).apply s with
        | (.error fault, s) => (.failed fault, s)
        | (.ok (), s) => awaitResponse link p b id reads s

namespace Ending

/-- Where a request stands after waiting for its response ended; a server's error that reached
the exchange as a fault leaves it waiting. -/
def stateAfter : Ending τ → RequestState
  | answered _ | refused _ => .completed
  | expired | stalled => .timedOut
  | failed fault =>
    match fault.kind with
    | .timeout => .timedOut
    | .domain => .awaitingResponse
    | _ => .failed

/-- What a request gives after waiting for its response ended. -/
def outcome (method : String) (timeout readTimeout : τ) : Ending τ → Except (Fault τ) Json
  | answered result => .ok result
  | refused error => .error (.refused method error)
  | expired => .error (.requestExpired method timeout)
  | stalled => .error (.requestStalled method readTimeout timeout)
  | failed fault => .error fault

end Ending

namespace Exchange

/-- Sends a request and waits for its response: its result, or why there is none. -/
def request (link : Link σ τ) (method : String) (params : Json) (timeout : Option τ)
    (x : Exchange τ) (s : σ) : Except (Fault τ) Json × Exchange τ × σ :=
  let timeout := timeout.getD x.requestTimeout
  let id := x.lastId + 1
  let x := { x with lastId := id }
  let s := link.note ⟨.debug, "Sending request " ++ toString id ++ ": " ++ method⟩ s
  let (ending, s) : Ending τ × σ :=
    match (link.send (.request (.number id) method params)).apply s with
    | (.error fault, s) => (.failed fault, s)
    | (.ok (), s) =>
      if Timeline.fits timeout then
        awaitResponse link x.preferences ⟨link.now s, timeout, x.readTimeout⟩ (.number id)
          (link.unread s + 1) s
      else (.failed .timeTooLong, s)
  (ending.outcome method timeout x.readTimeout, { x with state := ending.stateAfter }, s)

/-- Sends a notification. -/
def notify (link : Link σ τ) (method : String) (params : Json) : Action σ τ Unit :=
  link.send (.notification method params)

/-- Replies to the server's messages until the time is up, reading at most `reads` of them, and
counts them on from `handled`. -/
def drainFrom (link : Link σ τ) (p : Preferences) (start timeout : τ) :
    (reads handled : Nat) → σ → Except (Fault τ) Nat × σ
  | 0, handled, s => (.ok handled, s)
  | reads + 1, handled, s =>
    let remaining := timeout - (link.now s - start)
    if remaining ≤ 0 then (.ok handled, s)
    else match (link.receive remaining).apply s with
      | (.error fault, s) =>
        if fault.kind = .timeout then (.ok handled, s) else (.error fault, s)
      | (.ok (.response rid _ _), s) =>
        drainFrom link p start timeout reads handled (link.note (discardNote rid) s)
      | (.ok m, s) =>
        match (answer link p m).apply s with
        | (.error fault, s) => (.error fault, s)
        | (.ok (), s) => drainFrom link p start timeout reads (handled + 1) s

/-- Replies to the server's messages until the time is up: how many there were. -/
def drain (link : Link σ τ) (timeout : τ) (x : Exchange τ) (s : σ) : Except (Fault τ) Nat × σ :=
  if Timeline.fits timeout then
    drainFrom link x.preferences (link.now s) timeout (link.unread s + 1) 0 s
  else (.error .timeTooLong, s)

end Exchange

end ClassOrder
