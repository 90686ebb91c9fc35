import ClassOrder.Exchange.Basic

/-!
# Scripted connections

A connection whose other side follows a script: each item says how much time goes by before a
message arrives or receiving fails.  What is sent is recorded.

## Main definitions

* `ScriptItem`, `Script` — the script and what has happened so far.
* `Script.link` — the connection.
-/

namespace ClassOrder

/-- One thing that happens when a message is asked for. -/
structure ScriptItem (τ : Type) where
  /-- How much time goes by first. -/
  advance : τ
  /-- The message that arrives, or the fault of receiving. -/
  event : Except (Fault τ) Message

/-- A script and what has happened so far. -/
structure Script (τ : Type) where
  /-- What has not happened yet. -/
  items : List (ScriptItem τ) := []
  /-- What sending fails with, for each message to come; `none` is no fault. -/
  sendFaults : List (Option (Fault τ)) := []
  /-- The time. -/
  clock : τ
  /-- What has been sent. -/
  sent : List Message := []
  /-- The times within which messages were asked for. -/
  timeouts : List τ := []
  /-- What has been logged. -/
  log : List Record := []

namespace Script

variable {τ : Type}

/-- What receiving fails with when the script is over. -/
def exhausted : Fault τ := .raised .timeout "script exhausted"

/-- Records a message, unless sending it fails. -/
def send (m : Message) : Action (Script τ) τ Unit :=
  .ofFun fun s =>
    match s.sendFaults with
    | some fault :: rest => (.error fault, { s with sendFaults := rest })
    | none :: rest => (.ok (), { s with sendFaults := rest, sent := s.sent ++ [m] })
    | [] => (.ok (), { s with sent := s.sent ++ [m] })

variable [Timeline τ]

/-- Lets the next thing happen. -/
def receive (timeout : τ) : Action (Script τ) τ Message :=
  .ofFun fun s =>
    let s := { s with timeouts := s.timeouts ++ [timeout] }
    match s.items with
    | [] => (.error exhausted, s)
    | item :: rest => (item.event, { s with items := rest, clock := s.clock + item.advance })

/-- The connection. -/
def link : Link (Script τ) τ where
  send := send
  receive := receive
  now := (·.clock)
  unread := fun s => s.items.length
  note := fun r s => { s with log := s.log ++ [r] }

end Script

end ClassOrder
