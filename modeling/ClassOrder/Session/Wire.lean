import ClassOrder.Exchange.Basic
import ClassOrder.Server.Basic

/-!
# Wires

The connection between an exchange and a launched server: whatever is sent reaches the server,
which may react at once.

## Main definitions

* `Wire` — a launched server with the clock and the log.
* `Wire.link` — a wire as the connection of an exchange.
-/

namespace ClassOrder

/-- A launched server with the clock and the log. -/
structure Wire (τ : Type) where
  /-- The server. -/
  server : Server τ
  /-- The time. -/
  clock : τ
  /-- What has been logged, in order. -/
  log : List Record

namespace Wire

variable {τ : Type} [Timeline τ]

/-- Sends a message. -/
def send (m : Message) : Action (Wire τ) τ Unit :=
  .ofFun fun w =>
    let (r, server) := w.server.send w.clock m
    (r, { w with server, log := w.log ++ w.server.channel.sentNotes m })

/-- Receives a message within a given time. -/
def receive (timeout : τ) : Action (Wire τ) τ Message :=
  .ofFun fun w =>
    let (r, server, clock) := w.server.receive timeout w.clock
    (r, { w with server, clock, log := w.log ++ w.server.channel.receivedNotes r })

/-- A wire as the connection of an exchange. -/
def link : Link (Wire τ) τ where
  send := send
  receive := receive
  now := (·.clock)
  unread := (·.server.unread)
  note := fun r w => { w with log := w.log ++ [r] }

end Wire

end ClassOrder
