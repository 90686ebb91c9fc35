import ClassOrder.Channel.Basic
import ClassOrder.Exchange.Basic

/-!
# Lines

A line is a channel together with what it is used by: the clock that it reads and the log that it
writes.

## Main definitions

* `Line` — a channel with the clock and the log.
* `Line.send`, `Line.receive`, `Line.close` — the operations.
* `Line.link` — a line as the connection of an exchange.
-/

namespace ClassOrder

/-- One of the two streams of a channel. -/
inductive ChannelEnd where
  | writer
  | reader
  deriving DecidableEq, Repr

/-- A channel with the clock and the log. -/
structure Line (τ : Type) where
  /-- The channel. -/
  channel : Channel τ
  /-- The time. -/
  clock : τ
  /-- What has been logged, in order. -/
  log : List Record := []
  /-- The streams that closing was asked for, in order. -/
  closings : List ChannelEnd := []

/-- Whether a fault of closing a stream is passed over. -/
def passedOver {τ : Type} (fault : Fault τ) : Bool := fault.kind.isSystem || fault.kind.isBadValue

namespace Line

variable {τ : Type}

/-- The line with one more log entry. -/
def note (r : Record) (l : Line τ) : Line τ := { l with log := l.log ++ [r] }

/-- Sends a message. -/
def send (m : Message) : Action (Line τ) τ Unit :=
  .ofFun fun l =>
    let (r, channel) := l.channel.send m
    (r, { l with channel, log := l.log ++ l.channel.sentNotes m })

/-- Receives a message within a given time, or the time that receiving waits when not told. -/
def receive [Timeline τ] (timeout : Option τ) : Action (Line τ) τ Message :=
  .ofFun fun l =>
    let (r, channel, clock) := l.channel.receive timeout l.clock
    (r, { l with channel, clock, log := l.log ++ l.channel.receivedNotes r })

/-- Closes the outlet. -/
def closeWriter : Action (Line τ) τ Unit :=
  .ofFun fun l =>
    let (r, outlet) := l.channel.outlet.close
    (r, { l with channel := { l.channel with outlet }, closings := l.closings ++ [.writer] })

/-- Closes the inlet. -/
def closeReader (l : Line τ) : Line τ :=
  { l with
    channel := { l.channel with intake := l.channel.intake.close }
    closings := l.closings ++ [.reader] }

/-- Closes the outlet, then the inlet. -/
def close : Action (Line τ) τ Unit :=
  .ofFun fun l =>
    match closeWriter.apply l with
    | (.ok (), l) => (.ok (), l.closeReader)
    | (.error fault, l) =>
      if passedOver fault then
        (.ok (), (l.note ⟨.debug, "Ignoring error while closing channel stream"⟩).closeReader)
      else (.error fault, l)

/-- A line as the connection of an exchange. -/
def link [Timeline τ] : Link (Line τ) τ where
  send := send
  receive := fun timeout => receive (some timeout)
  now := (·.clock)
  unread := fun l => l.channel.intake.unread
  note := note

end Line

end ClassOrder
