import ClassOrder.Channel.Receive
import ClassOrder.Log.Record

/-!
# Channels

A channel exchanges messages with the other side: it writes frames to an outlet and reads frames
off an inlet.  A traced channel also says of every message that it passed through, and does
nothing else differently.

## Main definitions

* `Outlet` — the end of a stream at which bytes go out.
* `sendFault` — what a fault of writing says about the connection.
* `Channel` — the two streams.
* `Channel.send`, `Channel.receive` — the operations.
* `Channel.sentNotes`, `Channel.receivedNotes` — what a traced channel says.
-/

namespace ClassOrder

/-- The end of a stream at which bytes go out. -/
structure Outlet (τ : Type) where
  /-- Whether it is closed. -/
  closed : Bool := false
  /-- What writing fails with. -/
  writeFault : Option (Fault τ) := none
  /-- What flushing fails with, after the bytes have been written. -/
  flushFault : Option (Fault τ) := none
  /-- What closing fails with, after the outlet has been closed. -/
  closeFault : Option (Fault τ) := none
  /-- The bytes that have been written. -/
  written : Bytes := []

/-- What writing to a closed outlet fails with. -/
def closedOutlet {τ : Type} : Fault τ := .raised .badValue "write to closed file"

/-- What a fault of writing says about the connection. -/
def sendFault {τ : Type} (fault : Fault τ) : Fault τ :=
  if fault.kind = .brokenPipe ∨ fault.kind = .connectionReset then .inputClosed fault
  else if fault.kind.isBadValue then .writerClosed fault
  else fault

/-- What comes of closing a stream that fails in a given way, if it does. -/
def closing {τ : Type} : Option (Fault τ) → Except (Fault τ) Unit
  | some fault => .error fault
  | none => .ok ()

namespace Outlet

variable {τ : Type}

/-- Writes bytes and flushes them out. -/
def write (bytes : Bytes) (o : Outlet τ) : Except (Fault τ) Unit × Outlet τ :=
  if o.closed then (.error closedOutlet, o)
  else match o.writeFault with
    | some fault => (.error fault, o)
    | none =>
      let o := { o with written := o.written ++ bytes }
      match o.flushFault with
      | some fault => (.error fault, o)
      | none => (.ok (), o)

/-- Closes an outlet, which stays closed even if that fails. -/
def close (o : Outlet τ) : Except (Fault τ) Unit × Outlet τ :=
  (closing o.closeFault, { o with closed := true })

@[simp] theorem closed_close (o : Outlet τ) : o.close.2.closed = true := rfl

theorem write_of_closed {o : Outlet τ} (h : o.closed = true) (bytes : Bytes) :
    o.write bytes = (.error closedOutlet, o) := by
  simp [write, h]

end Outlet

/-- The log entry of a message that is about to be sent. -/
def sentRecord (m : Message) : Record := ⟨.debug, "→ Sending: " ++ m.payload.spread false⟩

/-- The log entry of a message that was received. -/
def receivedRecord (m : Message) : Record := ⟨.debug, "← Received: " ++ m.payload.spread false⟩

/-- Two streams over which messages are exchanged. -/
structure Channel (τ : Type) where
  /-- The stream that frames are read off. -/
  intake : Intake τ
  /-- The stream that frames are written to. -/
  outlet : Outlet τ := {}
  /-- How long receiving waits when it is not told. -/
  readTimeout : τ
  /-- Whether every message is logged. -/
  traced : Bool := false

namespace Channel

variable {τ : Type}

/-- Sends a message. -/
def send (m : Message) (c : Channel τ) : Except (Fault τ) Unit × Channel τ :=
  let (r, outlet) := c.outlet.write m.frame
  (r.mapError sendFault, { c with outlet })

/-- Receives a message within a given time, or the time that receiving waits when not told; also
the time at which that ended. -/
def receive [Timeline τ] (timeout : Option τ) (clock : τ) (c : Channel τ) :
    Except (Fault τ) Message × Channel τ × τ :=
  let (r, intake, clock) := c.intake.receive (timeout.getD c.readTimeout) clock
  (r, { c with intake }, clock)

/-- What is logged about a message that is about to be sent. -/
def sentNotes (m : Message) (c : Channel τ) : List Record :=
  if c.traced then [sentRecord m] else []

/-- What is logged after receiving. -/
def receivedNotes (r : Except (Fault τ) Message) (c : Channel τ) : List Record :=
  match r with
  | .ok m => if c.traced then [receivedRecord m] else []
  | .error _ => []

end Channel

end ClassOrder
