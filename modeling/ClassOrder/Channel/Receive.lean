import ClassOrder.Channel.Inlet

/-!
# Receiving frames

Reading one frame off an inlet: the bytes read before are scanned first, and while they hold no
whole frame, more are read, until the deadline.  What was read and not used stays for the next
time, so that running out of time in the middle of a frame costs nothing.

## Main definitions

* `Receipt` — what receiving gives, and what is left.
* `refused?` — whether the system refuses to wait.
* `receiveFrom` — reads one frame off the pieces in line.
* `Intake` — an inlet with the bytes read and not used.
* `Intake.receive` — reads one frame within a given time.
-/

namespace ClassOrder

variable {τ : Type} [Timeline τ]

/-- What receiving gives, and what is left. -/
structure Receipt (τ : Type) where
  /-- A message, or why there is none. -/
  outcome : Except (Fault τ) Message
  /-- What still stands in line. -/
  pending : List (Piece τ)
  /-- The bytes read and not used. -/
  buffer : Bytes
  /-- The time at which receiving ended. -/
  clock : τ

/-- What it means that the stream ends after the bytes read so far. -/
def endFault (buffer : Bytes) : Fault τ :=
  if buffer.isEmpty then .outputClosed else .framing .truncated

/-- A fault met while waiting for more to read. -/
def waitingFault (fault : Fault τ) : Fault τ :=
  if fault.kind.isSystem || fault.kind.isBadValue then .outputUnavailable fault else fault

/-- What it means that the system refuses to wait. -/
def refusalFault : Refusal → Fault τ
  | .tooLong => .timeTooLong
  | .notNumber => waitingFault (.raised .badValue "Invalid value NaN (not a number)")

/-- A fault met when reading, from a pipe or not. -/
def readingFault (timed : Bool) (fault : Fault τ) : Fault τ :=
  if timed then if fault.kind.isSystem then .readFailed fault else fault
  else if fault.kind.isBadValue then .readerClosed fault else fault

/-- What a closed inlet reports. -/
def closedFault (timed : Bool) : Fault τ :=
  if timed then .outputUnavailable (.system .badDescriptor)
  else .readerClosed (.raised .badValue "I/O operation on closed file.")

/-- How long receiving waits, and what it is told. -/
structure Patience (τ : Type) where
  /-- The time at which waiting ends. -/
  deadline : τ
  /-- The time that was allowed, for the report. -/
  timeout : τ

/-- How an inlet is read. -/
structure Manner where
  /-- Whether pieces arrive at times of their own. -/
  timed : Bool
  /-- Whether the reader has closed its end. -/
  closed : Bool

/-- Why the system refuses to wait until the deadline, if it does; it waits for a pipe only. -/
def refused? (m : Manner) (patience : Patience τ) (clock : τ) : Option Refusal :=
  if m.timed then Timeline.refusal? (patience.deadline - clock) else none

/-- What receiving gives without reading more: a frame, a fault, or the bytes to keep while more
are read. -/
def settle (m : Manner) (patience : Patience τ) (clock : τ) (buffer : Bytes)
    (pending : List (Piece τ)) : Except (Receipt τ) Bytes :=
  match scan buffer with
  | .whole body rest => .error ⟨(readBody body).mapError .ofBody, pending, rest, clock⟩
  | .faulty fault kept => .error ⟨.error (.framing fault), pending, kept, clock⟩
  | .wanting kept =>
    if m.timed && patience.deadline - clock ≤ 0 then
      .error ⟨.error (.noData patience.timeout), pending, kept, clock⟩
    else match refused? m patience clock with
      | some refusal => .error ⟨.error (refusalFault refusal), pending, kept, clock⟩
      | none =>
        if m.closed then .error ⟨.error (closedFault m.timed), pending, kept, clock⟩ else .ok kept

/-- The time at which a reader has a piece in its hands, none if that is after the deadline. -/
def arrival? (m : Manner) (patience : Patience τ) (clock : τ) (piece : Piece τ) : Option τ :=
  if m.timed then
    if piece.time ≤ clock + (patience.deadline - clock) then some (later clock piece.time) else none
  else some clock

/-- Reads one frame off the pieces in line, given the bytes read before.  A pipe is waited for
until the deadline; any other inlet gives its pieces at once. -/
def receiveFrom (m : Manner) (patience : Patience τ) (clock : τ) (buffer : Bytes) :
    List (Piece τ) → Receipt τ
  | [] =>
    match settle m patience clock buffer [] with
    | .error receipt => receipt
    | .ok kept =>
      if m.timed then
        ⟨.error (.noData patience.timeout), [], kept, clock + (patience.deadline - clock)⟩
      else ⟨.error (endFault kept), [], kept, clock⟩
  | piece :: rest =>
    match settle m patience clock buffer (piece :: rest) with
    | .error receipt => receipt
    | .ok kept =>
      match arrival? m patience clock piece with
      | none =>
        ⟨.error (.noData patience.timeout), piece :: rest, kept,
          clock + (patience.deadline - clock)⟩
      | some clock =>
        match piece.kind with
        | .data bytes =>
          if bytes.isEmpty then ⟨.error (endFault kept), rest, kept, clock⟩
          else receiveFrom m patience clock (kept ++ bytes) rest
        | .close => ⟨.error (endFault kept), piece :: rest, kept, clock⟩
        | .trouble fault whileWaiting =>
          let fault :=
            if m.timed && whileWaiting then waitingFault fault else readingFault m.timed fault
          ⟨.error fault, rest, kept, clock⟩

/-- An inlet with the bytes read from it and not used. -/
structure Intake (τ : Type) where
  /-- Where more bytes come in. -/
  inlet : Inlet τ
  /-- The bytes read and not used. -/
  buffer : Bytes := []

namespace Intake

/-- Reads one frame within a given time; also the time at which that ended. -/
def receive (timeout clock : τ) (i : Intake τ) : Except (Fault τ) Message × Intake τ × τ :=
  if Timeline.fits timeout then
    let r := receiveFrom ⟨i.inlet.timed, i.inlet.closed⟩ ⟨clock + timeout, timeout⟩ clock i.buffer
      i.inlet.pending
    (r.outcome, ⟨{ i.inlet with pending := r.pending }, r.buffer⟩, r.clock)
  else (.error .timeTooLong, i, clock)

/-- Closes this end of the stream. -/
def close (i : Intake τ) : Intake τ := { i with inlet := { i.inlet with closed := true } }

/-- The number of bytes that are in line or read and not used. -/
def unread (i : Intake τ) : Nat := i.buffer.length + i.inlet.unread

end Intake

end ClassOrder
