import ClassOrder.Channel.Basic

/-!
# Launched servers

A server is a program that reads messages, writes bytes and ends some day.  What it does is its
conduct, which may be anything: any answers to any messages, and any patience with being asked to
end.  The session holds the two streams that messages pass through and a third one, on which the
server complains.

## Main definitions

* `Deed`, `Nudge`, `Conduct` — what a server does.
* `Passage` — a message that went one way or the other.
* `Server` — a launched server, with the streams that lead to it.
* `Server.launch` — a server right after it was launched.
* `Server.finish` — the server's end.
* `Server.breakInput` — a server with an input that fails.
* `Server.send`, `Server.receive` — sends the server a message, to which it reacts, and reads one.
* `Server.nudge`, `Server.elapse` — asks the server to end, and lets it take its time.
* `Server.closeInput`, `Server.closeOutput`, `Server.closeComplaints` — close the streams.
-/

namespace ClassOrder

/-- Something that a server does. -/
inductive Deed (τ : Type) where
  /-- It writes to its output. -/
  | write (chunk : Chunk τ)
  /-- It ends. -/
  | exit (code : Int)
  /-- Its input breaks: writing to it fails in a given way, or flushing what was written does.  An
  input that fails in neither way is whole again. -/
  | breakInput (writing flushing : Option (Fault τ))

/-- A sign to a server that it should end. -/
inductive Nudge where
  /-- Its input has ended. -/
  | inputEnded
  /-- It has been told to end. -/
  | terminated
  deriving DecidableEq, Repr

/-- What a server does. -/
structure Conduct (τ : Type) where
  /-- What it does when it is launched. -/
  opening : List (Deed τ) := []
  /-- What it does when a message arrives, given all that have arrived, the newest last. -/
  react : List Message → List (Deed τ)
  /-- The code with which it ends by itself after the given nudges, if it does so within a given
  time. -/
  leaves : List Nudge → τ → Option Int
  /-- The lines of its complaints. -/
  complaints : List Bytes := []
  /-- What closing its input fails with. -/
  inputCloseFault : Option (Fault τ) := none
  /-- What closing its output fails with. -/
  outputCloseFault : Option (Fault τ) := none
  /-- What closing the stream of its complaints fails with. -/
  complaintsCloseFault : Option (Fault τ) := none

/-- A message that passed between a session and its server. -/
inductive Passage where
  /-- It was sent to the server. -/
  | sent (m : Message)
  /-- It was read from the server. -/
  | read (m : Message)

/-- The message that was sent to the server, if it was. -/
def Passage.sent? : Passage → Option Message
  | sent m => some m
  | read _ => none

/-- A launched server, with the streams that lead to it. -/
structure Server (τ : Type) where
  /-- What it does. -/
  conduct : Conduct τ
  /-- The streams that messages pass through. -/
  channel : Channel τ
  /-- Whether the stream of its complaints is closed. -/
  complaintsClosed : Bool := false
  /-- The messages that have passed, in order. -/
  transcript : List Passage := []
  /-- The signs to end that it has been given. -/
  nudges : List Nudge := []
  /-- The code with which it ended, if it has ended. -/
  exitCode : Option Int := none
  /-- How many bytes more it may write in its life. -/
  credit : Nat

/-- The bytes of a chunk. -/
def Chunk.size {τ : Type} : Chunk τ → Nat
  | data bytes => bytes.length
  | wait _ | close | trouble .. => 0

namespace Server

variable {τ : Type}

/-- The messages that have arrived at the server, in order. -/
def received (s : Server τ) : List Message := s.transcript.filterMap Passage.sent?

/-- Whether the server has not ended. -/
def isAlive (s : Server τ) : Bool := s.exitCode.isNone

/-- Whether all three streams are open. -/
def isConnected (s : Server τ) : Bool :=
  !s.channel.outlet.closed && !s.channel.intake.inlet.closed && !s.complaintsClosed

/-- The number of bytes that are or may still come in. -/
def unread (s : Server τ) : Nat := s.channel.intake.unread + s.credit

/-- Closes the server's output, which stays closed even if that fails. -/
def closeOutput (s : Server τ) : Except (Fault τ) Unit × Server τ :=
  (closing s.conduct.outputCloseFault,
    { s with channel := { s.channel with intake := s.channel.intake.close } })

/-- Closes the stream of the server's complaints, which stays closed even if that fails. -/
def closeComplaints (s : Server τ) : Except (Fault τ) Unit × Server τ :=
  (closing s.conduct.complaintsCloseFault, { s with complaintsClosed := true })

/-- The server with an input that fails in given ways, when it is written to and when it is
flushed. -/
def breakInput (writing flushing : Option (Fault τ)) (s : Server τ) : Server τ :=
  { s with channel := { s.channel with
      outlet := { s.channel.outlet with writeFault := writing, flushFault := flushing } } }

variable [Timeline τ]

/-- Puts a chunk in line on the server's output. -/
def feed (now : τ) (chunk : Chunk τ) (s : Server τ) : Server τ :=
  { s with channel := { s.channel with intake := { s.channel.intake with
      inlet := s.channel.intake.inlet.feedChunk now chunk } } }

/-- The server ends: its output ends after what is in line, and its input breaks unless it was
broken before.  A server ends once. -/
def finish (now : τ) (code : Int) (s : Server τ) : Server τ :=
  if s.isAlive then
    let s := s.feed now .close
    let outlet := s.channel.outlet
    { s with
      exitCode := some code
      channel := { s.channel with
        outlet := { outlet with
          writeFault := outlet.writeFault.or (some (.system .brokenPipe)) } } }
  else s

@[simp] theorem isAlive_finish (now : τ) (code : Int) (s : Server τ) :
    (s.finish now code).isAlive = false := by
  unfold finish
  split
  · rfl
  · simp_all

/-- The server does something; what goes over the bytes that it may write is lost.  Once it has
ended its input stays as it is. -/
def perform (now : τ) (s : Server τ) : Deed τ → Server τ
  | .write chunk =>
    if chunk.size ≤ s.credit then { s.feed now chunk with credit := s.credit - chunk.size } else s
  | .exit code => s.finish now code
  | .breakInput writing flushing => if s.isAlive then s.breakInput writing flushing else s

/-- The server does one thing after the other. -/
def performAll (now : τ) (deeds : List (Deed τ)) (s : Server τ) : Server τ :=
  deeds.foldl (perform now) s

@[simp] theorem performAll_nil (now : τ) (s : Server τ) : s.performAll now [] = s := rfl

@[simp] theorem performAll_cons (now : τ) (deed : Deed τ) (deeds : List (Deed τ)) (s : Server τ) :
    s.performAll now (deed :: deeds) = (s.perform now deed).performAll now deeds := rfl

/-- A server right after it was launched. -/
def launch (now : τ) (readTimeout : τ) (traced : Bool) (credit : Nat) (c : Conduct τ) : Server τ :=
  let channel : Channel τ :=
    { intake := ⟨.empty true, []⟩, outlet := { closeFault := c.inputCloseFault }, readTimeout, traced }
  performAll now c.opening { conduct := c, channel, credit }

/-- Sends the server a message, to which it reacts at once. -/
def send (now : τ) (m : Message) (s : Server τ) : Except (Fault τ) Unit × Server τ :=
  match s.channel.send m with
  | (.error fault, channel) => (.error fault, { s with channel })
  | (.ok (), channel) =>
    let s := { s with channel, transcript := s.transcript ++ [Passage.sent m] }
    (.ok (), s.performAll now (s.conduct.react s.received))

/-- Reads a message of the server within a given time; also the time at which that ended. -/
def receive (timeout clock : τ) (s : Server τ) : Except (Fault τ) Message × Server τ × τ :=
  let (r, channel, clock) := s.channel.receive (some timeout) clock
  let passed : List Passage := match r with
    | .ok m => [.read m]
    | .error _ => []
  (r, { s with channel, transcript := s.transcript ++ passed }, clock)

/-- Lets a time go by for the server, in which it may end by itself. -/
def elapse (now time : τ) (s : Server τ) : Server τ :=
  match s.conduct.leaves s.nudges time with
  | some code => s.finish now code
  | none => s

/-- Gives the server a sign to end, which it may heed at once. -/
def nudge (now : τ) (n : Nudge) (s : Server τ) : Server τ :=
  elapse now 0 { s with nudges := s.nudges ++ [n] }

/-- Closes the server's input, which stays closed even if that fails; the server notices the first
time. -/
def closeInput (now : τ) (s : Server τ) : Except (Fault τ) Unit × Server τ :=
  let (r, outlet) := s.channel.outlet.close
  let closed := { s with channel := { s.channel with outlet } }
  (r, if s.channel.outlet.closed then closed else closed.nudge now .inputEnded)

/-- Ends the server by force. -/
def kill (now : τ) (s : Server τ) : Server τ := s.finish now (-9)

@[simp] theorem isAlive_kill (now : τ) (s : Server τ) : (s.kill now).isAlive = false :=
  isAlive_finish now (-9) s

end Server

end ClassOrder
