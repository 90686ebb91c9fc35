import ClassOrder.Channel.Line
import ClassOrder.Session.Basic

/-!
# Taking a server down

A server is taken down by closing its input, waiting for it if it was asked to end, telling it to
end if it is still there, ending it by force if it still is, and then closing the other streams.
Faults of the system in closing a stream are passed over; any other one stops the teardown where
it stands.

## Main definitions

* `Session.closeStream` — closes a stream of the server.
* `Session.awaitEnd` — waits for the server to end.
* `Session.teardown` — takes the server down.
* `Session.abandon` — takes it down without waiting for it.
-/

namespace ClassOrder.Session

variable {τ : Type}

/-- Changes the attached server, if there is one. -/
def onServer (change : τ → Server τ → Server τ) (s : Session τ) : Session τ :=
  { s with attached := s.attached.map fun a => { a with server := change s.world.clock a.server } }

/-- The session after something was done to its server. -/
def happen (e : ServerEvent τ) (s : Session τ) : Session τ :=
  { s with world := s.world.happen e }

/-- Whether there is a server that has not ended. -/
def serverAlive (s : Session τ) : Bool :=
  match s.attached with
  | some a => a.server.isAlive
  | none => false

variable [Timeline τ]

/-- Closes a stream of the server. -/
def closeStream (close : τ → Server τ → Except (Fault τ) Unit × Server τ) (e : ServerEvent τ) :
    Action (Session τ) τ Unit :=
  .ofFun fun s =>
    match s.attached with
    | none => (.ok (), s)
    | some a =>
      let (r, server) := close s.world.clock a.server
      let s := ({ s with attached := some { a with server } }).happen e
      match r with
      | .ok () => (.ok (), s)
      | .error fault =>
        if passedOver fault then
          (.ok (), s.note ⟨.debug, "Ignoring error while closing server stream"⟩)
        else (.error fault, s)

/-- Closes the server's input. -/
def closeInput : Action (Session τ) τ Unit := closeStream Server.closeInput .inputClosed

/-- Closes the streams that the server wrote to. -/
def closeOutputs : Action (Session τ) τ Unit := do
  closeStream (fun _ server => server.closeOutput) .outputClosed
  closeStream (fun _ server => server.closeComplaints) .complaintsClosed

/-- Waits for the server to end, up to a given time: whether it has ended. -/
def awaitEnd (timeout : τ) : Action (Session τ) τ Bool := do
  modify fun s =>
    (s.onServer fun now server => server.elapse now timeout).happen (.waited (some timeout))
  return !(← get).serverAlive

/-- Waits for a server that was asked to end. -/
def awaitLeave : Action (Session τ) τ Unit := do
  if !(← awaitEnd (← get).settings.shutdownTimeout) then
    log "Language server still running after exit"

/-- Ends the server: tells it to end, and ends it by force if it does not. -/
def terminate : Action (Session τ) τ Unit := do
  modify fun s => (s.onServer fun now server => server.nudge now .terminated).happen .terminated
  if !(← awaitEnd (← get).settings.shutdownTimeout) then
    modify (note ⟨.warning, "Language server ignored SIGTERM, killing it"⟩)
    modify fun s =>
      ((s.onServer fun now server => server.kill now).happen .killed).happen (.waited none)

/-- Lets go of the server, which joins the servers of before. -/
def detach : Action (Session τ) τ Unit :=
  modify fun s => { s with attached := none, former := s.servers }

/-- Takes the server down, if there is one; with `graceful`, it was asked to end and gets the
time to do so. -/
def teardown (graceful : Bool) : Action (Session τ) τ Unit := do
  if (← get).attached.isSome then
    modify fun s => { s with lastId := s.lastRequest }
    closeInput
    if graceful then awaitLeave
    if (← get).serverAlive then terminate
    closeOutputs
    detach

/-- Takes the server down without a word to it. -/
def abandon : Action (Session τ) τ Unit := teardown false

end ClassOrder.Session
