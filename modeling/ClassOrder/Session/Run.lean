import ClassOrder.Session.Calls

/-!
# Runs of a session

A run is a list of turns: operations of the session, and things that happen to it in between.
Time goes by, files change, the server writes or ends of its own accord, or its input breaks.

## Main definitions

* `Call`, `Call.perform` — the operations.
* `Turn`, `Turn.take` — the turns.
* `Session.run` — a session after a run.
-/

namespace ClassOrder

/-- An operation of a session. -/
inductive Call where
  | start
  | stop
  | abandon
  | cleanup
  | prepare
  | sort (classes : String)
  | sortOnce (classes : String)
  | project
  deriving DecidableEq, Repr

/-- A turn of a run. -/
inductive Turn (τ : Type) where
  /-- An operation of the session. -/
  | call (c : Call)
  /-- Time goes by. -/
  | pass (time : τ)
  /-- Files change. -/
  | edit (change : FileTree → FileTree)
  /-- The server does something by itself. -/
  | act (deeds : List (Deed τ))
  /-- Writing to the server begins to fail, or ends to. -/
  | breakInput (fault : Option (Fault τ))

variable {τ : Type} [Timeline τ]

/-- Performs an operation, which gives null if it has nothing to give. -/
def Call.perform : Call → Action (Session τ) τ Json
  | start => do
    Session.ensureStarted
    return .null
  | stop => do
    Session.stop
    return .null
  | abandon => do
    Session.abandon
    return .null
  | cleanup => do
    Session.cleanup
    return .null
  | prepare => do
    Session.prepareWorkspace
    return .null
  | sort classes => do return .string (← Session.sortClasses classes)
  | sortOnce classes => do return .string (← Session.sortOnce classes)
  | project => Session.getProject

/-- Takes a turn. -/
def Turn.take (s : Session τ) : Turn τ → Except (Fault τ) Json × Session τ
  | call c => c.perform.apply s
  | pass time => (.ok .null, { s with world := { s.world with clock := s.world.clock + time } })
  | edit change =>
    (.ok .null, { s with world := { s.world with
      host := { s.world.host with files := change s.world.host.files } } })
  | act deeds => (.ok .null, s.onServer fun now server => server.performAll now deeds)
  | breakInput fault => (.ok .null, s.onServer fun _ server => server.breakInput fault none)

/-- A session after a run. -/
def Session.run (s : Session τ) (turns : List (Turn τ)) : Session τ :=
  turns.foldl (fun s turn => (turn.take s).2) s

end ClassOrder
