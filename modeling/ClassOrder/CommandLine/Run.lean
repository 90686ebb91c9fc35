import ClassOrder.CommandLine.Options
import ClassOrder.Log.Setup
import ClassOrder.Session.Calls
import ClassOrder.Settings.Environment
import ClassOrder.Text.Blank

/-!
# Running a command line

A run reads its command line, sets up the log, makes a session with the settings that the
variables and the options give, prints what was asked for, and leaves nothing behind.  The
session's own faults are reported; any other one is a crash.

## Main definitions

* `RunResult` — what a run leaves behind.
* `runCommand` — runs a command line.
-/

namespace ClassOrder

/-- What a run of a command line leaves behind. -/
structure RunResult where
  /-- What it printed. -/
  output : String := ""
  /-- What it reported. -/
  report : String := ""
  /-- The code with which it ended. -/
  exitCode : Nat := 0
  /-- The fault that it crashed with, if it crashed. -/
  crash : Option (Fault Amount) := none
  /-- How the log was set up. -/
  logSetup : LogSetup := {}
  /-- The machine afterwards. -/
  host : Host
  /-- The session that it made, if it came so far. -/
  session : Option (Session Amount) := none

/-- The name of the program. -/
def programName : String := "tailwind-sorter"

/-- How the program is used, in one line. -/
def usageLine : String := "Usage: " ++ programName ++ " [OPTIONS] [CLASSES]...\n"

/-- How the program is used. -/
def helpText : String :=
  usageLine ++
    "\n  Sort Tailwind CSS CLASSES into the recommended order.\n" ++
    "\nOptions:\n" ++
    "  --project      Print the detected Tailwind project\n" ++
    "  --debug        Log every protocol message to stderr\n" ++
    "  --server TEXT  Command that launches the language server\n" ++
    "  --help         Show this message and exit.\n"

namespace RunResult

/-- The result with a fault reported. -/
def withReport (message : String) (exitCode : Nat) (r : RunResult) : RunResult :=
  { r with report := r.report ++ "Error: " ++ message ++ "\n", exitCode }

/-- The result of a command line that is wrong. -/
def misused (fault : UsageFault) (r : RunResult) : RunResult :=
  let hint := usageLine ++ "Try '" ++ programName ++ " --help' for help.\n\n"
  { r with report := r.report ++ hint }.withReport fault.message 2

/-- The result of a run that crashed. -/
def crashed (fault : Fault Amount) (r : RunResult) : RunResult :=
  { r with crash := some fault, exitCode := 1 }

/-- The result of a run that failed: the session's own faults are reported. -/
def failed (fault : Fault Amount) (r : RunResult) : RunResult :=
  if fault.kind.isOwn then r.withReport fault.message 1 else r.crashed fault

/-- The result of a run whose session logs every message: the log is set up anew to show them. -/
def tracing (debug : Bool) (r : RunResult) : RunResult :=
  if debug then { r with logSetup := (LogSetup.configure none (some "DEBUG") true r.logSetup).2 }
  else r

end RunResult

/-- A session and what has been printed. -/
structure Printing where
  /-- The session. -/
  session : Session Amount
  /-- What has been printed. -/
  output : String := ""

namespace Printing

/-- An operation of the session. -/
def onSession {α : Type} (a : Action (Session Amount) Amount α) : Action Printing Amount α :=
  .ofFun fun p =>
    let (r, session) := a.apply p.session
    (r, { p with session })

/-- Prints a line. -/
def print (line : String) : Action Printing Amount Unit :=
  modify fun p => { p with output := p.output ++ line ++ "\n" }

/-- Prints what an invocation asks for. -/
def serve (i : Invocation) : Action Printing Amount Unit := do
  if i.project then
    let project ← onSession Session.getProject
    print (if project.isNull then "No project found" else project.spread true)
  if !i.classes.isEmpty then
    print (← onSession (Session.sortClasses (" ".intercalate i.classes)))

end Printing

/-- The words of the command that launches the server, if it is given. -/
def serverWords (i : Invocation) : Except (Fault Amount) (Option (List String)) :=
  match i.server with
  | none => .ok none
  | some "" => .ok none
  | some s => ((ShellWords.split s).mapError ShellFault.fault).map some

/-- The settings that the variables of a host give, with the options of an invocation over
them. -/
def settingsFor (h : Host) (i : Invocation) (server : Option (List String)) :
    Except (Fault Amount) (Settings Amount) := do
  let given ← settingsFromVariables h
  { given with
    debug := given.debug || i.debug
    serverCommand := server.or given.serverCommand }.check

/-- The session for an invocation, with the variables of the nearest variable file. -/
def sessionFor (w : World Amount) (i : Invocation) (server : Option (List String)) :
    Except (Fault Amount) (Session Amount) := do
  let host ← w.host.loadVariables
  let settings ← settingsFor host i server
  Session.ofSettings Patterns.standard settings { w with host }

/-- Serves an invocation and cleans up whatever comes of it. -/
def serveInvocation (s : Session Amount) (i : Invocation) (r : RunResult) : RunResult :=
  let (served, printing) := (Printing.serve i).apply ⟨s, ""⟩
  let r := { r with output := printing.output }
  let r := match served with
    | .ok () => r
    | .error fault => r.failed fault
  let (cleaned, s) := Session.cleanup.apply printing.session
  let r := { r with host := s.world.host, session := some s }
  match cleaned with
  | .ok () => r
  | .error fault => r.crashed fault

/-- The invocation with the classes of a text, if it asks for nothing else. -/
def Invocation.withInput (input : String) (i : Invocation) : Invocation :=
  if i.classes.isEmpty && !i.project then
    i.withClasses ((Text.words input.toList).map String.ofList)
  else i

/-- Runs an invocation in a world, with a text to read classes from. -/
def runInvocation (i : Invocation) (input : String) (w : World Amount) : RunResult :=
  let r : RunResult := { host := w.host }
  if i.help then { r with output := helpText }
  else
    let (configured, logSetup) := LogSetup.configure (w.host.valueOf? "TAILWIND_SORTER_LOG_LEVEL")
      (if i.debug then some "DEBUG" else none) false {}
    let r := { r with logSetup }
    match configured with
    | .error _ => r.crashed (.raised .badValue "there is no such level")
    | .ok () =>
      match serverWords i with
      | .error fault => r.crashed fault
      | .ok server =>
        let i := i.withInput input
        if i.classes.isEmpty && !i.project then r.misused .noClasses
        else match sessionFor w i server with
          | .error fault => r.failed fault
          | .ok s => serveInvocation s i (r.tracing s.settings.debug)

/-- Runs a command line in a world, with a text to read classes from. -/
def runCommand (arguments : List String) (input : String) (w : World Amount) : RunResult :=
  match Invocation.read arguments with
  | .error fault => RunResult.misused fault { host := w.host }
  | .ok i => runInvocation i input w

end ClassOrder
