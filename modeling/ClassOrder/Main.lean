import ClassOrder.CommandLine.Run

/-!
# The program

Looks at the machine, runs the command line, and prints.  Everything that is decided is decided in
`runCommand`; here is only what has to do with the machine.  The program launches nothing itself:
a run that gets as far as launching a server reports that it could not be launched.
-/

namespace ClassOrder.Program

/-- The variables that a run may look at. -/
def variableNames : List String :=
  ["PATH", "TAILWIND_SORTER_SERVER", "TAILWIND_SORTER_CACHE_TTL", "TAILWIND_SORTER_REQUEST_TIMEOUT",
    "TAILWIND_SORTER_DEBUG", "TAILWIND_SORTER_LOG_LEVEL"]

/-- The files that a run in a directory may look at, and whether they are programs. -/
def filesOfInterest (directory : Place) (searchPath : String) : List (Path × Bool) :=
  let project := Path.ofString ".env" :: (Patterns.standard.config ++ Patterns.standard.stylesheet)
  (ancestors directory).flatMap (fun place =>
    project.map (fun p => ((Path.root place).join p, false)) ++ [(installedAt place, true)]) ++
  (colonPieces [] searchPath.toList).map fun entry =>
    ((Path.root directory).join (Path.ofString (programIn entry serverProgram)), true)

/-- The file at a path, if it can be read. -/
def readFile? (p : Path) : IO (Option Bytes) := do
  try
    return some (← IO.FS.readBinFile p.toString).toList
  catch _ =>
    return none

/-- The variables that are set, with their values. -/
def readVariables : IO (List (String × String)) :=
  variableNames.filterMapM fun name => do return (← IO.getEnv name).map (name, ·)

/-- Where directories for a while are made. -/
def temporaryDirectory : Path := Path.root ["tmp"]

/-- The machine, as far as a run may look at it. -/
def readHost : IO Host := do
  let cwd := (Path.ofString (← IO.currentDir).toString).parts
  let environment ← readVariables
  let h : Host := { cwd, environment }
  let start := (FileTree.plant {} temporaryDirectory .directory).plant (Path.root cwd) .directory
  let files ← (filesOfInterest cwd ((h.valueOf? "PATH").getD standardSearchPath)).foldlM
    (fun t entry => do
      match ← readFile? entry.1 with
      | some bytes => return t.plant entry.1 (.file bytes 0 entry.2)
      | none => return t)
    start
  return { h with files }

/-- The world on a machine, in which nothing can be launched. -/
def worldOn (h : Host) : World Amount where
  clock := .real 0.0
  host := h
  temporary := temporaryDirectory
  processId := 0
  suffix := fun k => "_" ++ toString k
  launches := fun _ => .error (.system .permissionDenied)
  credit := 0

/-- Whether a command line leaves the classes to be read. -/
def readsInput (arguments : List String) : Bool :=
  match Invocation.read arguments with
  | .ok i => i.classes.isEmpty && !i.project && !i.help
  | .error _ => false

/-- The lines of the log that the terminal shows. -/
def logLines (r : RunResult) : List String :=
  let records := match r.session with
    | some s => s.world.log
    | none => []
  records.filterMap fun record =>
    (r.logSetup.line? record []).map fun line => line.1 ++ " | " ++ line.2.2

end ClassOrder.Program

open ClassOrder ClassOrder.Program in
/-- Runs a command line. -/
def main (arguments : List String) : IO UInt32 := do
  let input ← if readsInput arguments then (← IO.getStdin).readToEnd else pure ""
  let r := runCommand arguments input (worldOn (← readHost))
  (logLines r).forM fun line => IO.eprintln line
  IO.print r.output
  IO.eprint r.report
  match r.crash with
  | some fault => IO.eprintln fault.message
  | none => pure ()
  return UInt32.ofNat r.exitCode
