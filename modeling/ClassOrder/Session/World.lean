import ClassOrder.Files.Host
import ClassOrder.Log.Record
import ClassOrder.Server.Basic

/-!
# Worlds

What a session finds around itself and changes: the machine, the time, the servers that can be
launched, and the log.

## Main definitions

* `ServerEvent` — what a session does to its servers.
* `World` — the surroundings of a session.
-/

namespace ClassOrder

/-- Something that a session does to its servers. -/
inductive ServerEvent (τ : Type) where
  /-- It launches one, or tries to. -/
  | launched (command : List String) (directory : Path) (environment : List (String × String))
  | inputClosed
  | outputClosed
  | complaintsClosed
  /-- It tells one to end. -/
  | terminated
  /-- It ends one by force. -/
  | killed
  /-- It waits for one to end, up to a given time or as long as it takes. -/
  | waited (timeout : Option τ)

/-- The surroundings of a session. -/
structure World (τ : Type) where
  /-- The time. -/
  clock : τ
  /-- The machine. -/
  host : Host
  /-- Where directories for a while are made. -/
  temporary : Path
  /-- The number of this process. -/
  processId : Int
  /-- How the name of the `k`-th directory for a while ends, no two alike. -/
  suffix : Nat → String
  /-- How many directories for a while have been made. -/
  made : Nat := 0
  /-- What launching the `k`-th server leads to. -/
  launches : Nat → Except (Fault τ) (Conduct τ)
  /-- How many servers have been launched, or tried to. -/
  launched : Nat := 0
  /-- How many bytes a server may write in its life. -/
  credit : Nat
  /-- What has been done to servers, in order. -/
  events : List (ServerEvent τ) := []
  /-- What has been logged, in order. -/
  log : List Record := []
  /-- The complaints of servers, as they are logged. -/
  complaints : List Record := []
  /-- The warnings that have been given, in order. -/
  warnings : List String := []

namespace World

variable {τ : Type}

/-- The world with one more log entry. -/
def note (r : Record) (w : World τ) : World τ := { w with log := w.log ++ [r] }

/-- The world after something was done to a server. -/
def happen (e : ServerEvent τ) (w : World τ) : World τ := { w with events := w.events ++ [e] }

/-- Whether a path leads to anything. -/
def exists? (w : World τ) (p : Path) : Bool := w.host.files.exists? w.host.cwd p

/-- Whether a path leads to a directory. -/
def isDirectory (w : World τ) (p : Path) : Bool := w.host.files.isDirectory w.host.cwd p

end World

/-- The log entry of a line of a server's complaints. -/
def complaintRecord (line : Bytes) : Record :=
  ⟨.debug, "[server] " ++ String.ofList (Text.trimEnd (Text.ofUtf8Lenient line).toList)⟩

/-- The log entries of a server's complaints, which end at an empty line. -/
def complaintRecords (lines : List Bytes) : List Record :=
  (lines.takeWhile (!·.isEmpty)).map complaintRecord

end ClassOrder
