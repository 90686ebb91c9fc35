import ClassOrder.Files.Host
import ClassOrder.Log.Record

/-!
# The server's command

The command that launches the server is the given one; else the server that is installed with the
nearest project at or above a directory, the root of the file tree included; else the one that
the search path of the system leads to.

## Main definitions

* `installedServer?` — the server that is installed nearest.
* `onSearchPath?` — the program that the search path leads to.
* `ServerSource`, `serverSource` — the command and where it comes from.
-/

namespace ClassOrder

/-- The name of the server's program. -/
def serverProgram : String := "tailwindcss-language-server"

/-- Where a server is installed with the project in a directory. -/
def installedAt (place : Place) : Path :=
  Path.root (place ++ ["node_modules", ".bin", serverProgram])

/-- The server that is installed nearest to a place, at or above it. -/
def installedServer? (h : Host) (start : Place) : Option Path :=
  ((ancestors start).map installedAt).find? h.isExecutable

/-- The pieces of a text between colons; `piece` holds in reverse what the first already has. -/
def colonPieces (piece : List Char) : List Char → List String
  | [] => [String.ofList piece.reverse]
  | c :: cs =>
    if c = ':' then String.ofList piece.reverse :: colonPieces [] cs
    else colonPieces (c :: piece) cs

/-- A program in a directory of the search path; an empty directory is the working one. -/
def programIn (directory program : String) : String :=
  if directory.isEmpty then program
  else if directory.toList.getLast? = some '/' then directory ++ program
  else directory ++ "/" ++ program

/-- The search path when no variable gives one. -/
def standardSearchPath : String := "/bin:/usr/bin"

/-- The program that the search path leads to; an empty search path leads nowhere. -/
def onSearchPath? (h : Host) (program : String) : Option String :=
  let searchPath := (h.valueOf? "PATH").getD standardSearchPath
  if searchPath.isEmpty then none
  else
    ((colonPieces [] searchPath.toList).map (programIn · program)).find? fun candidate =>
      h.isExecutable (Path.ofString candidate)

/-- Where a server's command comes from. -/
inductive ServerSource where
  | given (command : List String)
  | installed (path : Path)
  | onPath (program : String)
  deriving DecidableEq, Repr

namespace ServerSource

/-- The command. -/
def command : ServerSource → List String
  | given command => command
  | installed path => [path.toString]
  | onPath program => [program]

/-- What the log says about it. -/
def note? : ServerSource → Option Record
  | given _ => none
  | installed path => some ⟨.debug, "Using local language server at " ++ path.toString⟩
  | onPath program => some ⟨.debug, "Using language server from PATH at " ++ program⟩

end ServerSource

/-- Where the command of the server comes from: the given one if it has a word, else the nearest
installed one, else the one on the search path. -/
def serverSource {τ : Type} (h : Host) (given : Option (List String)) (start : Option String) :
    Except (Fault τ) ServerSource :=
  match given with
  | some (word :: words) => .ok (.given (word :: words))
  | _ =>
    match h.startPlace start with
    | .error fault => .error fault
    | .ok place =>
      match installedServer? h place with
      | some path => .ok (.installed path)
      | none =>
        match onSearchPath? h serverProgram with
        | some program => .ok (.onPath program)
        | none => .error .serverNotFound

end ClassOrder
