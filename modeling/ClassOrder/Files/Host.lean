import ClassOrder.Files.Tree

/-!
# Hosts

What a process sees of the machine that it runs on: the file tree, its working directory and its
variables.

## Main definitions

* `Host` — the machine.
* `Host.startPlace` — the directory that a search starts from.
* `Host.fileAt` — a path, if it leads to a file.
* `ancestors` — a place and the places above it.
-/

namespace ClassOrder

/-- What a process sees of its machine. -/
structure Host where
  /-- The file tree. -/
  files : FileTree := {}
  /-- The working directory. -/
  cwd : Place := []
  /-- The variables. -/
  environment : List (String × String) := []
  deriving Repr, Inhabited

/-- A place and the places above it, the nearest first; the root of the tree is the last. -/
def ancestors (place : Place) : List Place :=
  (List.range (place.length + 1)).map fun k => place.take (place.length - k)

namespace Host

/-- The value of a variable. -/
def valueOf? (h : Host) (name : String) : Option String := Assoc.get? name h.environment

/-- Whether the first name on the way to a place that stands nowhere is too long for a name. -/
def isOutOfReach (h : Host) (place : Place) : Bool :=
  match h.files.walk [] place with
  | .missing _ name _ => FileTree.isTooLong name
  | _ => false

/-- The directory that a search starts from: the given one, or the working directory if none is
given.  A name with a NUL is refused, and so are one that is too long and links that lead round in
a circle. -/
def startPlace {τ : Type} (h : Host) (start : Option String) : Except (Fault τ) Place :=
  match start with
  | none => .ok h.cwd
  | some "" => .ok h.cwd
  | some s =>
    if s.contains '\x00' then .error (.raised .badValue "embedded null byte")
    else match h.files.settle? h.cwd (Path.ofString s) with
      | some place => if h.isOutOfReach place then .error (.system .nameTooLong) else .ok place
      | none => .error .circularLinks

/-- Whether a path leads to a file; a name that is too long is that of no file. -/
def isFile (h : Host) (p : Path) : Bool := h.files.isFile h.cwd p

/-- A path, if it leads to a file; it is a fault if the way there ends at a name that is too
long. -/
def fileAt (h : Host) (p : Path) : Except SystemFault (Option Path) :=
  match h.files.find h.cwd p with
  | .error .nameTooLong => .error .nameTooLong
  | _ => .ok (Option.guard h.isFile p)

/-- Whether a path leads to a file that can be run; a name that is too long is that of no file. -/
def isExecutable (h : Host) (p : Path) : Bool := h.files.isExecutable h.cwd p

end Host

end ClassOrder
