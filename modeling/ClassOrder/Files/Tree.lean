import ClassOrder.Assoc
import ClassOrder.Fault
import ClassOrder.Files.Path

/-!
# The file tree

Directories, files and links by their place, which is the list of names from the root.  A path is
followed to a place the way the system follows it: a part of two points leads to the directory
above, and a link leads on to its target.

## Main definitions

* `Node`, `FileTree` — what stands where.
* `FileTree.follow` — the place that a path leads to.
* `FileTree.settle?` — the place that a path leads to, missing parts taken as they are written.
* `FileTree.isFile`, `FileTree.isDirectory`, `FileTree.isExecutable` — what a path leads to.
* `FileTree.read`, `FileTree.write`, `FileTree.copy`, `FileTree.makeDirectory`,
  `FileTree.removeTree`, `FileTree.plant` — the operations.
-/

namespace ClassOrder

/-- The names from the root of the tree to a place in it. -/
abbrev Place := List String

/-- What stands at a place. -/
inductive Node where
  | directory
  /-- A file: its bytes, when they were last changed in nanoseconds, and whether it can be run. -/
  | file (bytes : Bytes) (modified : Int) (executable : Bool)
  /-- A link to another place. -/
  | link (target : Path)
  deriving DecidableEq, Repr, Inhabited

/-- What stands at the places of a tree; its root is a directory. -/
structure FileTree where
  /-- The places other than the root. -/
  nodes : List (Place × Node) := []
  deriving DecidableEq, Repr, Inhabited

namespace FileTree

/-- What stands at a place. -/
def get? (t : FileTree) (place : Place) : Option Node :=
  if place.isEmpty then some .directory else Assoc.get? place t.nodes

/-- The tree with `node` at a place. -/
def set (t : FileTree) (place : Place) (node : Node) : FileTree :=
  ⟨Assoc.put place node t.nodes⟩

@[simp] theorem get?_root (t : FileTree) : t.get? [] = some .directory := rfl

theorem get?_set_self {place : Place} (h : place ≠ []) (node : Node) (t : FileTree) :
    (t.set place node).get? place = some node := by
  simp [get?, set, h]

theorem get?_set_of_ne {place other : Place} (h : other ≠ place) (node : Node) (t : FileTree) :
    (t.set place node).get? other = t.get? other := by
  simp [get?, set, Assoc.get?_put_of_ne h]

/-- The tree without a place and everything below it. -/
def prune (t : FileTree) (place : Place) : FileTree :=
  ⟨t.nodes.filter fun e => !place.isPrefixOf e.1⟩

/-- The names of the places right below a directory, ascending. -/
def namesIn (t : FileTree) (place : Place) : List String :=
  (t.nodes.filterMap fun e =>
    if e.1.dropLast = place then e.1.getLast? else none).mergeSort (fun a b => decide (a ≤ b))

/-! ### Following paths -/

/-- Where a walk along the parts of a path stops. -/
inductive Stop where
  /-- At the end of the parts. -/
  | arrived (place : Place)
  /-- At a link below `base`, with `rest` still to walk. -/
  | link (base : Place) (name : String) (target : Path) (rest : List String)
  /-- Before a name that stands nowhere. -/
  | missing (base : Place) (name : String) (rest : List String)
  /-- At a file with parts still to walk. -/
  | blocked

/-- Walks from `here` along the parts of a path up to its first link. -/
def walk (t : FileTree) (here : Place) : List String → Stop
  | [] => .arrived here
  | part :: rest =>
    if part = ".." then walk t here.dropLast rest
    else match t.get? (here ++ [part]) with
      | none => .missing here part rest
      | some .directory => walk t (here ++ [part]) rest
      | some (.file ..) => if rest.isEmpty then .arrived (here ++ [part]) else .blocked
      | some (.link target) => .link here part target rest

/-- The most links that one path may lead through. -/
def linkLimit : Nat := 40

/-- The most bytes that a name may have. -/
def nameLimit : Nat := 255

/-- Whether a name has more bytes than a name may have. -/
def isTooLong (name : String) : Bool := nameLimit < (Text.utf8 name).length

/-- The place that the parts of a path lead to from `here`, and whether something stands there;
only the last part may be missing, and a missing part that is too long for a name is refused. -/
def follow (t : FileTree) : (links : Nat) → (here : Place) → List String →
    Except SystemFault (Place × Bool)
  | links, here, parts =>
    match t.walk here parts with
    | .arrived place => .ok (place, true)
    | .missing base name rest =>
      if isTooLong name then .error .nameTooLong
      else if rest.isEmpty then .ok (base ++ [name], false)
      else .error .notFound
    | .blocked => .error .notDirectory
    | .link base _ target rest =>
      match links with
      | 0 => .error .tooManyLinks
      | links + 1 =>
        follow t links (if target.absolute then [] else base) (target.parts ++ rest)

/-- The place that a path leads to from the working directory, and whether something stands
there. -/
def locate (t : FileTree) (cwd : Place) (p : Path) : Except SystemFault (Place × Bool) :=
  t.follow linkLimit (if p.absolute then [] else cwd) p.parts

/-- What stands where a path leads to. -/
def find (t : FileTree) (cwd : Place) (p : Path) : Except SystemFault (Place × Node) :=
  match t.locate cwd p with
  | .error fault => .error fault
  | .ok (_, false) => .error .notFound
  | .ok (place, true) =>
    match t.get? place with
    | some node => .ok (place, node)
    | none => .error .notFound

/-- What stands where a path leads to, if something does. -/
def find? (t : FileTree) (cwd : Place) (p : Path) : Option Node :=
  match t.find cwd p with
  | .ok (_, node) => some node
  | .error _ => none

/-- Whether a path leads to anything. -/
def exists? (t : FileTree) (cwd : Place) (p : Path) : Bool := (t.find? cwd p).isSome

/-- Whether a path leads to a file. -/
def isFile (t : FileTree) (cwd : Place) (p : Path) : Bool :=
  match t.find? cwd p with
  | some (.file ..) => true
  | _ => false

/-- Whether a path leads to a directory. -/
def isDirectory (t : FileTree) (cwd : Place) (p : Path) : Bool :=
  match t.find? cwd p with
  | some .directory => true
  | _ => false

/-- Whether a path leads to a file that can be run. -/
def isExecutable (t : FileTree) (cwd : Place) (p : Path) : Bool :=
  match t.find? cwd p with
  | some (.file _ _ executable) => executable
  | _ => false

/-- Where the parts of a path lead, missing parts taken as they are written. -/
inductive Settled where
  /-- To a place that no link is on the way to. -/
  | place (place : Place)
  /-- To a link that leads back to itself: the parts up to that link, and those after it. -/
  | circular (parts : List String)

/-- Where the parts of a path lead from `here`, missing parts taken as they are written; `active`
are the links that are being followed, and `links` more may be. -/
def settleFrom (t : FileTree) : (links : Nat) → (active : List Place) → (here : Place) →
    List String → Settled
  | _, _, here, [] => .place here
  | links, active, here, part :: rest =>
    if part = ".." then settleFrom t links active here.dropLast rest
    else
      let next := here ++ [part]
      match t.get? next with
      | some (.link target) =>
        if active.contains next then .circular (next ++ rest)
        else match links with
          | 0 => .circular (next ++ rest)
          | links + 1 =>
            match settleFrom t links (next :: active) (if target.absolute then [] else here)
                target.parts with
            | .place place => settleFrom t (links + 1) active place rest
            | .circular parts => .circular (parts ++ rest)
      | _ => settleFrom t links active next rest
termination_by links _ _ parts => (links, parts.length)

/-- The place that parts name when every part of two points takes away the part before it. -/
def tidy (parts : List String) : Place :=
  parts.foldl (fun place part => if part = ".." then place.dropLast else place ++ [part]) []

/-- The place that a path leads to from the working directory, missing parts taken as they are
written; none if its links lead round in a circle, unless the parts after them lead out of it. -/
def settle? (t : FileTree) (cwd : Place) (p : Path) : Option Place :=
  match t.settleFrom t.nodes.length [] (if p.absolute then [] else cwd) p.parts with
  | .place place => some place
  | .circular parts =>
    match t.follow linkLimit [] (tidy parts) with
    | .error .tooManyLinks => none
    | _ => some (tidy parts)

/-! ### Operations -/

/-- The bytes of the file that a path leads to. -/
def read (t : FileTree) (cwd : Place) (p : Path) : Except SystemFault Bytes :=
  match t.find cwd p with
  | .error fault => .error fault
  | .ok (_, .file bytes _ _) => .ok bytes
  | .ok (_, _) => .error .isDirectory

/-- When what a path leads to was last changed. -/
def modified (t : FileTree) (cwd : Place) (p : Path) : Except SystemFault Int :=
  match t.find cwd p with
  | .error fault => .error fault
  | .ok (_, .file _ time _) => .ok time
  | .ok (_, _) => .ok 0

/-- The tree with `bytes` in the file that a path leads to, a new file if there is none. -/
def write (t : FileTree) (cwd : Place) (p : Path) (bytes : Bytes) : Except SystemFault FileTree :=
  match t.locate cwd p with
  | .error fault => .error fault
  | .ok (place, _) =>
    match t.get? place with
    | some (.file _ time executable) => .ok (t.set place (.file bytes time executable))
    | none => .ok (t.set place (.file bytes 0 false))
    | some _ => .error .isDirectory

/-- Whether two paths lead to one place at which something stands. -/
def same (t : FileTree) (cwd : Place) (p q : Path) : Bool :=
  match t.locate cwd p, t.locate cwd q with
  | .ok (a, true), .ok (b, true) => a = b
  | _, _ => false

/-- The tree with the bytes of the file at `source` in the file at `target`; the two may not be
one file. -/
def copy (t : FileTree) (cwd : Place) (source target : Path) : Except SystemFault FileTree :=
  if t.same cwd source target then .error .sameFile
  else match t.read cwd source with
    | .error fault => .error fault
    | .ok bytes => t.write cwd target bytes

/-- The tree with a new directory where a path leads to. -/
def makeDirectory (t : FileTree) (cwd : Place) (p : Path) : Except SystemFault FileTree :=
  match t.locate cwd p with
  | .error fault => .error fault
  | .ok (_, true) => .error .alreadyThere
  | .ok (place, false) => .ok (t.set place .directory)

/-- The tree without the directory at a path and everything below it; a path that names a link is
refused. -/
def removeTree (t : FileTree) (cwd : Place) (p : Path) : Except SystemFault FileTree :=
  match t.follow linkLimit (if p.absolute then [] else cwd) p.parts.dropLast with
  | .error fault => .error fault
  | .ok (above, _) =>
    let place := above ++ [p.name]
    match t.get? place with
    | some (.link _) => .error .inputOutput
    | _ => .ok (t.prune place)

/-- The tree with a directory at each of the places that `parts` lead through from `here`, which
stays as it is where something stands already; also the last of those places. -/
def makeParents (t : FileTree) (here : Place) : List String → FileTree × Place
  | [] => (t, here)
  | part :: rest =>
    match t.follow linkLimit here [part] with
    | .ok (place, true) => makeParents t place rest
    | .ok (place, false) => makeParents (t.set place .directory) place rest
    | .error _ => makeParents t (here ++ [part]) rest

/-- The tree with `node` where a path leads to and a directory above it, and so on; a file goes
where a link in its place leads to, and a directory that is there stays. -/
def plant (t : FileTree) (p : Path) (node : Node) : FileTree :=
  let (t, above) := t.makeParents [] p.parts.dropLast
  let place := above ++ [p.name]
  match node with
  | .file .. =>
    match t.follow linkLimit above [p.name] with
    | .ok (place, _) => t.set place node
    | .error _ => t.set place node
  | .directory => if (t.get? place).isSome then t else t.set place node
  | .link _ => t.set place node

end FileTree

end ClassOrder
