import ClassOrder.Text.Quoted
import ClassOrder.Text.Utf8

/-!
# Paths

A path names a place in the file tree: a list of parts, read from the root of the tree or from
the working directory.  Empty parts and parts that are a single point say nothing and are dropped;
a part of two points is kept, since what it means depends on the tree.  A path that begins with
two slashes keeps both in its written form, and leads where it would lead with one.

## Main definitions

* `Path` — the paths.
* `Path.ofString`, `Path.toString` — their written form.
* `Path.join` — a path seen from another one.
* `Path.name`, `Path.extension` — the last part of a path, and what follows its last point.
* `Path.uri?` — the identifier of a place on this machine.
-/

namespace ClassOrder

/-- A path. -/
structure Path where
  /-- Whether the path is read from the root of the tree. -/
  absolute : Bool
  /-- The parts of the path. -/
  parts : List String
  /-- Whether the path is written with two slashes at its start. -/
  doubled : Bool := false
  deriving DecidableEq, Repr, Inhabited

namespace Path

/-- The pieces of a text between slashes; `piece` holds in reverse what the first already has. -/
def piecesFrom (piece : List Char) : List Char → List (List Char)
  | [] => [piece.reverse]
  | c :: cs => if c = '/' then piece.reverse :: piecesFrom [] cs else piecesFrom (c :: piece) cs

/-- Whether a piece of a written path is a part of the path. -/
def isPart (piece : String) : Bool := piece ≠ "" && piece ≠ "."

/-- The number of slashes that a text begins with. -/
def leadingSlashes (s : String) : Nat := (s.toList.takeWhile (· == '/')).length

/-- The path that a text writes. -/
def ofString (s : String) : Path where
  absolute := 0 < leadingSlashes s
  parts := ((piecesFrom [] s.toList).map String.ofList).filter isPart
  doubled := leadingSlashes s = 2

/-- The written form of a path. -/
def toString (p : Path) : String :=
  let body := "/".intercalate p.parts
  if p.doubled then "//" ++ body
  else if p.absolute then "/" ++ body
  else if p.parts.isEmpty then "." else body

instance : ToString Path := ⟨toString⟩

/-- The absolute path with the given parts. -/
def root (parts : List String) : Path := { absolute := true, parts }

/-- The path `q` seen from `p`. -/
def join (p q : Path) : Path :=
  if q.absolute then q else { p with parts := p.parts ++ q.parts }

/-- The place `name` right under a path. -/
def child (p : Path) (name : String) : Path := { p with parts := p.parts ++ [name] }

/-- The last part of a path, empty if it has none. -/
def name (p : Path) : String := p.parts.getLastD ""

/-- What follows the last point of a name, with the point: nothing if the point leads or ends
the name. -/
def extensionOf (name : String) : String :=
  let (tail, rest) := name.toList.reverse.span (· != '.')
  match rest with
  | _ :: before =>
    if before.isEmpty || tail.isEmpty then "" else String.ofList ('.' :: tail.reverse)
  | [] => ""

/-- What follows the last point of the last part of a path, with the point. -/
def extension (p : Path) : String := extensionOf p.name

/-- Whether a byte stands for itself in an identifier. -/
def isPlain (b : UInt8) : Bool :=
  let n := b.toNat
  (0x30 ≤ n && n ≤ 0x39) || (0x41 ≤ n && n ≤ 0x5A) || (0x61 ≤ n && n ≤ 0x7A) ||
    n == 0x5F || n == 0x2E || n == 0x2D || n == 0x7E || n == 0x2F

/-- The upper-case hexadecimal digit of value `d`. -/
def upperHexDigit (d : Nat) : Char :=
  if d < 10 then Char.ofNat (0x30 + d) else Char.ofNat (0x37 + d)

/-- A byte in an identifier, written in hexadecimal if it does not stand for itself. -/
def uriByte (b : UInt8) : List Char :=
  if isPlain b then [Char.ofNat b.toNat]
  else ['%', upperHexDigit (b.toNat / 16), upperHexDigit (b.toNat % 16)]

/-- The identifier of a place on this machine, which only an absolute path has. -/
def uri? (p : Path) : Option String :=
  if p.absolute then
    some ("file://" ++ String.ofList ((Text.utf8 p.toString).flatMap uriByte))
  else none

end Path

end ClassOrder
