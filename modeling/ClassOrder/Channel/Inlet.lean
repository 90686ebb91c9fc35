import ClassOrder.Fault

/-!
# Inlets

The end of a stream at which bytes come in.  What has been written at the other end but not read
yet stands in line, piece by piece.  A *plain* inlet gives its pieces out at once.  A *timed* one
is a pipe: each piece arrives at a time of its own, and a reader waits for it, up to a deadline.

## Main definitions

* `Chunk` — what the other end writes.
* `Piece` — what stands in line, with its time of arrival.
* `Inlet` — the line, and how it is read.
* `Inlet.feed` — puts chunks in line.
* `Inlet.unread` — the bytes in line.
-/

namespace ClassOrder

/-- What the other end of a stream writes. -/
inductive Chunk (τ : Type) where
  /-- Bytes that arrive together. -/
  | data (bytes : Bytes)
  /-- Nothing, for a time: what is written next arrives that much later. -/
  | wait (time : τ)
  /-- The end of the stream. -/
  | close
  /-- A fault that the reader meets once: while waiting, or when reading. -/
  | trouble (fault : Fault τ) (whileWaiting : Bool)

/-- What a reader meets. -/
inductive PieceKind (τ : Type) where
  /-- Bytes; no bytes at all look like the end of the stream, once. -/
  | data (bytes : Bytes)
  /-- The end of the stream, for good. -/
  | close
  /-- A fault, once. -/
  | trouble (fault : Fault τ) (whileWaiting : Bool)

/-- Something in line, with its time of arrival. -/
structure Piece (τ : Type) where
  /-- When it arrives. -/
  time : τ
  /-- What it is. -/
  kind : PieceKind τ

/-- The end of a stream at which bytes come in. -/
structure Inlet (τ : Type) where
  /-- Whether the pieces arrive at times of their own. -/
  timed : Bool
  /-- What stands in line. -/
  pending : List (Piece τ) := []
  /-- When the last piece that was put in line arrives. -/
  latest : τ
  /-- How much later the next piece arrives. -/
  delay : τ
  /-- Whether the reader has closed its end. -/
  closed : Bool := false

/-- The most bytes that one read takes. -/
def readSize : Nat := 65536

/-- Bytes in pieces that one read can take; no bytes are one piece. -/
def cut (bytes : Bytes) : List Bytes :=
  bytes.take readSize :: rest ((bytes.length - 1) / readSize) (bytes.drop readSize)
where
  /-- The pieces after the first one, `count` of them. -/
  rest : (count : Nat) → Bytes → List Bytes
    | 0, _ => []
    | count + 1, bytes => bytes.take readSize :: rest count (bytes.drop readSize)

namespace PieceKind

variable {τ : Type}

/-- The bytes of a piece. -/
def size : PieceKind τ → Nat
  | data bytes => bytes.length
  | close | trouble .. => 0

end PieceKind

namespace Inlet

variable {τ : Type} [Timeline τ]

/-- An inlet with nothing in line. -/
def empty (timed : Bool) : Inlet τ := { timed, latest := 0, delay := 0 }

/-- Puts pieces in line that arrive together. -/
def enqueue (now : τ) (kinds : List (PieceKind τ)) (i : Inlet τ) : Inlet τ :=
  let time := later i.latest now + i.delay
  { i with pending := i.pending ++ kinds.map (⟨time, ·⟩), latest := time, delay := 0 }

/-- Puts a chunk in line. -/
def feedChunk (now : τ) (i : Inlet τ) : Chunk τ → Inlet τ
  | .data bytes =>
    if bytes.isEmpty && !i.timed then i else i.enqueue now ((cut bytes).map .data)
  | .wait time => { i with delay := i.delay + time }
  | .close => i.enqueue now [.close]
  | .trouble fault whileWaiting => i.enqueue now [.trouble fault whileWaiting]

/-- Puts chunks in line, one after the other. -/
def feed (now : τ) (chunks : List (Chunk τ)) (i : Inlet τ) : Inlet τ :=
  chunks.foldl (feedChunk now) i

@[simp] theorem feed_nil (now : τ) (i : Inlet τ) : i.feed now [] = i := rfl

@[simp] theorem feed_cons (now : τ) (chunk : Chunk τ) (chunks : List (Chunk τ)) (i : Inlet τ) :
    i.feed now (chunk :: chunks) = (i.feedChunk now chunk).feed now chunks := rfl

/-- The number of bytes in line. -/
def unread (i : Inlet τ) : Nat := i.pending.foldr (fun piece n => piece.kind.size + n) 0

end Inlet

end ClassOrder
