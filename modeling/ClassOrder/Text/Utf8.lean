/-!
# Unicode texts as bytes

The UTF-8 form of a text and the two ways of reading it back: a strict one, which refuses bytes
that no text has as its form, and a lenient one, which reads a replacement character in place of
each stretch that cannot be part of a text.

## Main definitions

* `utf8` — the bytes of a text.
* `nextChar` — the character that a byte string starts with.
* `ofUtf8?` — the text with the given bytes, if there is one.
* `ofUtf8Lenient` — a text for any bytes.
-/

namespace ClassOrder.Text

/-- The bytes of a text. -/
def utf8 (s : String) : List UInt8 := s.toList.flatMap String.utf8EncodeChar

/-- What a byte string starts with. -/
inductive Lead where
  /-- Nothing: the byte string is empty. -/
  | done
  /-- A character, and the bytes after it. -/
  | char (c : Char) (rest : List UInt8)
  /-- Bytes that start no character, and the bytes after the longest stretch of them that could
  have started one. -/
  | broken (rest : List UInt8)
  deriving DecidableEq, Repr

/-- A continuation byte between `lo` and `hi`. -/
def isTail (lo hi : Nat) (b : UInt8) : Bool := lo ≤ b.toNat && b.toNat ≤ hi

/-- The six bits that a continuation byte carries. -/
def tailBits (b : UInt8) : Nat := b.toNat % 64

/-- The range of the byte after the lead byte `a`, which excludes overlong forms, surrogates and
numbers beyond the last code point. -/
def secondRange (a : Nat) : Nat × Nat :=
  if a == 0xE0 then (0xA0, 0xBF)
  else if a == 0xED then (0x80, 0x9F)
  else if a == 0xF0 then (0x90, 0xBF)
  else if a == 0xF4 then (0x80, 0x8F)
  else (0x80, 0xBF)

/-- The character that a byte string starts with, one of one to four bytes by its lead byte. -/
def nextChar : List UInt8 → Lead
  | [] => .done
  | a :: rest =>
    let lead := a.toNat
    let (lo, hi) := secondRange lead
    if lead < 0x80 then .char (Char.ofNat lead) rest
    else if lead < 0xC2 || 0xF4 < lead then .broken rest
    else match rest with
      | [] => .broken []
      | b :: rest₂ =>
        if !isTail lo hi b then .broken rest
        else if lead < 0xE0 then .char (Char.ofNat (lead % 32 * 64 + tailBits b)) rest₂
        else match rest₂ with
          | [] => .broken []
          | c :: rest₃ =>
            if !isTail 0x80 0xBF c then .broken rest₂
            else if lead < 0xF0 then
              .char (Char.ofNat (lead % 16 * 4096 + tailBits b * 64 + tailBits c)) rest₃
            else match rest₃ with
              | [] => .broken []
              | d :: rest₄ =>
                if !isTail 0x80 0xBF d then .broken rest₃
                else
                  .char (Char.ofNat
                    (lead % 8 * 262144 + tailBits b * 4096 + tailBits c * 64 + tailBits d)) rest₄

/-- The characters of at most `fuel` bytes, none if some bytes start no character; `read` holds
in reverse those found so far. -/
def charsOfUtf8? (fuel : Nat) (read : List Char) (bytes : List UInt8) : Option (List Char) :=
  match fuel with
  | 0 => if bytes.isEmpty then some read.reverse else none
  | fuel + 1 =>
    match nextChar bytes with
    | .done => some read.reverse
    | .char c rest => charsOfUtf8? fuel (c :: read) rest
    | .broken _ => none

/-- The text with the given bytes, if there is one. -/
def ofUtf8? (bytes : List UInt8) : Option String :=
  (charsOfUtf8? bytes.length [] bytes).map String.ofList

/-- The characters of at most `fuel` bytes, a replacement character for each stretch that starts
none; `read` holds in reverse those found so far. -/
def charsOfUtf8Lenient (fuel : Nat) (read : List Char) (bytes : List UInt8) : List Char :=
  match fuel with
  | 0 => read.reverse
  | fuel + 1 =>
    match nextChar bytes with
    | .done => read.reverse
    | .char c rest => charsOfUtf8Lenient fuel (c :: read) rest
    | .broken rest => charsOfUtf8Lenient fuel ('\uFFFD' :: read) rest

/-- A text for any bytes, with a replacement character for each stretch that starts none. -/
def ofUtf8Lenient (bytes : List UInt8) : String :=
  String.ofList (charsOfUtf8Lenient bytes.length [] bytes)

/-- The bytes as characters of the same number, which is how ASCII reads. -/
def ofAscii (bytes : List UInt8) : List Char := bytes.map fun b => Char.ofNat b.toNat

/-- Whether every byte is one of ASCII. -/
def isAscii (bytes : List UInt8) : Bool := bytes.all fun b => b < 0x80

end ClassOrder.Text
