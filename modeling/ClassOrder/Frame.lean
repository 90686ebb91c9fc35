import ClassOrder.Json.Printer
import ClassOrder.Json.Reader
import ClassOrder.Message
import ClassOrder.Text.Blank
import ClassOrder.Text.Quoted
import ClassOrder.Text.Utf8

/-!
# Frames

On the wire a message is a frame: a block of header lines, one of which gives the length of the
body in bytes, an empty line, and the body, which is JSON in UTF-8.  Writing makes one header line.
Reading skips empty lines before a frame, takes any header lines in any order, and takes nothing
off the input before the whole frame is there.

## Main definitions

* `Message.frame` — the frame of a message.
* `Header`, `readHeader`, `headerBlock` — header lines.
* `bodyLength` — the length that a block of header lines gives.
* `scan` — what the bytes read so far hold: a frame, a faulty header block, or neither yet.
* `readBody` — the message of a body.
-/

namespace ClassOrder

/-- A byte string. -/
abbrev Bytes := List UInt8

/-- Why the header block or the body of a frame is not usable. -/
inductive FramingFault where
  /-- No header line gives the length of the body; the names of those that are there. -/
  | noLength (names : List String)
  /-- The length of the body is not a number, or a negative one. -/
  | badLength (value : String)
  /-- A header line is not ASCII or has no colon. -/
  | badLine (line : Bytes)
  /-- The input ended inside a frame. -/
  | truncated
  deriving DecidableEq, Repr

/-- The text of a fault in reports. -/
def FramingFault.message : FramingFault → String
  | noLength names => "Content-Length header not found in headers: " ++ Text.quoteList names
  | badLength value => "Invalid Content-Length value: " ++ Text.quote value
  | badLine line => "Malformed header line: " ++ Text.quoteBytes line
  | truncated => "Stream ended before the declared message was complete"

/-- The two bytes that end a header line. -/
def lineEnd : Bytes := [13, 10]

/-- The body of the frame of a message. -/
def Message.body (m : Message) : Bytes := Text.utf8 m.payload.compact

/-- The header line that gives the length of a body, with the empty line after it. -/
def lengthHeader (n : Nat) : Bytes :=
  Text.utf8 "Content-Length: " ++ Text.utf8 (toString n) ++ lineEnd ++ lineEnd

/-- The frame of a message. -/
def Message.frame (m : Message) : Bytes := lengthHeader m.body.length ++ m.body

/-! ### Header blocks -/

/-- The input without the empty lines at its start. -/
def skipLineEnds : Bytes → Bytes
  | 13 :: 10 :: rest => skipLineEnds rest
  | rest => rest

/-- The bytes before the first empty line and those after it; `read` holds in reverse the bytes
before `rest`. -/
def splitBlockFrom (read : Bytes) : Bytes → Option (Bytes × Bytes)
  | [] => none
  | b :: rest =>
    match b, rest with
    | 13, 10 :: 13 :: 10 :: body => some (read.reverse, body)
    | _, _ => splitBlockFrom (b :: read) rest

/-- The header block of a frame and what follows its empty line, if the empty line is there. -/
def splitBlock (bytes : Bytes) : Option (Bytes × Bytes) := splitBlockFrom [] bytes

/-- The lines of a header block; `line` holds in reverse what the first of them already has. -/
def linesFrom (line : Bytes) : Bytes → List Bytes
  | [] => [line.reverse]
  | 13 :: 10 :: rest => line.reverse :: linesFrom [] rest
  | b :: rest => linesFrom (b :: line) rest

/-- The lines of a header block. -/
def headerLines (block : Bytes) : List Bytes := linesFrom [] block

/-- A header line: a name in lower case and a value, both without blanks around them. -/
structure Header where
  name : String
  value : String
  deriving DecidableEq, Repr

/-- The header that a line writes: everything before its first colon and everything after it. -/
def readHeader (line : Bytes) : Except FramingFault Header :=
  if !Text.isAscii line then .error (.badLine line)
  else
    let (name, rest) := (Text.ofAscii line).span (· != ':')
    match rest with
    | [] => .error (.badLine line)
    | _ :: value =>
      .ok ⟨String.ofList (Number.lower (Text.trim name)), String.ofList (Text.trim value)⟩

/-- The headers of a block, in order. -/
def headerBlock (block : Bytes) : Except FramingFault (List Header) :=
  (headerLines block).mapM readHeader

/-- The name of the header that gives the length of the body. -/
def lengthName : String := "content-length"

/-- The value of the last header with a name. -/
def lastValue? (name : String) (headers : List Header) : Option String :=
  (headers.reverse.find? (·.name = name)).map (·.value)

/-- The distinct names of headers in ascending order. -/
def sortedNames (headers : List Header) : List String :=
  (headers.map (·.name)).eraseDups.mergeSort (fun a b => decide (a ≤ b))

/-- The length that the last length header of a block gives. -/
def bodyLength (block : Bytes) : Except FramingFault Nat :=
  match headerBlock block with
  | .error e => .error e
  | .ok headers =>
    match lastValue? lengthName headers with
    | none => .error (.noLength (sortedNames headers))
    | some value =>
      match Number.integer? value.toList with
      | some (.ofNat n) => .ok n
      | _ => .error (.badLength value)

/-! ### Scanning -/

/-- What the bytes read so far hold, empty lines at their start left out. -/
inductive Scan where
  /-- No whole frame yet; the bytes to keep. -/
  | wanting (bytes : Bytes)
  /-- A header block that gives no length; the bytes to keep, which start with it. -/
  | faulty (fault : FramingFault) (bytes : Bytes)
  /-- A frame with its body, and the bytes after it. -/
  | whole (body : Bytes) (rest : Bytes)

/-- What the bytes read so far hold. -/
def scan (bytes : Bytes) : Scan :=
  let bytes := skipLineEnds bytes
  match splitBlock bytes with
  | none => .wanting bytes
  | some (block, rest) =>
    match bodyLength block with
    | .error fault => .faulty fault bytes
    | .ok n => if rest.length < n then .wanting bytes else .whole (rest.take n) (rest.drop n)

/-! ### Bodies -/

/-- Why a body gives no message. -/
inductive BodyFault where
  /-- The body is no message. -/
  | decode (fault : DecodeFault)
  /-- The body has a whole number with more digits than a written integer may have. -/
  | integerTooLong
  deriving DecidableEq, Repr

/-- The message of a body. -/
def readBody (body : Bytes) : Except BodyFault Message :=
  match Text.ofUtf8? body with
  | none => .error (.decode .notJson)
  | some text =>
    match Json.read text.toList with
    | .error .syntaxFault => .error (.decode .notJson)
    | .error .integerTooLong => .error .integerTooLong
    | .ok payload => (Message.ofPayload payload).mapError .decode

end ClassOrder
