import ClassOrder.Json.Value
import ClassOrder.Number.Read

/-!
# Reading JSON

The dialect of JSON that message bodies are written in: the standard one, with names for the
infinities and for the double that is no number, and a limit on the digits of a whole number.
Of two fields with one name the later gives the value.

## Main definitions

* `ReadFault` — why a text is not read.
* `readString`, `readNumber`, `readValue` — the parts of the grammar, each with the text that
  follows it.
* `Json.read` — a whole text.
-/

namespace ClassOrder.Json

open ClassOrder.Text ClassOrder.Number

/-- Why a text is not read. -/
inductive ReadFault where
  /-- The text is not in the grammar. -/
  | syntaxFault
  /-- A whole number has more digits than a written integer may have. -/
  | integerTooLong
  deriving DecidableEq, Repr

/-- The four blanks that may stand around values. -/
def isSpace (c : Char) : Bool := c == ' ' || c == '\t' || c == '\n' || c == '\r'

/-- The text after the blanks at its start. -/
def skipSpace (cs : List Char) : List Char := cs.dropWhile isSpace

/-- The text after the word `word`, if it starts with it. -/
def after? : (word : List Char) → List Char → Option (List Char)
  | [], cs => some cs
  | _ :: _, [] => none
  | w :: word, c :: cs => if w = c then after? word cs else none

/-- The value of a hexadecimal digit. -/
def hexValue? (c : Char) : Option Nat :=
  if '0' ≤ c ∧ c ≤ '9' then some (c.toNat - 0x30)
  else if 'a' ≤ c ∧ c ≤ 'f' then some (c.toNat - 0x57)
  else if 'A' ≤ c ∧ c ≤ 'F' then some (c.toNat - 0x37)
  else none

/-- Four hexadecimal digits at the start of a text. -/
def hexUnit? : List Char → Option (Nat × List Char)
  | a :: b :: c :: d :: cs => do
    let a ← hexValue? a
    let b ← hexValue? b
    let c ← hexValue? c
    let d ← hexValue? d
    return (((a * 16 + b) * 16 + c) * 16 + d, cs)
  | _ => none

/-- The second half of a character beyond the first plane, as an escape of its own. -/
def lowHalf? : List Char → Option (Nat × List Char)
  | '\\' :: 'u' :: cs =>
    match hexUnit? cs with
    | some (n, rest) => if 0xDC00 ≤ n ∧ n ≤ 0xDFFF then some (n, rest) else none
    | none => none
  | _ => none

/-- The character of an escape, after its backslash.  A half of a character without the other
half reads as the replacement character. -/
def escape? : List Char → Option (Char × List Char)
  | [] => none
  | e :: cs =>
    if e = '"' ∨ e = '\\' ∨ e = '/' then some (e, cs)
    else if e = 'b' then some ('\x08', cs)
    else if e = 'f' then some ('\x0c', cs)
    else if e = 'n' then some ('\n', cs)
    else if e = 'r' then some ('\r', cs)
    else if e = 't' then some ('\t', cs)
    else if e = 'u' then
      match hexUnit? cs with
      | none => none
      | some (n, rest) =>
        if 0xD800 ≤ n ∧ n ≤ 0xDBFF then
          match lowHalf? rest with
          | some (m, rest) =>
            some (Char.ofNat (0x10000 + (n - 0xD800) * 1024 + (m - 0xDC00)), rest)
          | none => some ('\uFFFD', rest)
        else if 0xDC00 ≤ n ∧ n ≤ 0xDFFF then some ('\uFFFD', rest)
        else some (Char.ofNat n, rest)
    else none

/-- The rest of a string after its opening mark and the characters `read`, which are held in
reverse. -/
def readString (fuel : Nat) (read : List Char) (cs : List Char) :
    Except ReadFault (String × List Char) :=
  match fuel, cs with
  | 0, _ => .error .syntaxFault
  | _ + 1, [] => .error .syntaxFault
  | fuel + 1, c :: cs =>
    if c = '"' then .ok (String.ofList read.reverse, cs)
    else if c = '\\' then
      match escape? cs with
      | some (e, rest) => readString fuel (e :: read) rest
      | none => .error .syntaxFault
    else if c.toNat < 0x20 then .error .syntaxFault
    else readString fuel (c :: read) cs

/-- The digits before the point of a number: a zero alone, or digits that start with another. -/
def wholePart? : List Char → Option (List Char × List Char)
  | [] => none
  | c :: cs =>
    if c = '0' then some (['0'], cs)
    else if isAsciiDigit c then some ((c :: cs).span isAsciiDigit)
    else none

/-- The digits after the point of a number, if there is a point with digits after it. -/
def fractionPart? : List Char → Option (List Char × List Char)
  | '.' :: cs =>
    let (ds, rest) := cs.span isAsciiDigit
    if ds.isEmpty then none else some (ds, rest)
  | _ => none

/-- The exponent of a number, if there is a mark with digits after it. -/
def exponentPart? : List Char → Option (Int × List Char)
  | [] => none
  | c :: cs =>
    if c = 'e' ∨ c = 'E' then
      let (negative, body) := sign cs
      let (ds, rest) := body.span isAsciiDigit
      if ds.isEmpty then none else some (signed negative (asciiNumeral ds), rest)
    else none

/-- A number without its sign. -/
def readNumber (negative : Bool) (cs : List Char) : Except ReadFault (Json × List Char) :=
  match wholePart? cs with
  | none => .error .syntaxFault
  | some (whole, rest) =>
    match fractionPart? rest with
    | some (fraction, rest) =>
      let (scale, rest) := (exponentPart? rest).getD (0, rest)
      .ok (float (ofDecimal negative (asciiNumeral (whole ++ fraction))
        (scale - fraction.length)), rest)
    | none =>
      match exponentPart? rest with
      | some (scale, rest) => .ok (float (ofDecimal negative (asciiNumeral whole) scale), rest)
      | none =>
        if whole.length ≤ digitLimit then .ok (int (signed negative (asciiNumeral whole)), rest)
        else .error .integerTooLong

/-- A value that is a word or a number. -/
def readAtom (cs : List Char) : Except ReadFault (Json × List Char) :=
  match after? "null".toList cs with
  | some rest => .ok (null, rest)
  | none =>
  match after? "true".toList cs with
  | some rest => .ok (bool true, rest)
  | none =>
  match after? "false".toList cs with
  | some rest => .ok (bool false, rest)
  | none =>
  match after? "NaN".toList cs with
  | some rest => .ok (float (0.0 / 0.0), rest)
  | none =>
  match after? "Infinity".toList cs with
  | some rest => .ok (float (1.0 / 0.0), rest)
  | none =>
  match after? "-Infinity".toList cs with
  | some rest => .ok (float (-1.0 / 0.0), rest)
  | none =>
  match cs with
  | '-' :: cs => readNumber true cs
  | cs => readNumber false cs

mutual

/-- A value at the start of a text, and what follows it. -/
def readValue : (fuel : Nat) → List Char → Except ReadFault (Json × List Char)
  | 0, _ => .error .syntaxFault
  | _ + 1, [] => .error .syntaxFault
  | fuel + 1, c :: cs =>
    if c = '"' then do
      let (s, rest) ← readString (cs.length + 1) [] cs
      return (string s, rest)
    else if c = '[' then
      match skipSpace cs with
      | ']' :: rest => .ok (array [], rest)
      | cs => do
        let (items, rest) ← readItems fuel cs
        return (array items, rest)
    else if c = '{' then
      match skipSpace cs with
      | '}' :: rest => .ok (object [], rest)
      | cs => do
        let (fields, rest) ← readFields fuel cs
        return (object (Assoc.merge [] fields), rest)
    else readAtom (c :: cs)

/-- The items of an array up to its closing bracket. -/
def readItems : (fuel : Nat) → List Char → Except ReadFault (List Json × List Char)
  | 0, _ => .error .syntaxFault
  | fuel + 1, cs => do
    let (v, rest) ← readValue fuel cs
    match skipSpace rest with
    | ']' :: rest => return ([v], rest)
    | ',' :: rest =>
      let (items, rest) ← readItems fuel (skipSpace rest)
      return (v :: items, rest)
    | _ => .error .syntaxFault

/-- The fields of an object up to its closing brace. -/
def readFields : (fuel : Nat) → List Char → Except ReadFault (List (String × Json) × List Char)
  | 0, _ => .error .syntaxFault
  | fuel + 1, cs =>
    match cs with
    | '"' :: cs => do
      let (name, rest) ← readString (cs.length + 1) [] cs
      match skipSpace rest with
      | ':' :: rest =>
        let (v, rest) ← readValue fuel (skipSpace rest)
        match skipSpace rest with
        | '}' :: rest => return ([(name, v)], rest)
        | ',' :: rest =>
          let (fields, rest) ← readFields fuel (skipSpace rest)
          return ((name, v) :: fields, rest)
        | _ => .error .syntaxFault
      | _ => .error .syntaxFault
    | _ => .error .syntaxFault

end

/-- The value that a whole text writes, with blanks around it. -/
def read (cs : List Char) : Except ReadFault Json :=
  match readValue (cs.length + 1) (skipSpace cs) with
  | .ok (v, rest) => if (skipSpace rest).isEmpty then .ok v else .error .syntaxFault
  | .error e => .error e

end ClassOrder.Json
