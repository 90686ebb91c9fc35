import ClassOrder.Text.Printable

/-!
# Quoted texts

How a text or a byte string is shown inside a report: between apostrophes, or between quotation
marks when it holds an apostrophe and no quotation mark, with the backslash, the mark in use and
everything that is not printable written as escapes.

## Main definitions

* `hex` — a number in lower-case hexadecimal digits, padded with zeros.
* `quote` — a quoted text.
* `quoteBytes` — a quoted byte string, led by a `b`.
* `quoteList` — a list of quoted texts in brackets.
-/

namespace ClassOrder.Text

/-- The lower-case hexadecimal digit of value `d`. -/
def hexDigit (d : Nat) : Char :=
  if d < 10 then Char.ofNat (0x30 + d) else Char.ofNat (0x57 + d)

/-- The last `width` hexadecimal digits of `n`. -/
def hex : (width : Nat) → (n : Nat) → List Char
  | 0, _ => []
  | w + 1, n => hex w (n / 16) ++ [hexDigit (n % 16)]

/-- The mark around a quoted text: an apostrophe, unless the text holds one and no quotation
mark. -/
def quoteMark (cs : List Char) : Char :=
  if cs.contains '\'' && !cs.contains '"' then '"' else '\''

/-- One character of a text quoted with `mark`. -/
def escapeChar (mark c : Char) : List Char :=
  if c == mark || c == '\\' then ['\\', c]
  else if c == '\n' then ['\\', 'n']
  else if c == '\r' then ['\\', 'r']
  else if c == '\t' then ['\\', 't']
  else if isPrintable c then [c]
  else if c.toNat ≤ 0xFF then '\\' :: 'x' :: hex 2 c.toNat
  else if c.toNat ≤ 0xFFFF then '\\' :: 'u' :: hex 4 c.toNat
  else '\\' :: 'U' :: hex 8 c.toNat

/-- A text between quotation marks, its marks, backslashes and unprintable characters escaped. -/
def quote (s : String) : String :=
  let mark := quoteMark s.toList
  String.ofList (mark :: s.toList.flatMap (escapeChar mark) ++ [mark])

/-- One byte of a byte string quoted with `mark`. -/
def escapeByte (mark : Char) (b : UInt8) : List Char :=
  if b.toNat < 0x7F then
    let c := Char.ofNat b.toNat
    if b.toNat < 0x20 && c != '\n' && c != '\r' && c != '\t' then '\\' :: 'x' :: hex 2 b.toNat
    else escapeChar mark c
  else '\\' :: 'x' :: hex 2 b.toNat

/-- A byte string between quotation marks, everything but printable ASCII escaped. -/
def quoteBytes (bytes : List UInt8) : String :=
  let mark := quoteMark (bytes.map fun b => Char.ofNat b.toNat)
  String.ofList ('b' :: mark :: bytes.flatMap (escapeByte mark) ++ [mark])

/-- Quoted texts in brackets, separated by commas. -/
def quoteList (texts : List String) : String :=
  "[" ++ ", ".intercalate (texts.map quote) ++ "]"

end ClassOrder.Text
