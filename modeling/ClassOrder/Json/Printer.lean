import ClassOrder.Json.Value
import ClassOrder.Number.Format
import ClassOrder.Text.Quoted

/-!
# Written JSON

Three written forms of a JSON value.  The *compact* form has no blanks and keeps characters
outside ASCII; it goes over the wire.  The *spread* form has one item a line, two spaces deeper
for each level.  The *shown* form stands inside reports, with quoted texts.

## Main definitions

* `Json.chars`, `Json.compact` — the compact form.
* `Json.spread` — the spread form, in ASCII or not.
* `Json.shown` — the form inside reports.
-/

namespace ClassOrder.Json

open ClassOrder.Text

/-- The short escape of a control character, if it has one. -/
def shortEscape? (c : Char) : Option Char :=
  if c = '"' then some '"'
  else if c = '\\' then some '\\'
  else if c = '\n' then some 'n'
  else if c = '\r' then some 'r'
  else if c = '\t' then some 't'
  else if c = '\x08' then some 'b'
  else if c = '\x0c' then some 'f'
  else none

/-- A character of a written string: escaped if it is a quotation mark, a backslash or a control
character below the space. -/
def stringChar (c : Char) : List Char :=
  match shortEscape? c with
  | some e => ['\\', e]
  | none => if c.toNat < 0x20 then '\\' :: 'u' :: hex 4 c.toNat else [c]

/-- A character of a string written in ASCII: one outside printable ASCII is escaped, as two
halves if it is beyond the first plane. -/
def asciiChar (c : Char) : List Char :=
  match shortEscape? c with
  | some e => ['\\', e]
  | none =>
    if 0x20 ≤ c.toNat && c.toNat < 0x7F then [c]
    else if c.toNat < 0x10000 then '\\' :: 'u' :: hex 4 c.toNat
    else
      let n := c.toNat - 0x10000
      '\\' :: 'u' :: hex 4 (0xD800 + n / 1024) ++ '\\' :: 'u' :: hex 4 (0xDC00 + n % 1024)

/-- A string in quotation marks. -/
def stringChars (s : String) : List Char := '"' :: s.toList.flatMap stringChar ++ ['"']

/-- A whole number in decimal digits. -/
def intChars : Int → List Char
  | .ofNat n => Number.digits n
  | .negSucc n => '-' :: Number.digits (n + 1)

/-- A double in its full form; the infinities and the double that is no number by name. -/
def floatChars (x : Float) : List Char :=
  if x.isNaN then ['N', 'a', 'N']
  else if x.isInf then
    if x < 0.0 then '-' :: "Infinity".toList else "Infinity".toList
  else (Number.full x).toList

mutual

/-- The compact form of a value. -/
def chars : Json → List Char
  | null => ['n', 'u', 'l', 'l']
  | bool true => ['t', 'r', 'u', 'e']
  | bool false => ['f', 'a', 'l', 's', 'e']
  | int n => intChars n
  | float x => floatChars x
  | string s => stringChars s
  | array items => '[' :: itemChars items ++ [']']
  | object fields => '{' :: fieldChars fields ++ ['}']

/-- The compact forms of the items of an array, separated by commas. -/
def itemChars : List Json → List Char
  | [] => []
  | [v] => v.chars
  | v :: w :: items => v.chars ++ ',' :: itemChars (w :: items)

/-- The compact forms of the fields of an object, separated by commas. -/
def fieldChars : List (String × Json) → List Char
  | [] => []
  | [(name, v)] => stringChars name ++ ':' :: v.chars
  | (name, v) :: f :: fields => stringChars name ++ ':' :: v.chars ++ ',' :: fieldChars (f :: fields)

end

/-- The compact form of a value. -/
def compact (v : Json) : String := String.ofList v.chars

/-- A new line `depth` levels deep. -/
def newLine (depth : Nat) : List Char := '\n' :: List.replicate (2 * depth) ' '

/-- A string in quotation marks, in ASCII or not. -/
def textChars (ascii : Bool) (s : String) : List Char :=
  if ascii then '"' :: s.toList.flatMap asciiChar ++ ['"'] else stringChars s

mutual

/-- The spread form of a value whose lines are `depth` levels deep. -/
def spreadChars (ascii : Bool) (depth : Nat) : Json → List Char
  | string s => textChars ascii s
  | array [] => ['[', ']']
  | array items =>
    '[' :: newLine (depth + 1) ++ spreadItems ascii (depth + 1) items ++ newLine depth ++ [']']
  | object [] => ['{', '}']
  | object fields =>
    '{' :: newLine (depth + 1) ++ spreadFields ascii (depth + 1) fields ++ newLine depth ++ ['}']
  | v => v.chars

/-- The spread forms of the items of an array. -/
def spreadItems (ascii : Bool) (depth : Nat) : List Json → List Char
  | [] => []
  | [v] => v.spreadChars ascii depth
  | v :: w :: items =>
    v.spreadChars ascii depth ++ ',' :: newLine depth ++ spreadItems ascii depth (w :: items)

/-- The spread forms of the fields of an object. -/
def spreadFields (ascii : Bool) (depth : Nat) : List (String × Json) → List Char
  | [] => []
  | [(name, v)] => textChars ascii name ++ ':' :: ' ' :: v.spreadChars ascii depth
  | (name, v) :: f :: fields =>
    textChars ascii name ++ ':' :: ' ' :: v.spreadChars ascii depth ++ ',' :: newLine depth ++
      spreadFields ascii depth (f :: fields)

end

/-- The spread form of a value, with one item a line. -/
def spread (ascii : Bool) (v : Json) : String := String.ofList (v.spreadChars ascii 0)

mutual

/-- The form of a value inside a report, a text quoted. -/
def quotedChars : Json → List Char
  | null => "None".toList
  | bool true => "True".toList
  | bool false => "False".toList
  | int n => intChars n
  | float x => (Number.full x).toList
  | string s => (quote s).toList
  | array items => '[' :: quotedItems items ++ [']']
  | object fields => '{' :: quotedFields fields ++ ['}']

/-- The forms of the items of an array, separated by commas. -/
def quotedItems : List Json → List Char
  | [] => []
  | [v] => v.quotedChars
  | v :: w :: items => v.quotedChars ++ ',' :: ' ' :: quotedItems (w :: items)

/-- The forms of the fields of an object, separated by commas. -/
def quotedFields : List (String × Json) → List Char
  | [] => []
  | [(name, v)] => (quote name).toList ++ ':' :: ' ' :: v.quotedChars
  | (name, v) :: f :: fields =>
    (quote name).toList ++ ':' :: ' ' :: v.quotedChars ++ ',' :: ' ' :: quotedFields (f :: fields)

end

/-- The form of a value inside a report; a text that is the whole value stands as it is. -/
def shown : Json → String
  | string s => s
  | v => String.ofList v.quotedChars

end ClassOrder.Json
