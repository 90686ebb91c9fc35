import ClassOrder.Text.Blank
import ClassOrder.Text.Digit

/-!
# Reading numbers

The grammars of written whole numbers and doubles, and their values.

## Main definitions

* `ungroup?` — a text without the underscores that stand between digits.
* `integer?` — an optional sign and grouped digits.
* `looseInteger?` — a whole number in a form that zeros and underscores may pad.
* `ofDecimal` — the double nearest to a decimal.
* `double?` — a double as a setting gives it: spaces around it, grouped digits of any script,
  an exponent, or one of the names of the infinities and of the double that is no number.
-/

namespace ClassOrder.Number

open ClassOrder.Text

/-- Whether a text starts with an ASCII digit. -/
def startsWithDigit : List Char → Bool
  | [] => false
  | c :: _ => isAsciiDigit c

/-- A text without its underscores, each of which must stand between two digits; `afterDigit` is
whether a digit came just before. -/
def ungroup? (afterDigit : Bool) : List Char → Option (List Char)
  | [] => some []
  | c :: cs =>
    if c = '_' then
      if afterDigit && startsWithDigit cs then ungroup? false cs else none
    else (ungroup? (isAsciiDigit c) cs).map (c :: ·)

/-- An optional sign, and the text after it; `true` for a minus. -/
def sign : List Char → Bool × List Char
  | '-' :: cs => (true, cs)
  | '+' :: cs => (false, cs)
  | cs => (false, cs)

/-- A whole number with its sign. -/
def signed (negative : Bool) (n : Nat) : Int := if negative then -(n : Int) else n

/-- An optional sign and ASCII digits with single underscores between them, at most as many
digits as a written integer may have. -/
def integer? (cs : List Char) : Option Int :=
  let (negative, body) := sign cs
  match ungroup? false body with
  | some ds =>
    if !ds.isEmpty && ds.all isAsciiDigit && ds.length ≤ digitLimit then
      some (signed negative (asciiNumeral ds))
    else none
  | none => none

/-! ### The loose form of whole numbers

A loose form is cut down step by step to the strict form: a plus sign goes, then the zeros at the
start or right after a minus sign with the underscores among them, then a point with nothing but
zeros after it, then the underscores that stand between other characters. -/

/-- Whether a character may lead what is left after the zeros at the start are dropped. -/
def leadsNumber (c : Char) : Bool := c == '-' || ('1' ≤ c && c ≤ '9')

/-- A text after zeros and underscores, of which `last` was the last one; that one is kept before
a point and at the end. -/
def afterZeros? (last : Char) : List Char → Option (List Char)
  | [] => some [last]
  | c :: cs =>
    if c = '0' ∨ c = '_' then afterZeros? c cs
    else if leadsNumber c then some (c :: cs)
    else if c = '.' then some (last :: c :: cs)
    else none

/-- A text without the zeros at its start and the underscores among them. -/
def dropLeadingZeros? : List Char → Option (List Char)
  | [] => none
  | c :: cs =>
    if c = '0' then afterZeros? c cs else if leadsNumber c then some (c :: cs) else none

/-- A text without the zeros at its start or right after the minus sign there. -/
def dropZeros? : List Char → Option (List Char)
  | '-' :: cs => (dropLeadingZeros? cs).map ('-' :: ·)
  | cs => dropLeadingZeros? cs

/-- A text without a plus sign at its start, behind which no minus sign may stand. -/
def dropPlus? : List Char → Option (List Char)
  | '+' :: '-' :: _ => none
  | '+' :: cs => some cs
  | cs => some cs

/-- A text without its first point, if zeros alone follow it, one at least. -/
def dropZeroFraction (cs : List Char) : List Char :=
  let (whole, rest) := cs.span (· != '.')
  if 1 < rest.length && (rest.drop 1).all (· == '0') then whole else cs

/-- Whether every underscore of a text stands between two other characters, where the text follows
an underscore or the start (`edge`) or another character. -/
def singleUnderscores (edge : Bool) : List Char → Bool
  | [] => !edge
  | c :: cs => if c = '_' then !edge && singleUnderscores true cs else singleUnderscores false cs

/-- A text without its underscores, if each stands between two other characters. -/
def dropUnderscores (cs : List Char) : List Char :=
  if singleUnderscores true cs then cs.filter (· != '_') else cs

/-- A whole number in the strict form: an optional minus sign, then a zero alone or digits that
start with another, in at most as many characters as a written integer may have digits. -/
def strictInteger? (cs : List Char) : Option Int :=
  let (negative, ds) := match cs with
    | '-' :: ds => (true, ds)
    | ds => (false, ds)
  if ds.all isAsciiDigit && (ds == ['0'] || (ds.head?.any (· != '0') && cs.length ≤ digitLimit))
  then some (signed negative (asciiNumeral ds))
  else none

/-- A whole number in the loose form. -/
def looseInteger? (cs : List Char) : Option Int := do
  let cs ← dropZeros? (← dropPlus? cs)
  strictInteger? (dropUnderscores (dropZeroFraction cs))

/-- The double nearest to `n * 10 ^ scale`, an infinity beyond the largest one. -/
def ofDecimal (negative : Bool) (n : Nat) (scale : Int) : Float :=
  let size : Int := (Nat.toDigits 10 n).length + scale
  let x :=
    if n = 0 then 0.0
    else if 330 < size then 1.0 / 0.0
    else if size < -330 then 0.0
    else Float.ofScientific n (scale < 0) scale.natAbs
  if negative then -x else x

/-- An exponent at the start of a text, zero if there is none, and what follows it; `none` if
its mark has no digits after it. -/
def exponent? : List Char → Option (Int × List Char)
  | [] => some (0, [])
  | c :: cs =>
    if c == 'e' || c == 'E' then
      let (negative, body) := sign cs
      let (ds, after) := body.span isAsciiDigit
      if ds.isEmpty then none else some (signed negative (asciiNumeral ds), after)
    else some (0, c :: cs)

/-- ASCII letters in lower case, all else as it is. -/
def lower (cs : List Char) : List Char := cs.map Char.toLower

/-- The name of an infinity or of the double that is no number. -/
def named? (negative : Bool) (cs : List Char) : Option Float :=
  let inf : Float := 1.0 / 0.0
  let word := String.ofList (lower cs)
  if word = "inf" ∨ word = "infinity" then some (if negative then -inf else inf)
  else if word = "nan" then some (0.0 / 0.0)
  else none

/-- Every digit as its ASCII counterpart and every blank as a space; `none` if another character
outside ASCII stands in the text. -/
def plain? (cs : List Char) : Option (List Char) :=
  cs.mapM fun c =>
    if c.toNat < 0x80 then some c
    else if isBlank c then some ' '
    else (digitValue? c).map fun d => Char.ofNat (0x30 + d)

/-- A double as a setting gives it. -/
def double? (s : String) : Option Float := do
  let cs ← plain? (trimSpaces s.toList)
  let cs ← ungroup? false cs
  let (negative, body) := sign cs
  match named? negative body with
  | some x => some x
  | none =>
    let (whole, rest) := body.span isAsciiDigit
    let (fraction, rest) := match rest with
      | '.' :: rest => rest.span isAsciiDigit
      | rest => ([], rest)
    if whole.isEmpty && fraction.isEmpty then none
    else
      let (scale, rest) ← exponent? rest
      if rest.isEmpty then
        some (ofDecimal negative (asciiNumeral (whole ++ fraction)) (scale - fraction.length))
      else none

end ClassOrder.Number
