import ClassOrder.Number.Decimal

/-!
# Written numbers

The two ways in which doubles are written.  The *full* form has the shortest digits that read
back as the same double and always looks like a double, by a point or an exponent.  The *general*
form has six significant digits and drops trailing zeros.

## Main definitions

* `Style` — the decisions that tell the two forms apart.
* `full`, `general` — the two forms.
-/

namespace ClassOrder.Number

/-- The decisions of a written form. -/
structure Style where
  /-- The digits of a number. -/
  decimal : Binary → Decimal
  /-- The least exponent of the leading digit that is written without an exponent. -/
  least : Int
  /-- The greatest exponent of the leading digit that is written without an exponent. -/
  greatest : Int
  /-- Whether a whole number written without an exponent ends in `.0`. -/
  keepsPoint : Bool
  /-- How an infinity is written. -/
  infinity : String
  /-- How the double that is no number is written. -/
  nan : String

/-- The decimal digits of a number. -/
def digits (n : Nat) : List Char := Nat.toDigits 10 n

/-- Digits without the zeros at their end. -/
def dropZeros (cs : List Char) : List Char := (cs.reverse.dropWhile (· == '0')).reverse

/-- Digits with a point after the first `point` of them, zeros filled in where there are none. -/
def positional (cs : List Char) (point : Int) (keepsPoint : Bool) : List Char :=
  if point ≤ 0 then '0' :: '.' :: List.replicate (-point).toNat '0' ++ cs
  else
    let n := point.toNat
    if n < cs.length then cs.take n ++ '.' :: cs.drop n
    else cs ++ List.replicate (n - cs.length) '0' ++ if keepsPoint then ['.', '0'] else []

/-- Digits with a point after the first one and an exponent of at least two digits. -/
def scientific (cs : List Char) (exponent : Int) : List Char :=
  let tail := digits exponent.natAbs
  cs.take 1 ++ (if cs.length > 1 then '.' :: cs.drop 1 else []) ++
    'e' :: (if exponent < 0 then '-' else '+') :: (if tail.length < 2 then '0' :: tail else tail)

/-- A double in a given style. -/
def Style.write (style : Style) (x : Float) : String :=
  let (negative, size) := magnitude x
  let sign := if negative then "-" else ""
  match size with
  | .nan => style.nan
  | .infinite => sign ++ style.infinity
  | .zero => sign ++ (if style.keepsPoint then "0.0" else "0")
  | .finite b =>
    let d := style.decimal b
    let cs := digits d.digits
    let exponent : Int := d.scale + cs.length - 1
    let cs := dropZeros cs
    sign ++ String.ofList
      (if style.least ≤ exponent ∧ exponent ≤ style.greatest then
        positional cs (exponent + 1) style.keepsPoint
      else scientific cs exponent)

/-- The shortest digits that read back, positional from `0.0001` to below `10 ^ 16`, with a point
or an exponent in any case. -/
def full (x : Float) : String :=
  Style.write ⟨Binary.shortest, -4, 15, true, "inf", "nan"⟩ x

/-- Six significant digits without trailing zeros, positional from `0.0001` to below a million. -/
def general (x : Float) : String :=
  Style.write ⟨(·.rounded 6), -4, 5, false, "inf", "nan"⟩ x

end ClassOrder.Number
