/-!
# Decimal forms of doubles

A finite double is a whole number times a power of two.  Two decimal forms of it are computed
here in exact arithmetic: the shortest one that still reads back as the same double, and the one
rounded to a given number of digits.

## Main definitions

* `Binary` — a positive number `mantissa * 2 ^ exponent`, with the interval of reals that round
  to it.
* `Decimal` — a number `digits * 10 ^ scale`.
* `Binary.shortest` — the shortest decimal in the interval, and the nearest of those.
* `Binary.rounded` — the nearest decimal with a given number of digits.
* `Magnitude` — a double as a sign and one of four kinds of size.
* `compareWhole?` — how a whole number compares with a double.
* `wholeValue?` — the value of a double that is whole.
-/

namespace ClassOrder.Number

/-- The positive number `mantissa * 2 ^ exponent`. -/
structure Binary where
  /-- The whole number. -/
  mantissa : Nat
  /-- The power of two that it is multiplied by. -/
  exponent : Int
  /-- Whether the next smaller double is only half as far away as the next larger one. -/
  narrowBelow : Bool
  deriving DecidableEq, Repr

/-- The number `digits * 10 ^ scale`. -/
structure Decimal where
  /-- The digits, as a whole number. -/
  digits : Nat
  /-- The power of ten that they are multiplied by. -/
  scale : Int
  deriving DecidableEq, Repr

/-- `b ^ e` for a positive exponent, one otherwise. -/
def powUp (b : Nat) (e : Int) : Nat := Nat.pow b e.toNat

/-- `d * 10 ^ k` and `x * 2 ^ e` on one common scale, so that comparing the two whole numbers
compares the two products. -/
def align (d : Nat) (k : Int) (x : Nat) (e : Int) : Nat × Nat :=
  (d * powUp 10 k * powUp 2 (-e), x * powUp 2 e * powUp 10 (-k))

/-- Whether `d * 10 ^ k` rounds to `b`: it lies between the midpoints to the neighbours of `b`,
which belong to `b` when its mantissa is even. -/
def Binary.covers (b : Binary) (d : Nat) (k : Int) : Bool :=
  let above := align d k (4 * b.mantissa + 2) (b.exponent - 2)
  let below := align d k (if b.narrowBelow then 4 * b.mantissa - 1 else 4 * b.mantissa - 2)
    (b.exponent - 2)
  if b.mantissa % 2 = 0 then below.2 ≤ below.1 && above.1 ≤ above.2
  else below.2 < below.1 && above.1 < above.2

/-- The largest `d` with `d * 10 ^ k` at most `b`, and twice the rest against the grid's step:
whether `b` lies before, on or after the middle between `d` and `d + 1`. -/
def Binary.onGrid (b : Binary) (k : Int) : Nat × Ordering :=
  let (step, size) := align 1 k b.mantissa b.exponent
  (size / step, compare (2 * (size % step)) step)

/-- The shortest decimal that rounds to `b`, searched on the grids `10 ^ k`, `10 ^ (k - 1)`, … -/
def Binary.shortestFrom (b : Binary) (k : Int) : (grids : Nat) → Decimal
  | 0 => ⟨(b.onGrid k).1, k⟩
  | grids + 1 =>
    let (d, side) := b.onGrid k
    match b.covers d k, b.covers (d + 1) k with
    | true, true => ⟨if side == .gt || (side == .eq && d % 2 = 1) then d + 1 else d, k⟩
    | true, false => ⟨d, k⟩
    | false, true => ⟨d + 1, k⟩
    | false, false => b.shortestFrom (k - 1) grids

/-- A power of ten that is larger than `b` and at most a thousand times as large. -/
def Binary.ceiling (b : Binary) : Int :=
  ((b.mantissa.log2 + 1 + b.exponent) * 30103).fdiv 100000 + 2

/-- The shortest decimal that rounds to `b`; of several, the nearest to `b`, and the even one of
two equally near. -/
def Binary.shortest (b : Binary) : Decimal := b.shortestFrom b.ceiling 24

/-- The exponent of the leading decimal digit of `b`, searched downwards from `k`. -/
def Binary.leadingFrom (b : Binary) (k : Int) : (steps : Nat) → Int
  | 0 => k
  | steps + 1 => if (b.onGrid k).1 = 0 then b.leadingFrom (k - 1) steps else k

/-- The nearest decimal to `b` with `count` digits, the even one of two equally near; trailing
zeros are kept. -/
def Binary.rounded (b : Binary) (count : Nat) : Decimal :=
  let scale := b.leadingFrom b.ceiling 8 - (count - 1)
  let (d, side) := b.onGrid scale
  let d := match side with
    | .lt => d
    | .eq => if d % 2 = 0 then d else d + 1
    | .gt => d + 1
  if d = Nat.pow 10 count then ⟨d / 10, scale + 1⟩ else ⟨d, scale⟩

/-- The value of `b`, if it is whole. -/
def Binary.whole? (b : Binary) : Option Nat :=
  let step := powUp 2 (-b.exponent)
  if b.mantissa % step = 0 then some (b.mantissa * powUp 2 b.exponent / step) else none

/-- The size of a double. -/
inductive Magnitude where
  | zero
  | finite (b : Binary)
  | infinite
  | nan
  deriving DecidableEq, Repr

/-- The sign and size of a double, by its bits: a sign, eleven bits of exponent and fifty-two of
mantissa. -/
def magnitude (x : Float) : Bool × Magnitude :=
  let bits := x.toBits.toNat
  let negative := bits / Nat.pow 2 63 = 1
  let exponent : Nat := bits / Nat.pow 2 52 % 2048
  let fraction : Nat := bits % Nat.pow 2 52
  let size : Magnitude :=
    if exponent = 2047 then if fraction = 0 then .infinite else .nan
    else if exponent = 0 then if fraction = 0 then .zero else .finite ⟨fraction, -1074, false⟩
    else .finite ⟨Nat.pow 2 52 + fraction, (exponent : Int) - 1075, fraction = 0 && exponent ≠ 1⟩
  (negative, size)

/-- How a whole number compares with a double; not at all with one that is no number. -/
def compareWhole? (n : Int) (x : Float) : Option Ordering :=
  match magnitude x with
  | (_, .nan) => none
  | (negative, .infinite) => some (if negative then .gt else .lt)
  | (_, .zero) => some (compare n 0)
  | (negative, .finite b) =>
    let size : Int := b.mantissa * powUp 2 b.exponent
    some (compare (n * powUp 2 (-b.exponent)) (if negative then -size else size))

/-- The value of a double, if it is whole. -/
def wholeValue? (x : Float) : Option Int :=
  match magnitude x with
  | (_, .zero) => some 0
  | (negative, .finite b) => b.whole?.map fun n => if negative then -(n : Int) else n
  | _ => none

end ClassOrder.Number
