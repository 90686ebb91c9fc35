import ClassOrder.Number.Format
import ClassOrder.Number.Read

/-!
# Amounts

A number of seconds is a whole number or a double, and is shown the way it was given.  Whole
numbers are exact: they are compared with doubles as they are, and become doubles only when they
are added to one or taken from one.

## Main definitions

* `Amount` — a whole number or a double.
* `Amount.toFloat` — its value.
* `Amount.less`, `Amount.lessEq` — the order.
* `Amount.plus`, `Amount.minus` — sum and difference.
* `Amount.fits` — whether it has a double.
* `Amount.isRefused` — whether it is at most zero.
* `Amount.shown` — its text inside reports.
-/

namespace ClassOrder

/-- A number of seconds. -/
inductive Amount where
  | whole (n : Int)
  | real (x : Float)
  deriving Inhabited

namespace Amount

/-- The double nearest to an amount. -/
def toFloat : Amount → Float
  | whole n => Number.ofDecimal (n < 0) n.natAbs 0
  | real x => x

/-- Whether one amount is smaller than another. -/
def less : Amount → Amount → Bool
  | whole m, whole n => m < n
  | whole m, real y => Number.compareWhole? m y == some .lt
  | real x, whole n => Number.compareWhole? n x == some .gt
  | real x, real y => x < y

/-- Whether one amount is at most another. -/
def lessEq : Amount → Amount → Bool
  | whole m, whole n => m ≤ n
  | whole m, real y => (Number.compareWhole? m y).any (· != .gt)
  | real x, whole n => (Number.compareWhole? n x).any (· != .lt)
  | real x, real y => x ≤ y

/-- The sum of two amounts, whole if both are. -/
def plus : Amount → Amount → Amount
  | whole m, whole n => whole (m + n)
  | a, b => real (a.toFloat + b.toFloat)

/-- The difference of two amounts, whole if both are. -/
def minus : Amount → Amount → Amount
  | whole m, whole n => whole (m - n)
  | a, b => real (a.toFloat - b.toFloat)

/-- The least whole number that is nearer to the power of two beyond every double than to the
largest double. -/
def beyond : Nat := Nat.pow 2 1024 - Nat.pow 2 970

/-- Whether an amount is a double or has one near it. -/
def fits : Amount → Bool
  | whole n => n.natAbs < beyond
  | real _ => true

/-- Whether an amount is at most zero; the double that is no number is not. -/
def isRefused (a : Amount) : Bool := a.lessEq (whole 0)

/-- The text of an amount inside reports. -/
def shown : Amount → String
  | whole n => toString n
  | real x => Number.full x

end Amount

end ClassOrder
