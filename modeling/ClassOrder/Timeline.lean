import ClassOrder.Number.Amount

/-!
# Timelines

What the session needs of points and stretches of time, which it reads from a clock, adds,
subtracts and compares, and for which it asks the system to wait.  The program runs on numbers of
seconds; exact times make the same definitions a subject for proofs.

## Main definitions

* `Refusal` — why a system refuses to wait for a time.
* `Timeline` — times with their arithmetic, order and written form.
* `MachineTime` — numbers of seconds on a system that does not wait for all of them.
* `earlier`, `later` — the smaller and the larger of two times, the first when they are equal.
-/

namespace ClassOrder

/-- Why a system refuses to wait for a time. -/
inductive Refusal where
  /-- The time is too long to be counted. -/
  | tooLong
  /-- The time is no number. -/
  | notNumber
  deriving DecidableEq, Repr

/-- Times, which are points on a clock as well as stretches between two of them. -/
class Timeline (τ : Type) extends Add τ, Sub τ, LT τ, LE τ, Zero τ where
  [decidableLT : DecidableLT τ]
  [decidableLE : DecidableLE τ]
  /-- Whether a time can be counted on a clock. -/
  fits : τ → Bool := fun _ => true
  /-- Why the system refuses to wait for a time, if it does. -/
  refusal? : τ → Option Refusal := fun _ => none
  /-- The written form of a time inside reports. -/
  general : τ → String

instance Timeline.instDecidableLT {τ : Type} [Timeline τ] : DecidableLT τ := decidableLT

instance Timeline.instDecidableLE {τ : Type} [Timeline τ] : DecidableLE τ := decidableLE

/-- Numbers of seconds, on a system that waits for all of them. -/
instance Timeline.instAmount : Timeline Amount where
  add := Amount.plus
  sub := Amount.minus
  lt a b := a.less b = true
  le a b := a.lessEq b = true
  zero := .whole 0
  decidableLT := fun a b => inferInstanceAs (Decidable (a.less b = true))
  decidableLE := fun a b => inferInstanceAs (Decidable (a.lessEq b = true))
  fits := Amount.fits
  general a := Number.general a.toFloat

/-- Why an amount is refused by a system that counts the nanoseconds of a wait in 63 bits, if it
is. -/
def Amount.refusal? : Amount → Option Refusal
  | whole n => if Int.pow 2 63 ≤ n * 1000000000 then some .tooLong else none
  | real x =>
    match Number.compareWhole? (Int.pow 2 63) (x * 1e9) with
    | none => some .notNumber
    | some order => if order = .gt then none else some .tooLong

/-- Numbers of seconds, on a system that counts the nanoseconds of a wait in 63 bits. -/
structure MachineTime where
  amount : Amount

instance Timeline.instMachineTime : Timeline MachineTime where
  add a b := ⟨a.amount.plus b.amount⟩
  sub a b := ⟨a.amount.minus b.amount⟩
  lt a b := a.amount.less b.amount = true
  le a b := a.amount.lessEq b.amount = true
  zero := ⟨.whole 0⟩
  decidableLT := fun a b => inferInstanceAs (Decidable (a.amount.less b.amount = true))
  decidableLE := fun a b => inferInstanceAs (Decidable (a.amount.lessEq b.amount = true))
  fits a := a.amount.fits
  refusal? a := a.amount.refusal?
  general a := Number.general a.amount.toFloat

variable {τ : Type} [Timeline τ]

/-- The smaller of two times, the first when they are equal. -/
def earlier (a b : τ) : τ := if b < a then b else a

/-- The larger of two times, the first when they are equal. -/
def later (a b : τ) : τ := if a < b then b else a

end ClassOrder
