/-!
# Similar texts

How alike two texts are: the share of their characters that stand in common runs, found by taking
the longest common run and going on with what is before it and after it.

## Main definitions

* `common` — the number of characters in common runs.
* `similarTexts` — the texts of a list that are most like a given one.
-/

namespace ClassOrder.Text

/-- The length of the longest common beginning. -/
def commonStart : List Char → List Char → Nat
  | a :: as, b :: bs => if a = b then commonStart as bs + 1 else 0
  | _, _ => 0

/-- A run of characters that two texts share. -/
structure Run where
  /-- Where it begins in the first text. -/
  first : Nat := 0
  /-- Where it begins in the second text. -/
  second : Nat := 0
  /-- How long it is. -/
  length : Nat := 0
  deriving DecidableEq, Repr

/-- The longest common run; of several, the one that begins first in the first text, and then in
the second one. -/
def longestRun (as bs : List Char) : Run :=
  ((List.range as.length).flatMap fun i =>
    (List.range bs.length).map fun j =>
      (⟨i, j, commonStart (as.drop i) (bs.drop j)⟩ : Run)).foldl
    (fun best run => if best.length < run.length then run else best) {}

/-- The number of characters in common runs, of which there are at most `runs`. -/
def commonUpTo : (runs : Nat) → List Char → List Char → Nat
  | 0, _, _ => 0
  | runs + 1, as, bs =>
    let run := longestRun as bs
    if run.length = 0 then 0
    else
      run.length + commonUpTo runs (as.take run.first) (bs.take run.second) +
        commonUpTo runs (as.drop (run.first + run.length)) (bs.drop (run.second + run.length))

/-- The number of characters in common runs. -/
def common (as bs : List Char) : Nat := commonUpTo as.length as bs

/-- How alike two texts are: `common` out of `total` characters in pairs. -/
structure Likeness where
  common : Nat
  total : Nat
  deriving DecidableEq, Repr

/-- How alike two texts are. -/
def likeness (s t : String) : Likeness := ⟨Text.common s.toList t.toList, s.length + t.length⟩

namespace Likeness

/-- Whether at least three fifths of the characters are in common runs. -/
def isClose (l : Likeness) : Bool := 3 * l.total ≤ 10 * l.common

/-- Whether one likeness is larger than another. -/
def above (l m : Likeness) : Bool := m.common * l.total < l.common * m.total

end Likeness

/-- The texts of a list that are most like a given one, three at most, ascending. -/
def similarTexts (s : String) (texts : List String) : List String :=
  let close := (texts.map fun t => (likeness t s, t)).filter (·.1.isClose)
  let best := close.mergeSort fun a b => a.1.above b.1 || (!b.1.above a.1 && decide (b.2 ≤ a.2))
  ((best.take 3).map (·.2)).mergeSort fun a b => decide (a ≤ b)

end ClassOrder.Text
