/-!
# Shell words

Cutting a command line into words the way a shell does: blanks separate words, quotation marks
and apostrophes keep them together, and a backslash takes the next character as it is.

## Main definitions

* `ShellFault` — why a text has no words.
* `ShellWords.split` — the words of a text.
-/

namespace ClassOrder

/-- Why a text has no words. -/
inductive ShellFault where
  /-- A quotation is not closed. -/
  | openQuotation
  /-- A backslash ends the text. -/
  | openEscape
  deriving DecidableEq, Repr

namespace ShellWords

/-- Where in a text a character stands. -/
inductive Mode where
  /-- Outside quotations. -/
  | plain
  /-- Between apostrophes. -/
  | single
  /-- Between quotation marks. -/
  | double
  /-- After a backslash outside quotations. -/
  | plainEscape
  /-- After a backslash between quotation marks. -/
  | doubleEscape
  deriving DecidableEq, Repr

/-- The four blanks that separate words. -/
def isGap (c : Char) : Bool := c == ' ' || c == '\t' || c == '\r' || c == '\n'

/-- The word that has been begun, as a list of at most one word. -/
def begun (word : Option (List Char)) : List String :=
  (word.map fun w => String.ofList w.reverse).toList

/-- The words of the rest of a text; `word` is the one that has been begun, in reverse. -/
def splitFrom (mode : Mode) (word : Option (List Char)) :
    List Char → Except ShellFault (List String)
  | [] =>
    match mode with
    | .plain => .ok (begun word)
    | .single | .double => .error .openQuotation
    | .plainEscape | .doubleEscape => .error .openEscape
  | c :: cs =>
    let sofar := word.getD []
    match mode with
    | .plain =>
      if isGap c then (splitFrom .plain none cs).map (begun word ++ ·)
      else if c = '\\' then splitFrom .plainEscape (some sofar) cs
      else if c = '\'' then splitFrom .single (some sofar) cs
      else if c = '"' then splitFrom .double (some sofar) cs
      else splitFrom .plain (some (c :: sofar)) cs
    | .single =>
      if c = '\'' then splitFrom .plain (some sofar) cs
      else splitFrom .single (some (c :: sofar)) cs
    | .double =>
      if c = '"' then splitFrom .plain (some sofar) cs
      else if c = '\\' then splitFrom .doubleEscape (some sofar) cs
      else splitFrom .double (some (c :: sofar)) cs
    | .plainEscape => splitFrom .plain (some (c :: sofar)) cs
    | .doubleEscape =>
      if c = '"' ∨ c = '\\' then splitFrom .double (some (c :: sofar)) cs
      else splitFrom .double (some (c :: '\\' :: sofar)) cs

/-- The words of a text. -/
def split (s : String) : Except ShellFault (List String) := splitFrom .plain none s.toList

end ShellWords

end ClassOrder
