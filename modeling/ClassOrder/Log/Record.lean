/-!
# Log records

What the program says about its work, in order, each record with a level of importance.

## Main definitions

* `Level` — the levels, ascending.
* `Record` — a level and a text.
-/

namespace ClassOrder

/-- How important a record is. -/
inductive Level where
  | trace
  | debug
  | info
  | success
  | warning
  | error
  | critical
  deriving DecidableEq, Repr, Inhabited

namespace Level

/-- The name of a level. -/
def name : Level → String
  | trace => "TRACE"
  | debug => "DEBUG"
  | info => "INFO"
  | success => "SUCCESS"
  | warning => "WARNING"
  | error => "ERROR"
  | critical => "CRITICAL"

/-- The place of a level in the order of importance. -/
def rank : Level → Nat
  | trace => 5
  | debug => 10
  | info => 20
  | success => 25
  | warning => 30
  | error => 40
  | critical => 50

/-- Every level, ascending. -/
def all : List Level := [trace, debug, info, success, warning, error, critical]

/-- The level with a name. -/
def ofName? (s : String) : Option Level := all.find? (·.name = s)

end Level

/-- Something that the program says about its work. -/
structure Record where
  /-- How important it is. -/
  level : Level
  /-- What it says. -/
  message : String
  deriving DecidableEq, Repr

end ClassOrder
