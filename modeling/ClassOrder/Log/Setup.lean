import ClassOrder.Json.Printer
import ClassOrder.Log.Record

/-!
# Log setup

Nothing is logged on the terminal until the log is set up, which happens once unless it is forced.
Records of the program's own modules are dropped until then; records of other modules are not.

## Main definitions

* `LogSetup` — how the log is set up.
* `LogSetup.configure` — sets it up.
* `LogSetup.admit?` — a record with the fields that it is logged with, unless it is dropped.
* `LogSetup.line?` — the line that the terminal shows of it.
-/

namespace ClassOrder

/-- The name that the program's own modules start with. -/
def ownModules : String := "tailwind_sorter"

/-- Whether a module is one of the program's own. -/
def isOwnModule (name : String) : Bool :=
  name = ownModules || (ownModules ++ ".").toList.isPrefixOf name.toList

/-- How the log is set up. -/
structure LogSetup where
  /-- Whether it has been set up. -/
  configured : Bool := false
  /-- Whether records of the program's own modules are logged. -/
  enabled : Bool := false
  /-- The least important level that the terminal shows, if it shows any. -/
  threshold : Option Level := none
  /-- Whether a record without a name is logged under its module's. -/
  named : Bool := false
  deriving DecidableEq, Repr, Inhabited

/-- There is no level with the given name. -/
structure UnknownLevel where
  name : String
  deriving DecidableEq, Repr

/-- The capital form of a character, as far as the names of levels need it: the capitals of ASCII,
and what has them as its capital form. -/
def capital (c : Char) : List Char :=
  if c = 'ı' then ['I'] else if c = 'ſ' then ['S'] else if c = 'ß' then ['S', 'S'] else [c.toUpper]

/-- The level with a name in capitals or not. -/
def Level.ofText? (s : String) : Option Level := ofName? (String.ofList (s.toList.flatMap capital))

/-- The name of the level in use when nothing says otherwise. -/
def standardLevel : String := "WARNING"

namespace LogSetup

/-- Sets the log up with a level: the given one, else that of a variable, else the standard one.
A level that does not exist leaves the terminal without a log. -/
def configure (variableLevel given : Option String) (force : Bool) (s : LogSetup) :
    Except UnknownLevel Unit × LogSetup :=
  if s.configured && !force then (.ok (), s)
  else
    let name := given.getD (variableLevel.getD standardLevel)
    match Level.ofText? name with
    | some level => (.ok (), ⟨true, true, some level, true⟩)
    | none => (.error ⟨name⟩, { s with threshold := none, named := true })

/-- The fields that a record of a module is logged with, unless it is dropped: those of its
context, and the name it is logged under if it has one. -/
def admit? (moduleName : String) (name : Option String) (context : List (String × Json))
    (s : LogSetup) : Option (List (String × Json)) :=
  if isOwnModule moduleName && !s.enabled then none
  else match name with
    | some name => some (Assoc.put "name" (.string name) context)
    | none =>
      if s.named && (Assoc.get? "name" context).isNone then
        some (Assoc.put "name" (.string moduleName) context)
      else some context

/-- A text with spaces after it, up to a length. -/
def padded (length : Nat) (s : String) : String := s.pushn ' ' (length - s.length)

/-- The level, the name and the text in the line that the terminal shows of a record with given
fields, if it shows it. -/
def line? (r : Record) (fields : List (String × Json)) (s : LogSetup) :
    Option (String × String × String) :=
  match s.threshold with
  | none => none
  | some least =>
    if least.rank ≤ r.level.rank then
      some (padded 8 r.level.name, ((Assoc.get? "name" fields).getD .null).shown, r.message)
    else none

end LogSetup

end ClassOrder
