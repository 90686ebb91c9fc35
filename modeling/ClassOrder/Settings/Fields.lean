import ClassOrder.Settings.Basic

/-!
# Settings by name

Settings may be given as the fields of an object, on top of others.  A field that names no setting
is refused, and so is a value that its setting cannot take; the numbers of seconds are looked at in
the order in which they are checked.

## Main definitions

* `settingNames` — the names of the settings.
* `amountOf?`, `commandOf?` — the values that a number of seconds and a command may have.
* `GivenSettings.withFields` — the settings with those of an object.
-/

namespace ClassOrder

/-- The names of the settings. -/
def settingNames : List String :=
  ["server_command", "start_dir", "cache_ttl", "request_timeout", "read_timeout", "drain_timeout",
    "shutdown_timeout", "min_server_version", "debug", "environment"]

/-- The number of seconds that a value is; a truth value is one or zero. -/
def amountOf? : Json → Option Amount
  | .int n => some (.whole n)
  | .float x => some (.real x)
  | .bool b => some (.whole (if b then 1 else 0))
  | _ => none

/-- The text that a value is. -/
def textOf? : Json → Option String
  | .string s => some s
  | _ => none

/-- The words of a command: a list of texts, the characters of a text or the names of an object. -/
def commandOf? : Json → Option (List String)
  | .array xs => xs.mapM textOf?
  | .string s => some (s.toList.map String.singleton)
  | .object fs => some (fs.map (·.1))
  | _ => none

/-- The variables that a value gives. -/
def variablesOf : Json → List (String × String)
  | .object fs => fs.filterMap fun f => (textOf? f.2).map (f.1, ·)
  | _ => []

namespace GivenSettings

variable {τ : Type}

/-- A number of seconds, given by the field `name` of an object or else by `old`, unless it is
refused. -/
def amountField (fields : Json) (name : String) (old : Amount) : Except (Fault τ) Amount :=
  match fields.field? name with
  | none => if old.isRefused then .error (.notPositive name old) else .ok old
  | some (.bool false) =>
    .error (.raised .configuration (name ++ " must be positive, got " ++ (Json.bool false).shown))
  | some value =>
    match amountOf? value with
    | none => .error .wrongType
    | some x => if x.isRefused then .error (.notPositive name x) else .ok x

/-- A command, given by a field of an object or else by `old`. -/
def commandField (fields : Json) (old : Option (List String)) :
    Except (Fault τ) (Option (List String)) :=
  match fields.field? "server_command" with
  | none => .ok old
  | some .null => .ok none
  | some value =>
    match commandOf? value with
    | none => .error .wrongType
    | some words => .ok (some words)

/-- The settings with those that the fields of an object give. -/
def withFields (fields : List (String × Json)) (g : GivenSettings) :
    Except (Fault τ) GivenSettings := do
  if fields.any fun f => !settingNames.contains f.1 then throw .wrongType
  let v := Json.object fields
  let cacheTtl ← amountField v "cache_ttl" g.cacheTtl
  let requestTimeout ← amountField v "request_timeout" g.requestTimeout
  let readTimeout ← amountField v "read_timeout" g.readTimeout
  let drainTimeout ← amountField v "drain_timeout" g.drainTimeout
  let shutdownTimeout ← amountField v "shutdown_timeout" g.shutdownTimeout
  let serverCommand ← commandField v g.serverCommand
  return {
    serverCommand, cacheTtl, requestTimeout, readTimeout, drainTimeout, shutdownTimeout
    startDir := ((v.field? "start_dir").map textOf?).getD g.startDir
    minServerVersion :=
      ((v.field? "min_server_version").map fun w => (textOf? w).getD "").getD g.minServerVersion
    debug := ((v.field? "debug").map Json.isFilled).getD g.debug
    environment := ((v.field? "environment").map variablesOf).getD g.environment }

end GivenSettings

end ClassOrder
