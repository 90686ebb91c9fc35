import ClassOrder.Files.Host
import ClassOrder.Settings.Basic
import ClassOrder.Settings.ShellWords
import ClassOrder.Settings.VariableFile
import ClassOrder.Text.Newline

/-!
# Settings from variables

Some settings may come from variables: those of the process, and those of the nearest variable
file at or above the working directory, which never replaces one that is there and may be switched
off.

## Main definitions

* `variableFile?` — the nearest variable file.
* `Host.loadVariables` — the host with the variables of that file.
* `settingsFromVariables` — the settings that the variables give.
-/

namespace ClassOrder

/-- The nearest variable file at or above the working directory. -/
def variableFile? (h : Host) : Option Path :=
  ((ancestors h.cwd).map fun place => Path.root (place ++ [".env"])).find? h.isFile

/-- The variable that switches variable files off. -/
def offVariable : String := "PYTHON_DOTENV_DISABLED"

/-- The words that switch variable files off. -/
def offWords : List String := ["1", "true", "t", "yes", "y"]

/-- A character without its case, as far as those words need it: the small letters of ASCII, and
the long s. -/
def caseless (c : Char) : Char := if c = 'ſ' then 's' else c.toLower

/-- Whether a variable of the host switches variable files off. -/
def Host.ignoresVariableFiles (h : Host) : Bool :=
  match h.valueOf? offVariable with
  | some s => offWords.contains (String.ofList (s.toList.map caseless))
  | none => false

/-- The host with the variables of the nearest variable file, unless such files are switched
off. -/
def Host.loadVariables {τ : Type} (h : Host) : Except (Fault τ) Host :=
  match if h.ignoresVariableFiles then none else variableFile? h with
  | none => .ok h
  | some path =>
    match h.files.read h.cwd path with
    | .error fault => .error (.system fault)
    | .ok bytes =>
      match Text.readText? bytes with
      | none => .error .notText
      | some text =>
        match fileVariables h.environment text with
        | some environment => .ok { h with environment }
        | none => .error (.raised .badValue "a variable cannot be made")

/-- The words that switch a setting on. -/
def switchWords : List String := ["1", "true", "yes", "on"]

/-- Whether the value of a variable switches a setting on. -/
def switchedOn (s : String) : Bool :=
  switchWords.contains (String.ofList (Number.lower (Text.trim s.toList)))

/-- A text that has no words. -/
def ShellFault.fault {τ : Type} : ShellFault → Fault τ
  | openQuotation => .raised .badValue "No closing quotation"
  | openEscape => .raised .badValue "No escaped character"

/-- The words of the variable that holds the server's command, if it holds anything. -/
def commandVariable {τ : Type} (h : Host) : Except (Fault τ) (Option (List String)) :=
  match h.valueOf? "TAILWIND_SORTER_SERVER" with
  | none => .ok none
  | some "" => .ok none
  | some s => ((ShellWords.split s).mapError ShellFault.fault).map some

/-- The number that a variable holds, if it is there. -/
def amountVariable {τ : Type} (h : Host) (name : String) : Except (Fault τ) (Option Amount) :=
  match h.valueOf? name with
  | none => .ok none
  | some s =>
    match Number.double? s with
    | some x => .ok (some (.real x))
    | none => .error (.notNumber name s)

/-- The settings that the variables of a host give. -/
def settingsFromVariables {τ : Type} (h : Host) : Except (Fault τ) GivenSettings := do
  let command ← commandVariable h
  let cacheTtl ← amountVariable h "TAILWIND_SORTER_CACHE_TTL"
  let requestTimeout ← amountVariable h "TAILWIND_SORTER_REQUEST_TIMEOUT"
  let standard : GivenSettings := {}
  return { standard with
    serverCommand := command
    cacheTtl := cacheTtl.getD standard.cacheTtl
    requestTimeout := requestTimeout.getD standard.requestTimeout
    debug := ((h.valueOf? "TAILWIND_SORTER_DEBUG").map switchedOn).getD false }

end ClassOrder
