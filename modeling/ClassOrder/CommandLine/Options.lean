import ClassOrder.Text.Quoted
import ClassOrder.Text.Similar

/-!
# Command-line options

Options may stand anywhere among the classes, up to a double dash, after which everything is a
class.  An option with a value takes the next word, or what follows an equals sign.

## Main definitions

* `Invocation` — what a command line asks for.
* `UsageFault` — what is wrong with a command line.
* `Invocation.read` — reads a command line.
-/

namespace ClassOrder

/-- What a command line asks for. -/
structure Invocation where
  /-- The classes to put in order. -/
  classes : List String := []
  /-- Whether to show the project that the server has found. -/
  project : Bool := false
  /-- Whether to log every message. -/
  debug : Bool := false
  /-- The command that launches the server, if it is given. -/
  server : Option String := none
  /-- Whether to show how the program is used, and nothing else. -/
  help : Bool := false
  deriving DecidableEq, Repr, Inhabited

/-- What is wrong with a command line. -/
inductive UsageFault where
  /-- An option does not exist; the options that are most like it. -/
  | unknownOption (name : String) (similar : List String)
  /-- An option needs a value. -/
  | missingValue (name : String)
  /-- An option takes no value. -/
  | unwantedValue (name : String)
  /-- There is nothing to put in order. -/
  | noClasses
  deriving DecidableEq, Repr

/-- The text of a fault in reports. -/
def UsageFault.message : UsageFault → String
  | unknownOption name similar =>
    "No such option " ++ Text.quote name ++ "." ++
      (match similar with
        | [] => ""
        | [one] => " Did you mean " ++ Text.quote one ++ "?"
        | several =>
          " (Possible options: " ++ ", ".intercalate (several.map Text.quote) ++ ")")
  | missingValue name => "Option " ++ Text.quote name ++ " requires an argument."
  | unwantedValue name => "Option " ++ Text.quote name ++ " does not take a value."
  | noClasses => "No classes given"

/-- The option that takes a value. -/
def serverOption : String := "--server"

/-- The names of the options. -/
def optionNames : List String := ["--project", "--debug", serverOption, "--help"]

/-- The name of an option, and the value after its equals sign, if it has one. -/
def cutOption (word : String) : String × Option String :=
  let (name, rest) := word.toList.span (· != '=')
  (String.ofList name, rest.tail?.map String.ofList)

/-- What is wrong with a word that names no option: a word with one dash is a run of options of
one letter, of which there are none. -/
def unknownOption (word : String) : UsageFault :=
  match word.toList with
  | '-' :: '-' :: _ =>
    let name := (cutOption word).1
    .unknownOption name (Text.similarTexts name optionNames)
  | letters => .unknownOption (String.ofList (letters.take 2)) []

/-- Whether a word is an option. -/
def isOption (word : String) : Bool :=
  match word.toList with
  | '-' :: _ :: _ => true
  | _ => false

namespace Invocation

/-- The invocation with an option that takes no value. -/
def withFlag (name : String) (i : Invocation) : Invocation :=
  if name = "--project" then { i with project := true }
  else if name = "--debug" then { i with debug := true }
  else { i with help := true }

/-- The invocation with more classes. -/
def withClasses (words : List String) (i : Invocation) : Invocation :=
  { i with classes := i.classes ++ words }

/-- The invocation with a command that launches the server. -/
def withServer (command : String) (i : Invocation) : Invocation :=
  { i with server := some command }

/-- The invocation with an option, and whether its value is still to come. -/
def withOption (word : String) (i : Invocation) : Except UsageFault (Invocation × Bool) :=
  match cutOption word with
  | (name, value) =>
    if name = serverOption then
      match value with
      | some value => .ok (i.withServer value, false)
      | none => .ok (i, true)
    else if optionNames.contains name then
      if value.isSome then .error (.unwantedValue name) else .ok (i.withFlag name, false)
    else .error (unknownOption word)

/-- Reads the rest of a command line; with `expecting`, the next word is the command that launches
the server. -/
def readFrom (expecting : Bool) (i : Invocation) : List String → Except UsageFault Invocation
  | [] => if expecting then .error (.missingValue serverOption) else .ok i
  | word :: words =>
    if expecting then readFrom false (i.withServer word) words
    else if word = "--" then .ok (i.withClasses words)
    else if isOption word then
      match i.withOption word with
      | .error fault => .error fault
      | .ok (i, expecting) => readFrom expecting i words
    else readFrom false (i.withClasses [word]) words

/-- Reads a command line. -/
def read (words : List String) : Except UsageFault Invocation := readFrom false {} words

end Invocation

end ClassOrder
