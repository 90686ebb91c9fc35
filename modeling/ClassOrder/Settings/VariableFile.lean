import ClassOrder.Assoc
import ClassOrder.Text.Blank

/-!
# Variable files

A variable file gives variables their values, one binding a line: a name, an equals sign and a
value, which may be quoted.  A name alone has no value.  A line that is no binding is passed over.
A value may refer to other variables.

## Main definitions

* `bindings` — the bindings of a file, in order.
* `expand` — a value with the variables that it refers to filled in.
* `fileVariables` — the variables that a file adds to those that are there already.
-/

namespace ClassOrder.VariableFile

open ClassOrder.Text

/-- A blank inside a line. -/
def isInlineBlank (c : Char) : Bool := isBlank c && c != '\n' && c != '\r'

/-- Whether a character ends a line. -/
def isLineEnd (c : Char) : Bool := c == '\n' || c == '\r'

/-- A text after the blanks of its line. -/
def skipInline (cs : List Char) : List Char := cs.dropWhile isInlineBlank

/-- The text after the word `word`, if it starts with it. -/
def after? : (word : List Char) → List Char → Option (List Char)
  | [], cs => some cs
  | _ :: _, [] => none
  | w :: word, c :: cs => if w = c then after? word cs else none

/-- A text after the word `export`, if blanks follow it. -/
def skipExport (cs : List Char) : List Char :=
  match after? ['e', 'x', 'p', 'o', 'r', 't'] cs with
  | some (c :: rest) => if isInlineBlank c then skipInline rest else cs
  | _ => cs

/-- The name of a binding and what follows it: none where a comment stands in its place; the whole
is none where no name can be read. -/
def name? : List Char → Option (Option String × List Char)
  | '#' :: cs => some (none, '#' :: cs)
  | '\'' :: cs =>
    let (name, rest) := cs.span (· != '\'')
    match rest with
    | _ :: rest => if name.isEmpty then none else some (some (String.ofList name), rest)
    | [] => none
  | cs =>
    let (name, rest) := cs.span fun c => c != '=' && c != '#' && !isBlank c
    if name.isEmpty then none else some (some (String.ofList name), rest)

/-- The quoted text after its opening mark up to the closing one, and what follows that; a
backslash and the character after it belong together. -/
def quoted? (mark : Char) : List Char → Option (List Char × List Char)
  | [] => none
  | '\\' :: c :: cs => (quoted? mark cs).map fun (text, rest) => ('\\' :: c :: text, rest)
  | c :: cs =>
    if c = mark then some ([], cs)
    else if c = '\\' then none
    else (quoted? mark cs).map fun (text, rest) => (c :: text, rest)

/-- The character that an escape stands for between quotation marks. -/
def escaped? (c : Char) : Option Char :=
  if c = '\\' ∨ c = '\'' ∨ c = '"' then some c
  else if c = 'a' then some '\x07'
  else if c = 'b' then some '\x08'
  else if c = 'f' then some '\x0c'
  else if c = 'n' then some '\n'
  else if c = 'r' then some '\r'
  else if c = 't' then some '\t'
  else if c = 'v' then some '\x0b'
  else none

/-- The character that an escape stands for between apostrophes. -/
def escapedPlain? (c : Char) : Option Char := if c = '\\' ∨ c = '\'' then some c else none

/-- A text with its escapes replaced by what they stand for; others stay as they are. -/
def unescape (meaning? : Char → Option Char) : List Char → List Char
  | [] => []
  | '\\' :: c :: cs =>
    match meaning? c with
    | some e => e :: unescape meaning? cs
    | none => '\\' :: unescape meaning? (c :: cs)
  | c :: cs => c :: unescape meaning? cs

/-- A value without the comment at its end, which starts with a blank and a hash sign. -/
def dropComment (afterBlank : Bool) : List Char → List Char
  | [] => []
  | c :: cs => if c = '#' && afterBlank then [] else c :: dropComment (isBlank c) cs

/-- The value of a binding and what follows it; `afterBlank` is whether a blank stands between the
equals sign and the value. -/
def value? (afterBlank : Bool) : List Char → Option (String × List Char)
  | '\'' :: cs => (quoted? '\'' cs).map fun (v, rest) =>
    (String.ofList (unescape escapedPlain? v), rest)
  | '"' :: cs => (quoted? '"' cs).map fun (v, rest) =>
    (String.ofList (unescape escaped? v), rest)
  | cs =>
    let (v, rest) := cs.span (!isLineEnd ·)
    some (String.ofList (trimEnd (dropComment afterBlank v)), rest)

/-- A text after the comment that ends its line, if there is one. -/
def skipComment (cs : List Char) : List Char :=
  match skipInline cs with
  | '#' :: rest => rest.dropWhile (!isLineEnd ·)
  | _ => cs

/-- The text of the next line, if nothing but blanks is left of this one. -/
def nextLine? (cs : List Char) : Option (List Char) :=
  match skipInline cs with
  | [] => some []
  | '\r' :: '\n' :: rest => some rest
  | '\n' :: rest => some rest
  | '\r' :: rest => some rest
  | _ => none

/-- The text of the next line, whatever is left of this one. -/
def skipLine (cs : List Char) : List Char := (cs.dropWhile (!isLineEnd ·)).drop 1

/-- A name with its value, if it has one. -/
abbrev Binding := String × Option String

/-- What one line gives: a binding if it names a variable, and the text of the next line. -/
def binding (cs : List Char) : Option Binding × List Char :=
  match name? (skipExport cs) with
  | none => (none, skipLine (skipExport cs))
  | some (name, rest) =>
    let found : Option (Option String × List Char) := match skipInline rest with
      | '=' :: rest =>
        (value? (rest.head?.any isInlineBlank) (skipInline rest)).map fun (v, rest) =>
          (some v, rest)
      | rest => some (none, rest)
    match found with
    | none => (none, skipLine (skipInline ((skipInline rest).drop 1)))
    | some (value, rest) =>
      match nextLine? (skipComment rest) with
      | none => (none, skipLine (skipComment rest))
      | some next => (name.map (·, value), next)

/-- The bindings of a text, of which there are at most `count`. -/
def bindingsFrom : (count : Nat) → List Char → List Binding
  | 0, _ => []
  | count + 1, cs =>
    match cs.dropWhile isBlank with
    | [] => []
    | c :: cs =>
      let (b, rest) := binding (c :: cs)
      b.toList ++ bindingsFrom count rest

/-- A text without the byte order mark at its start. -/
def dropOrderMark : List Char → List Char
  | '\uFEFF' :: cs => cs
  | cs => cs

/-- The bindings of a text, in order. -/
def bindings (cs : List Char) : List Binding := bindingsFrom (cs.length + 1) (dropOrderMark cs)

/-! ### References -/

/-- A reference to a variable: its name, the value in case there is no such variable, and what
follows the reference. -/
def reference? : List Char → Option (List Char × List Char × List Char)
  | '$' :: '\x7b' :: cs =>
    let (name, rest) := cs.span fun c => c != '\x7d' && c != ':'
    match rest with
    | '\x7d' :: rest => some (name, [], rest)
    | ':' :: '-' :: rest =>
      let (default, rest) := rest.span (· != '\x7d')
      match rest with
      | _ :: rest => some (name, default, rest)
      | [] => none
    | _ => none
  | _ => none

/-- A text of at most `length` characters with the variables that it refers to filled in. -/
def expandFrom (lookup : String → Option (Option String)) : (length : Nat) → List Char → List Char
  | 0, _ => []
  | _, [] => []
  | length + 1, c :: cs =>
    match reference? (c :: cs) with
    | some (name, default, rest) =>
      let value := match lookup (String.ofList name) with
        | some (some v) => v.toList
        | some none => []
        | none => default
      value ++ expandFrom lookup length rest
    | none => c :: expandFrom lookup length cs

/-- A value with the variables that it refers to filled in. -/
def expand (lookup : String → Option (Option String)) (s : String) : String :=
  String.ofList (expandFrom lookup s.toList.length s.toList)

/-- The bindings with their references filled in, each by the variables that are there and failing
that by the bindings before it. -/
def expandAll (environment : List (String × String)) : (done : List Binding) → List Binding →
    List Binding
  | done, [] => done
  | done, (name, value) :: rest =>
    let lookup (n : String) : Option (Option String) :=
      match Assoc.get? n environment with
      | some v => some (some v)
      | none => Assoc.get? n done
    expandAll environment (Assoc.put name (value.map (expand lookup)) done) rest

end ClassOrder.VariableFile

namespace ClassOrder

/-- Whether a variable cannot be made: its name has an equals sign or a null character, or its
value has a null character. -/
def isBarred (name value : String) : Bool :=
  name.toList.any (fun c => c == '=' || c == '\x00') || value.toList.contains '\x00'

/-- The variables after those of a file were added, unless one of them cannot be made: those that
are there already keep their values. -/
def addVariables (environment : List (String × String)) :
    List VariableFile.Binding → Option (List (String × String))
  | [] => some environment
  | (_, none) :: rest => addVariables environment rest
  | (name, some value) :: rest =>
    if (Assoc.get? name environment).isSome then addVariables environment rest
    else if isBarred name value then none
    else addVariables (Assoc.put name value environment) rest

/-- The variables after a file has been read, unless one of them cannot be made. -/
def fileVariables (environment : List (String × String)) (text : String) :
    Option (List (String × String)) :=
  addVariables environment
    (VariableFile.expandAll environment [] (VariableFile.bindings text.toList))

end ClassOrder
