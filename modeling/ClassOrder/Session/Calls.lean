import ClassOrder.Session.Stop

/-!
# What a session is for

A session puts class lists in the recommended order and tells which project the server has found.
Both start a server if there is none to talk to.  An answer about a class list is kept and given
out again while it is fresh; a list for which the server has no answer comes back as it was.

## Main definitions

* `Session.call` — a request whose failure ends the server.
* `sortedClasses` — what an answer says about a class list.
* `Session.sortClasses`, `Session.getProject` — the two calls.
* `Session.sortOnce` — sorts and stops.
-/

namespace ClassOrder

/-- The error that a result holds, if it holds one. -/
def heldError? (result : Json) : Option Json :=
  match result with
  | .object _ =>
    let error := result.fieldOrNull "error"
    if error.isFilled then some error else none
  | _ => none

/-- The first of the class lists of an answer, none if there is no answer. -/
def firstList? {τ : Type} (lists : Json) : Except (Fault τ) (Option String) :=
  if lists.isFilled then
    match lists with
    | .array (.string s :: _) => .ok (some s)
    | .string s => .ok ((s.toList.head?).map String.singleton)
    | .array _ => .ok none
    | .object _ => .error .missingKey
    | _ => .error .wrongType
  else .ok none

/-- The class list that an answer holds, with one space between classes; none if there is no
answer. -/
def sortedClasses {τ : Type} (result : Json) : Except (Fault τ) (Option String) :=
  match heldError? result with
  | some error => .error (.reported "sorting classes" error)
  | none =>
    match firstList? (result.fieldOrNull "classLists") with
    | .error fault => .error fault
    | .ok list => .ok (list.map Text.normalize)

/-- What the server is told when the text of the virtual document is replaced. -/
def changedParams (uri : Json) (version : Nat) (text : String) : Json :=
  .object [("textDocument", .object [("uri", uri), ("version", .int version)]),
    ("contentChanges", .array [.object [("text", .string text)]])]

/-- What the server is asked to put in order. -/
def sortParams (uri : Json) (classes : String) : Json :=
  .object [("uri", uri), ("classLists", .array [.string classes])]

namespace Session

variable {τ : Type} [Timeline τ]

/-- An action whose failures of certain kinds end the server. -/
def orAbandon {α : Type} (gives : FaultKind → Bool) (a : Action (Session τ) τ α) :
    Action (Session τ) τ α :=
  tryCatch a fun fault => do
    if gives fault.kind then abandon
    throw fault

/-- A request to the server, which ends it if the connection is out of step afterwards. -/
def call (method : String) (params : Json) : Action (Session τ) τ Json :=
  orAbandon (fun kind => kind.isProtocol || kind = .timeout) (request method params)

/-- Replaces the text of the virtual document by one with given classes. -/
def changeDocument (classes : String) : Action (Session τ) τ Unit := do
  modify fun s => { s with documentVersion := s.documentVersion + 1 }
  let s ← get
  orAbandon FaultKind.isProtocol
    (notify Method.documentChanged
      (changedParams s.documentUri s.documentVersion (virtualDocument classes)))

/-- The kept result for a class list, if it is fresh. -/
def kept? (classes : String) : Action (Session τ) τ (Option String) :=
  .ofFun fun s =>
    let (r, cache) := s.cache.get s.world.clock classes
    let s := { s with cache }
    (.ok r, if r.isSome then s.note (cacheHitRecord classes) else s)

/-- Keeps the result for a class list. -/
def keep (classes result : String) : Action (Session τ) τ Unit :=
  modify fun s => { s with cache := s.cache.put s.world.clock classes result }

/-- Asks the server to put a class list in order. -/
def askForOrder (classes : String) : Action (Session τ) τ String := do
  ensureStarted
  changeDocument classes
  let result ← call Method.sortSelection (sortParams (← get).documentUri classes)
  match ← Action.ofExcept (sortedClasses result) with
  | some sorted =>
    keep classes sorted
    return sorted
  | none =>
    log ("Server returned no sorted classes for: " ++ classes)
    return classes

/-- A class list in the recommended order. -/
def sortClasses (classes : String) : Action (Session τ) τ String := do
  match ← kept? classes with
  | some result => return result
  | none => askForOrder classes

/-- What the server has found of the project. -/
def getProject : Action (Session τ) τ Json := do
  ensureStarted
  let uri ← uriOf (← present (← get).activeConfig)
  let result ← call Method.getProject (.object [("uri", .string uri)])
  match heldError? result with
  | some error => throw (.reported "finding project" error)
  | none =>
    if result.isNull then modify (note ⟨.info, "No project found"⟩)
    return result

/-- A class list in the recommended order, with the server stopped afterwards. -/
def sortOnce (classes : String) : Action (Session τ) τ String :=
  (sortClasses classes).andThen stop

end Session

end ClassOrder
