import ClassOrder.Server.Command
import ClassOrder.Server.Version
import ClassOrder.Session.Teardown
import ClassOrder.Session.Workspace

/-!
# Starting a server

A start makes the workspace ready, launches a server and opens the conversation with it: the
handshake, the settings, and the documents of the workspace, the configuration first, since the
server finds the project by it.  A fault of the session's own during that conversation takes the
server down again.

## Main definitions

* `Session.launch` — launches a server.
* `Session.openConversation`, `Session.handshake` — the conversation that comes first.
* `Session.ensureStarted` — starts a server unless there is one to talk to.
-/

namespace ClassOrder

/-- The version of this client. -/
def clientVersion : String := "0.1.0"

/-- What the server is told first, about a workspace with a given identifier. -/
def handshakeParams (processId : Int) (workspace : Json) : Json :=
  .object [("processId", .int processId),
    ("clientInfo", .object [("name", .string "tailwind_sorter"), ("version", .string clientVersion)]),
    ("rootUri", workspace),
    ("workspaceFolders", .array [.object [("uri", workspace), ("name", .string "tailwind_sorter")]]),
    ("capabilities", .object [
      ("textDocument", .object [
        ("synchronization", .object [("didOpen", .bool true), ("didChange", .bool true)])]),
      ("workspace", .object [("configuration", .bool true)])])]

/-- The settings of the workspace, as the server is told them. -/
def workspaceSettings : Json :=
  .object [("settings", .object [(Preferences.sectionName, .object [
    ("experimental", .object [("classRegex", .array [])]), ("validate", .bool true)])])]

/-- What the server is told when a document is opened. -/
def openedParams (uri : String) (p : Path) (text : String) : Json :=
  .object [("textDocument", .object [("uri", .string uri), ("languageId", .string (languageId p)),
    ("version", .int 1), ("text", .string text)])]

namespace Session

variable {τ : Type}

/-- The identifier of a place. -/
def uriOf (p : Path) : Action (Session τ) τ String :=
  match p.uri? with
  | some uri => pure uri
  | none => throw (.raised .badValue "a relative path has no identifier")

/-- The value of something that is there. -/
def present {α : Type} : Option α → Action (Session τ) τ α
  | some a => pure a
  | none => throw lacking

/-- The command that launches the server, without its argument. -/
def serverCommand : Action (Session τ) τ (List String) :=
  .ofFun fun s =>
    match serverSource s.world.host s.settings.serverCommand s.settings.startDir with
    | .error fault => (.error fault, s)
    | .ok source =>
      (.ok source.command,
        { s with world := { s.world with log := s.world.log ++ source.note?.toList } })

/-- What a failed launch means: a program that is not there or may not be run is no server. -/
def launchFault (command : List String) (fault : Fault τ) : Fault τ :=
  if fault.kind = .notFound ∨ fault.kind = .permissionDenied then
    .launchFailed (command.headD "") fault
  else fault

variable [Timeline τ]

/-- The session with a server of a given conduct attached to it. -/
def attach (c : Conduct τ) (s : Session τ) : Session τ :=
  let server := Server.launch s.world.clock s.settings.readTimeout s.settings.debug s.world.credit c
  let exchange : Exchange τ :=
    { lastId := s.lastId
      requestTimeout := s.settings.requestTimeout
      readTimeout := s.settings.readTimeout
      preferences := .standard }
  { s with
    attached := some ⟨server, exchange⟩
    world := { s.world with complaints := s.world.complaints ++ complaintRecords c.complaints } }

/-- Launches the server with a command, in the directory of the workspace. -/
def launchWith (command : List String) (directory : Path) : Action (Session τ) τ Unit :=
  .ofFun fun s =>
    let environment := Assoc.merge s.world.host.environment s.settings.environment
    let outcome := s.world.launches s.world.launched
    let world := s.world.happen (.launched command directory environment)
    let s := { s with world := { world with launched := world.launched + 1 } }
    match outcome with
    | .error fault => (.error (launchFault command fault), s)
    | .ok conduct => (.ok (), s.attach conduct)

/-- Launches a server. -/
def launch : Action (Session τ) τ Unit := do
  let command := (← serverCommand) ++ ["--stdio"]
  log ("Starting language server: " ++ Text.quoteList command)
  launchWith command (← present (← get).staging)

/-- Opens a document of the workspace. -/
def openDocument (p : Path) : Action (Session τ) τ Unit := do
  let uri ← uriOf p
  let text ← readText p
  notify Method.documentOpened (openedParams uri p text)

/-- Takes note of the version that the server gave. -/
def noteVersion (answer : Json) : Action (Session τ) τ Unit :=
  .ofFun fun s =>
    match checkVersion answer s.settings.minServerVersion with
    | .error _ => (.error .integerTooLong, s)
    | .ok check =>
      let notes := check.warning.toList
      (.ok (), { s with
        serverVersion := check.reported
        world := { s.world with
          warnings := s.world.warnings ++ notes
          log := s.world.log ++ notes.map (⟨.warning, ·⟩) } })

/-- Opens the documents of the workspace. -/
def openDocuments : Action (Session τ) τ Unit := do
  let s ← get
  openDocument (← present s.activeConfig)
  match s.activeStylesheet with
  | some stylesheet => openDocument stylesheet
  | none => pure ()
  openDocument (← present s.document?)

/-- The conversation that comes first. -/
def openConversation : Action (Session τ) τ Unit := do
  let s ← get
  let workspace ← uriOf (← present s.staging)
  let answer ← request Method.handshake (handshakeParams s.world.processId (.string workspace))
  noteVersion answer
  notify Method.ready (.object [])
  notify Method.settingsChanged workspaceSettings
  openDocuments
  modify fun s => { s with documentVersion := 1 }
  let handled ← drain s.settings.drainTimeout
  log ("Handshake complete, answered " ++ toString handled ++ " server messages")

/-- The conversation that comes first; a fault of the session's own takes the server down. -/
def handshake : Action (Session τ) τ Unit :=
  tryCatch openConversation fun fault => do
    if fault.kind.isOwn then
      abandon
      throw (.handshakeFailed fault)
    else throw fault

/-- Starts a server unless there is one to talk to. -/
def ensureStarted : Action (Session τ) τ Unit := do
  let s ← get
  if !s.isRunning then
    if s.attached.isSome then
      log "Discarding dead language server session"
      abandon
    prepareWorkspace
    launch
    handshake

end Session

end ClassOrder
