import ClassOrder.Action
import ClassOrder.Cache.Store
import ClassOrder.Session.Wire
import ClassOrder.Session.World
import ClassOrder.Settings.Basic
import ClassOrder.Workspace.Document
import ClassOrder.Workspace.Project

/-!
# Sessions

A session owns one server at a time and a workspace of its own, which the server looks at: a
directory with copies of the project's files, or with files of its own making if there is no
project.  The workspace outlives the server, so that the next server finds it again.

## Main definitions

* `Snapshot` — the project's configuration as it was last copied.
* `Attached` — a launched server with the exchange that talks to it.
* `Session` — the session.
* `Session.isRunning` — whether there is a server to talk to.
* `Session.onWire` — talks to the server.
-/

namespace ClassOrder

/-- The project's configuration as it was last copied to the workspace. -/
structure Snapshot where
  /-- Its path. -/
  path : Path
  /-- When it had last been changed. -/
  modified : Int
  /-- Its text. -/
  content : String
  deriving DecidableEq, Repr

/-- A launched server with the exchange that talks to it. -/
structure Attached (τ : Type) where
  /-- The server. -/
  server : Server τ
  /-- The exchange. -/
  exchange : Exchange τ

/-- A session with a server. -/
structure Session (τ : Type) where
  /-- The settings. -/
  settings : Settings τ
  /-- The project, found when the session was made. -/
  project : Project
  /-- The surroundings. -/
  world : World τ
  /-- The results that may be given out again. -/
  cache : Cache τ
  /-- The directory of the workspace, if it has been made. -/
  staging : Option Path := none
  /-- The configuration that was last copied to the workspace, if one was. -/
  snapshot : Option Snapshot := none
  /-- The configuration that the server is shown. -/
  activeConfig : Option Path := none
  /-- The stylesheet that the server is shown, if there is one. -/
  activeStylesheet : Option Path := none
  /-- The server, if there is one. -/
  attached : Option (Attached τ) := none
  /-- The servers of before, in the order in which they were launched. -/
  former : List (Server τ) := []
  /-- The number of the last request to the servers of before. -/
  lastId : Int := 0
  /-- The version of the virtual document. -/
  documentVersion : Nat := 0
  /-- The version that the last server gave, if it gave one. -/
  serverVersion : Option String := none

/-- What the log says about a session when it is made. -/
def openingNote (p : Project) : Record :=
  ⟨.debug, "Initialized with project root " ++ shownPath p.root ++ ", config " ++
    shownPath p.config ++ ", CSS " ++ shownPath p.stylesheet⟩

/-- The session with given settings for a project, before anything was done. -/
def Session.ofProject {τ : Type} (settings : Settings τ) (project : Project) (world : World τ) :
    Session τ where
  settings := settings
  project := project
  world := world.note (openingNote project)
  cache := { timeToLive := settings.cacheTtl }

/-- The session with given settings for the nearest project. -/
def Session.ofSettings {τ : Type} (patterns : Patterns) (settings : Settings τ) (world : World τ) :
    Except (Fault τ) (Session τ) :=
  match world.host.startPlace settings.startDir with
  | .error fault => .error fault
  | .ok place =>
    match locateProject world.host patterns place with
    | .error fault => .error (.system fault)
    | .ok project =>
      .ok (ofProject settings project { world with log := world.log ++ projectNotes project })

namespace Session

variable {τ : Type}

/-- The session with one more log entry. -/
def note (r : Record) (s : Session τ) : Session τ := { s with world := s.world.note r }

/-- Adds a log entry at the level of details. -/
def log (text : String) : Action (Session τ) τ Unit := modify (note ⟨.debug, text⟩)

/-- Whether there is a server to talk to: it has not ended and its streams are open. -/
def isRunning (s : Session τ) : Bool :=
  match s.attached with
  | some a => a.server.isConnected && a.server.isAlive
  | none => false

/-- The number of the last request to any server. -/
def lastRequest (s : Session τ) : Int :=
  match s.attached with
  | some a => a.exchange.lastId
  | none => s.lastId

/-- Every server there has been, in the order in which they were launched. -/
def servers (s : Session τ) : List (Server τ) :=
  s.former ++ (s.attached.map (·.server)).toList

/-- Every message that has reached a server, in order. -/
def sent (s : Session τ) : List Message := s.servers.flatMap (·.received)

/-- The path of the virtual document, once there is a workspace. -/
def document? (s : Session τ) : Option Path := s.staging.map (·.child documentName)

/-- The identifier of the virtual document, once there is a workspace. -/
def documentUri (s : Session τ) : Json :=
  match s.document?.bind Path.uri? with
  | some uri => .string uri
  | none => .null

/-- What an operation fails with that needs what is not there. -/
def lacking : Fault τ := .raised .other "there is no workspace or no server"

/-- Talks to the server, as the time goes by and the log grows. -/
def onWire {α : Type}
    (talk : Exchange τ → Wire τ → Except (Fault τ) α × Exchange τ × Wire τ) :
    Action (Session τ) τ α :=
  .ofFun fun s =>
    match s.attached with
    | none => (.error lacking, s)
    | some a =>
      let (r, exchange, wire) := talk a.exchange ⟨a.server, s.world.clock, s.world.log⟩
      (r, { s with
        attached := some ⟨wire.server, exchange⟩
        world := { s.world with clock := wire.clock, log := wire.log } })

variable [Timeline τ]

/-- Sends a request to the server and waits for its response. -/
def request (method : String) (params : Json) : Action (Session τ) τ Json :=
  onWire fun x w => x.request Wire.link method params none w

/-- Sends a notification to the server. -/
def notify (method : String) (params : Json) : Action (Session τ) τ Unit :=
  onWire fun x w =>
    let (r, w) := (Exchange.notify Wire.link method params).apply w
    (r, x, w)

/-- Replies to the server's messages for a time: how many there were. -/
def drain (timeout : τ) : Action (Session τ) τ Nat :=
  onWire fun x w =>
    let (r, w) := x.drain Wire.link timeout w
    (r, x, w)

end Session

end ClassOrder
