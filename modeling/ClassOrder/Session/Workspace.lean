import ClassOrder.Session.Basic
import ClassOrder.Text.Newline

/-!
# The workspace of a session

The workspace is a directory of the session's own under the one for temporary files.  It holds
the virtual document and, if there is a project, copies of its configuration and stylesheet, else
a configuration and a stylesheet of the session's own.  The project's configuration is copied
again whenever its path or the time of its last change differs from those of the last copy, and
then the results kept so far no longer count.

## Main definitions

* `Session.stageDirectory` — makes the directory unless it is there.
* `Session.stageProject`, `Session.stageStandard` — put the files there.
* `Session.prepareWorkspace` — all of it.
* `Session.removeWorkspace` — takes it away.
-/

namespace ClassOrder.Session

variable {τ : Type}

/-- The file tree of the world, changed. -/
def withFiles (change : FileTree → Place → Except SystemFault FileTree) :
    Action (Session τ) τ Unit :=
  .ofFun fun s =>
    let host := s.world.host
    match change host.files host.cwd with
    | .error fault => (.error (.system fault), s)
    | .ok files => (.ok (), { s with world := { s.world with host := { host with files } } })

/-- Puts a text in a file. -/
def writeText (p : Path) (text : String) : Action (Session τ) τ Unit :=
  withFiles fun files cwd => files.write cwd p (Text.utf8 text)

/-- Copies a file. -/
def copyFile (source target : Path) : Action (Session τ) τ Unit :=
  withFiles fun files cwd => files.copy cwd source target

/-- Makes a directory. -/
def makeDirectory (p : Path) : Action (Session τ) τ Unit :=
  withFiles fun files cwd => files.makeDirectory cwd p

/-- The text of a file, if it is there and is text. -/
def text? (s : Session τ) (p : Path) : Option String :=
  match s.world.host.files.read s.world.host.cwd p with
  | .ok bytes => Text.readText? bytes
  | .error _ => none

/-- The text of a file. -/
def readText (p : Path) : Action (Session τ) τ String :=
  .ofFun fun s =>
    match s.world.host.files.read s.world.host.cwd p with
    | .error fault => (.error (.system fault), s)
    | .ok bytes =>
      match Text.readText? bytes with
      | some text => (.ok text, s)
      | none => (.error .notText, s)

theorem readText_ok {p : Path} {text : String} {s t : Session τ}
    (hrun : (readText p).apply s = (.ok text, t)) : s.text? p = some text ∧ s = t := by
  rw [readText, Action.apply_ofFun] at hrun
  rw [text?]
  split at hrun
  · cases hrun
  · next heq =>
    split at hrun
    · next htext =>
      cases hrun
      exact ⟨by rw [heq]; exact htext, rfl⟩
    · cases hrun

/-- The name of the directory that is made next. -/
def stagingName (s : Session τ) : String :=
  "tailwind_sorter_" ++ (s.project.root.map Path.name).getD "default" ++ s.world.suffix s.world.made

/-- Makes a new directory for the workspace. -/
def createStaging : Action (Session τ) τ Path := do
  let s ← get
  let directory := s.world.temporary.child s.stagingName
  makeDirectory directory
  modify fun s =>
    { s with staging := some directory, world := { s.world with made := s.world.made + 1 } }
  log ("Created staging directory " ++ directory.toString)
  return directory

/-- The directory of the workspace, a new one unless it is there. -/
def stageDirectory : Action (Session τ) τ Path := do
  let s ← get
  match s.staging with
  | some directory =>
    if s.world.isDirectory directory then return directory else createStaging
  | none => createStaging

/-- Writes the virtual document unless it is there. -/
def stageDocument (directory : Path) : Action (Session τ) τ Unit := do
  let document := directory.child documentName
  if !(← get).world.exists? document then writeText document emptyDocument

/-- When the project's configuration was last changed. -/
def configTime (config : Path) : Action (Session τ) τ Int :=
  .ofFun fun s =>
    match s.world.host.files.modified s.world.host.cwd config with
    | .ok time => (.ok time, s)
    | .error .notFound => (.error (.configGone config.toString), s)
    | .error fault => (.error (.system fault), s)

/-- Drops every result kept so far. -/
def dropResults : Action (Session τ) τ Unit :=
  modify fun s =>
    { s with
      cache := s.cache.clear
      world := { s.world with log := s.world.log ++ s.cache.clearRecord?.toList } }

/-- Whether the configuration at a path, last changed at a time, is the one that was last
copied. -/
def isStaged (config : Path) (time : Int) (s : Session τ) : Bool :=
  match s.snapshot with
  | some last => last.path = config && last.modified = time
  | none => false

/-- Copies the project's files to the directory of the workspace; a stylesheet that is there
stays. -/
def copyProject (directory config : Path) (stylesheet : Option Path) (time : Int) :
    Action (Session τ) τ Unit := do
  log "Config file changed or new, copying to workspace"
  copyFile config (directory.child config.name)
  match stylesheet with
  | some sheet =>
    if !(← get).world.exists? (directory.child sheet.name) then
      copyFile sheet (directory.child sheet.name)
  | none => pure ()
  let content ← readText config
  modify fun s => { s with snapshot := some ⟨config, time, content⟩ }
  dropResults

/-- Puts the project's files in the directory of the workspace. -/
def stageProject (directory config : Path) (stylesheet : Option Path) :
    Action (Session τ) τ Unit := do
  let time ← configTime config
  if !(← get).isStaged config time then copyProject directory config stylesheet time
  modify fun s =>
    { s with
      activeConfig := some (directory.child config.name)
      activeStylesheet := stylesheet.map fun sheet => directory.child sheet.name }

/-- Puts files of the session's own in the directory of the workspace; a configuration that is
there stays. -/
def stageStandard (directory : Path) : Action (Session τ) τ Unit := do
  let config := directory.child configName
  let stylesheet := directory.child stylesheetName
  if !(← get).world.exists? config then
    log "No project found, writing default Tailwind config"
    writeText config configText
    writeText stylesheet stylesheetText
  modify fun s =>
    { s with
      activeConfig := some config
      activeStylesheet := if s.world.exists? stylesheet then some stylesheet else none }

/-- Makes the workspace ready for a server. -/
def prepareWorkspace : Action (Session τ) τ Unit := do
  let directory ← stageDirectory
  stageDocument directory
  let project := (← get).project
  match project.config with
  | some config => stageProject directory config project.stylesheet
  | none => stageStandard directory

/-- Takes the directory of the workspace away, if it is there. -/
def removeWorkspace : Action (Session τ) τ Unit := do
  let s ← get
  match s.staging with
  | some directory =>
    if s.world.isDirectory directory then withFiles fun files cwd => files.removeTree cwd directory
  | none => pure ()

/-- Forgets the workspace. -/
def forgetWorkspace : Action (Session τ) τ Unit := do
  modify fun s =>
    { s with staging := none, activeConfig := none, activeStylesheet := none, snapshot := none }
  dropResults

end ClassOrder.Session
