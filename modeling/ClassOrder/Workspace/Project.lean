import ClassOrder.Files.Host
import ClassOrder.Log.Record

/-!
# Projects

A project is a directory with a configuration file in one of a few places.  The project of a
directory is the nearest one at or above it; the root of the file tree is never a project.

## Main definitions

* `Project` — the files of a project, none if there is no project.
* `Patterns` — where a project keeps its files.
* `projectAt?` — the project right at a place.
* `findProject` — the nearest project at or above a place.
* `locateProject` — the search for it, which a name that is too long breaks off.
-/

namespace ClassOrder

/-- The files of a project, none if there is no project. -/
structure Project where
  /-- The directory of the project. -/
  root : Option Path := none
  /-- Its configuration. -/
  config : Option Path := none
  /-- Its stylesheet, if it has one. -/
  stylesheet : Option Path := none
  deriving DecidableEq, Repr, Inhabited

/-- Whether there is a project. -/
def Project.found (p : Project) : Bool := p.config.isSome

/-- Where a project keeps its files, seen from its directory, the likeliest place first. -/
structure Patterns where
  /-- Its configuration. -/
  config : List Path
  /-- Its stylesheet. -/
  stylesheet : List Path
  deriving DecidableEq, Repr, Inhabited

/-- The patterns of a project unless others are given. -/
def Patterns.standard : Patterns where
  config := ["tailwind.config.js", "tailwind.config.cjs", "tailwind.config.mjs",
    "tailwind.config.ts", "config/tailwind.config.js", "config/tailwind.config.cjs",
    "config/tailwind.config.mjs", "config/tailwind.config.ts"].map Path.ofString
  stylesheet := ["styles.css", "app/assets/stylesheets/application.tailwind.css",
    "src/styles.css", "assets/css/styles.css"].map Path.ofString

/-- The first of some files that is there, the patterns seen from a directory. -/
def firstFile? (h : Host) (directory : Path) (patterns : List Path) : Option Path :=
  (patterns.map directory.join).find? h.isFile

/-- The project right at a place. -/
def projectAt? (h : Host) (patterns : Patterns) (place : Place) : Option Project :=
  let directory := Path.root place
  (firstFile? h directory patterns.config).map fun config =>
    ⟨some directory, some config, firstFile? h directory patterns.stylesheet⟩

/-- The nearest project at or above a place, the root of the tree left out; a name that is too long
is that of no file. -/
def findProject (h : Host) (patterns : Patterns) (start : Place) : Project :=
  (((ancestors start).filter (!·.isEmpty)).findSome? (projectAt? h patterns)).getD {}

/-- The search for the project right at a place, which a name that is too long breaks off. -/
def locateAt (h : Host) (patterns : Patterns) (place : Place) :
    Except SystemFault (Option Project) := do
  let directory := Path.root place
  match ← (patterns.config.map directory.join).findSomeM? h.fileAt with
  | none => return none
  | some config =>
    let stylesheet ← (patterns.stylesheet.map directory.join).findSomeM? h.fileAt
    return some ⟨some directory, some config, stylesheet⟩

/-- The search for the nearest project, which a name that is too long breaks off. -/
def locateProject (h : Host) (patterns : Patterns) (start : Place) :
    Except SystemFault Project := do
  let project ← ((ancestors start).filter (!·.isEmpty)).findSomeM? (locateAt h patterns)
  return project.getD {}

/-- The text of a path in the log, if there is one. -/
def shownPath : Option Path → String
  | some p => p.toString
  | none => "None"

/-- What the log says about a search for a project. -/
def projectNotes (p : Project) : List Record :=
  if p.found then
    ⟨.debug, "Found config at " ++ shownPath p.config ++ ", using project root: " ++
        shownPath p.root⟩ ::
      (if p.stylesheet.isNone then [⟨.debug, "No CSS file found in " ++ shownPath p.root⟩] else [])
  else [⟨.debug, "No project root found, will use a staged default config"⟩]

end ClassOrder
