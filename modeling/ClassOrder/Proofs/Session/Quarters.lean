import ClassOrder.Proofs.Files.Lodging
import ClassOrder.Proofs.Session.Premises
import ClassOrder.Proofs.Workspace.Project

/-!
# What is in the workspace

The workspace is one directory, and what a session puts there it puts right in it, by name.  So the
workspace is told by its *content*: what stands under each name.  As long as nothing but files
stands there, and nobody else puts anything there, a file written or copied is a change of the
content at its name alone, and whatever is read through the directory is read off the content.

## Main definitions

* `Session.Quarters`, `Session.quarters` — the part of a session that the workspace is made of.
* `Quarters.content` — what is in the workspace.
* `Quarters.Sound` — what is relied on.
* `Project.Holds`, `Quarters.HoldsCopy` — a copy of the configuration is in the workspace.
* `Quarters.Stocked` — the workspace is there, with a given content.

## Main results

* `Stocked.find?` — what is read in the workspace.
* `writeText_child`, `copyFile_child` — what is put there.
-/

namespace ClassOrder

open ClassOrder.Action (Keeps Leaves Triple)

/-- The text of a file. -/
def Node.text? : Node → Option String
  | file bytes _ _ => Text.readText? bytes
  | directory | link _ => none

/-- There is a copy of the project's configuration with a given text, and a stylesheet if the
project has one. -/
structure Project.Holds (p : Project) (stock : String → Option Node) (text : String) : Prop where
  config : ∀ config, p.config = some config →
    (stock config.name).bind Node.text? = some text
  stylesheet : ∀ sheet, p.stylesheet = some sheet → (stock sheet.name).isSome

/-- What stands under a name that no file of the project has does not count. -/
theorem Project.Holds.congr {p : Project} {stock stock' : String → Option Node} {text : String}
    (hp : p.Proper) (h : ∀ name, name ≠ documentName → stock' name = stock name) :
    p.Holds stock' text ↔ p.Holds stock text := by
  have hconfig (config : Path) (hc : p.config = some config) :
      stock' config.name = stock config.name := h _ (hp.config config hc).2
  have hsheet (sheet : Path) (hs : p.stylesheet = some sheet) :
      stock' sheet.name = stock sheet.name := h _ (hp.stylesheet sheet hs).2
  constructor
  · exact fun hholds => ⟨fun config hc => hconfig config hc ▸ hholds.config config hc,
      fun sheet hs => hsheet sheet hs ▸ hholds.stylesheet sheet hs⟩
  · exact fun hholds => ⟨fun config hc => (hconfig config hc).symm ▸ hholds.config config hc,
      fun sheet hs => (hsheet sheet hs).symm ▸ hholds.stylesheet sheet hs⟩

namespace Session

/-- The part of a session that its workspace is made of. -/
structure Quarters where
  project : Project
  host : Host
  temporary : Path
  staging : Option Path
  snapshot : Option Snapshot

variable {τ α : Type} {s t : Session τ}

def Premises.quarters (p : Premises τ) : Quarters where
  project := p.project
  host := p.host
  temporary := p.temporary
  staging := p.staging
  snapshot := p.snapshot

def quarters (s : Session τ) : Quarters := s.premises.quarters

theorem Outward.leaves_quarters {a : Action (Session τ) τ α} (h : Outward a) :
    a.Leaves quarters := Leaves.map h Premises.quarters

namespace Quarters

variable {q : Quarters} {stock : String → Option Node}

/-- What is in the workspace, by its name; none if there is no workspace. -/
def content? (q : Quarters) : Option (String → Option Node) :=
  q.staging.bind (q.host.files.inside? q.host.cwd)

/-- What is in the workspace, by its name; nothing if there is no workspace. -/
def content (q : Quarters) : String → Option Node := q.content?.getD fun _ => none

/-- What a session relies on: nothing but files is in the workspace, and the configuration that is
remembered is that of the project. -/
structure Sound (q : Quarters) : Prop where
  proper : q.project.Proper
  temporary : q.temporary.absolute = true
  rooted : q.host.files.Rooted
  plain : ∀ name node, q.content name = some node → node.isFile = true
  path : ∀ last, q.snapshot = some last → q.project.config = some last.path

/-- The workspace holds a copy of the configuration that is remembered, if one is. -/
def HoldsCopy (q : Quarters) : Prop :=
  ∀ last, q.snapshot = some last → q.project.Holds q.content last.content

theorem holdsCopy_of_none (hnone : q.snapshot = none) : q.HoldsCopy := by
  intro last hlast
  rw [hnone] at hlast
  cases hlast

/-- Nothing is held of a configuration that is remembered if there is no workspace. -/
theorem Sound.holdsCopy_of_gone (hq : q.Sound) (hgone : q.content? = none) :
    q.HoldsCopy ↔ q.snapshot.isSome = false := by
  have hcontent : q.content = fun _ => none := by
    rw [content, hgone]
    rfl
  cases hlast : q.snapshot with
  | none => exact iff_of_true (holdsCopy_of_none hlast) rfl
  | some last =>
    refine iff_of_false (fun h => ?_) (by simp)
    have hcopy := (h last hlast).config last.path (hq.path last hlast)
    rw [hcontent] at hcopy
    cases hcopy

/-- The workspace is a directory with a given content; the project and what is remembered of it are
given too. -/
structure Stocked (q : Quarters) (project : Project) (last : Option Snapshot) (directory : Path)
    (stock : String → Option Node) : Prop where
  sound : q.Sound
  project : q.project = project
  snapshot : q.snapshot = last
  staging : q.staging = some directory
  inside : q.host.files.inside? q.host.cwd directory = some stock

/-- The quarters with other files. -/
def withFiles (q : Quarters) (files : FileTree) : Quarters :=
  { q with host := { q.host with files } }

namespace Stocked

variable {project : Project} {last : Option Snapshot} {directory place : Path}
  {name : String} {node : Node}

theorem content?_eq (h : q.Stocked project last directory stock) :
    q.content? = some stock := by
  rw [content?, h.staging]
  exact h.inside

theorem content_eq (h : q.Stocked project last directory stock) : q.content = stock := by
  rw [Quarters.content, h.content?_eq]
  rfl

theorem plain (h : q.Stocked project last directory stock) (hnode : stock name = some node) :
    node.isFile = true := h.sound.plain name node (h.content_eq ▸ hnode)

theorem not_link (h : q.Stocked project last directory stock) (target : Path) :
    stock name ≠ some (.link target) := by
  intro hlink
  cases h.plain hlink

/-- **What is read in the workspace** is read off its content. -/
theorem find? (h : q.Stocked project last directory stock) (hname : name ≠ "..") :
    q.host.files.find? q.host.cwd (directory.child name) = stock name :=
  FileTree.find?_child h.inside hname h.not_link

theorem isFile (h : q.Stocked project last directory stock) (hname : name ≠ "..") :
    q.host.isFile (directory.child name) = (stock name).isSome := by
  rw [Host.isFile, FileTree.isFile, h.find? hname]
  cases hnode : stock name with
  | none => rfl
  | some node =>
    have hplain := h.plain hnode
    cases node with
    | file bytes time executable => rfl
    | directory => cases hplain
    | link target => cases hplain

/-- What is remembered may change, as long as it is the project's configuration. -/
theorem remember (h : q.Stocked project last directory stock) {snapshot : Snapshot}
    (hpath : project.config = some snapshot.path) :
    ({ q with snapshot := some snapshot } : Quarters).Stocked project (some snapshot) directory
      stock where
  sound :=
    { proper := h.sound.proper
      temporary := h.sound.temporary
      rooted := h.sound.rooted
      plain := h.sound.plain
      path := by
        intro last hlast
        cases hlast
        exact h.project.symm ▸ hpath }
  project := h.project
  snapshot := rfl
  staging := h.staging
  inside := h.inside

/-- A file put right in the workspace is there, and all else stays. -/
theorem put (h : q.Stocked project last directory stock) {place : Place}
    (hfind : q.host.files.find q.host.cwd directory = .ok (place, .directory)) (name : String)
    (hnode : node.isFile = true) :
    (q.withFiles (q.host.files.set (place ++ [name]) node)).Stocked project last directory
        (Function.update stock name (some node)) ∧
      q.host.files.Extends (q.host.files.set (place ++ [name]) node) := by
  obtain ⟨place', hfind', rfl⟩ := FileTree.inside?_eq_some.mp h.inside
  rw [hfind] at hfind'
  cases hfind'
  have hextends : q.host.files.Extends (q.host.files.set (place ++ [name]) node) :=
    FileTree.extends_set fun old hold => ⟨h.plain hold, hnode⟩
  have hlodges : q.host.files.Lodges q.host.cwd directory place :=
    ⟨h.sound.rooted, hfind, fun other found hfound => h.plain hfound⟩
  have hset := hlodges.set name hnode
  have hinside := FileTree.inside?_set hfind hextends
  refine ⟨⟨⟨h.sound.proper, h.sound.temporary, hset.rooted, fun other found hfound => ?_,
    h.sound.path⟩, h.project, h.snapshot, h.staging, hinside⟩, hextends⟩
  have hcontent : (q.withFiles (q.host.files.set (place ++ [name]) node)).content =
      fun n => (q.host.files.set (place ++ [name]) node).get? (place ++ [n]) := by
    rw [Quarters.content, content?, withFiles, h.staging]
    exact congrArg (fun c => Option.getD c fun _ => none)
      (FileTree.inside?_eq_some.mpr ⟨place, hset.found, rfl⟩)
  rw [hcontent] at hfound
  exact hset.plain other found hfound

end Stocked

/-- A file with given bytes, last changed at a given time, is where a path leads to. -/
def Sourced (q : Quarters) (source : Path) (bytes : Bytes) (time : Int) : Prop :=
  ∃ place executable,
    q.host.files.find q.host.cwd source = .ok (place, .file bytes time executable)

end Quarters

/-! ### Putting a file into the workspace -/

variable {q : Quarters} {project : Project} {last : Option Snapshot} {directory source : Path}
  {stock : String → Option Node} {name : String}

/-- How a change of the files ends. -/
theorem withFiles_triple (change : FileTree → Place → Except SystemFault FileTree) :
    Triple (·.quarters = q) (withFiles change : Action (Session τ) τ Unit)
      (fun _ t => ∃ files, change q.host.files q.host.cwd = .ok files ∧
        t.quarters = q.withFiles files)
      (fun fault t => t.quarters = q ∧ ∃ refusal,
        change q.host.files q.host.cwd = .error refusal ∧ fault = .system refusal) := by
  rintro s rfl
  rw [withFiles, Action.apply_ofFun]
  dsimp only
  cases hchange : change s.world.host.files s.world.host.cwd with
  | error refusal => exact ⟨rfl, refusal, hchange, rfl⟩
  | ok files => exact ⟨files, hchange, rfl⟩

theorem kind_system_ne_notText (refusal : SystemFault) :
    (Fault.system refusal : Fault τ).kind ≠ .notText := by
  cases refusal <;> simp [Fault.kind, SystemFault.kind]

/-- A text put into a file right in a directory changes that file alone. -/
theorem writeText_set {place : Place}
    (hfind : q.host.files.find q.host.cwd directory = .ok (place, .directory)) (hname : name ≠ "..")
    (hshort : FileTree.isTooLong name = false)
    (hfile : ∀ old, q.host.files.get? (place ++ [name]) = some old → old.isFile = true)
    (text : String) :
    Triple (·.quarters = q) (writeText (directory.child name) text : Action (Session τ) τ Unit)
      (fun _ t => ∃ node, node.isFile = true ∧
        t.quarters = q.withFiles (q.host.files.set (place ++ [name]) node))
      (fun _ _ => False) := by
  obtain ⟨hlong, -⟩ | ⟨time, executable, hwrite⟩ :=
    FileTree.write_child hfind hname hfile (Text.utf8 text)
  · rw [hshort] at hlong
    cases hlong
  refine Triple.post (withFiles_triple _) ?_ ?_
  · rintro ⟨⟩ t ⟨files, hfiles, ht⟩
    rw [hwrite] at hfiles
    cases hfiles
    exact ⟨_, rfl, ht⟩
  · rintro fault t ⟨-, refusal, hrefused, -⟩
    rw [hwrite] at hrefused
    cases hrefused

/-- A text can be put into a file right in the workspace. -/
theorem writeText_child (hq : q.Stocked project last directory stock) (hname : name ≠ "..")
    (hshort : FileTree.isTooLong name = false) (text : String) :
    Triple (·.quarters = q) (writeText (directory.child name) text : Action (Session τ) τ Unit)
      (fun _ t => ∃ node, t.quarters.Stocked project last directory
        (Function.update stock name (some node)))
      (fun _ _ => False) := by
  obtain ⟨place, hfind, hstock⟩ := FileTree.inside?_eq_some.mp hq.inside
  refine (writeText_set hfind hname hshort (fun old hold =>
    hq.plain ((congrFun hstock name).trans hold)) text).post ?_ fun _ _ h => h
  rintro ⟨⟩ t ⟨node, hnode, ht⟩
  exact ⟨node, ht ▸ (hq.put hfind name hnode).1⟩

/-- How copying a file right into the workspace ends: the copy has the text of its source, which
stays; and so does every other file if there was none of the name. -/
theorem copyFile_child (hq : q.Stocked project last directory stock) (hname : name ≠ "..")
    (source : Path) :
    Triple (·.quarters = q) (copyFile source (directory.child name) : Action (Session τ) τ Unit)
      (fun _ t => ∃ bytes time node, q.Sourced source bytes time ∧
        t.quarters.Sourced source bytes time ∧ node.text? = Text.readText? bytes ∧
        t.quarters.Stocked project last directory (Function.update stock name (some node)) ∧
        (stock name = none → ∀ other bytes time, q.Sourced other bytes time →
          t.quarters.Sourced other bytes time))
      (fun fault t => t.quarters = q ∧ fault.kind ≠ .notText) := by
  obtain ⟨place, hfind, hstock⟩ := FileTree.inside?_eq_some.mp hq.inside
  refine Triple.post (withFiles_triple _) ?_ ?_
  · rintro ⟨⟩ t ⟨files, hfiles, ht⟩
    obtain ⟨origin, bytes, modified, executable, time, executable', hsource, hne, rfl⟩ :=
      FileTree.copy_child hfind hname
        (fun old hold => hq.plain ((congrFun hstock name).trans hold)) hfiles
    have hnode : (Node.file bytes time executable').isFile = true := rfl
    obtain ⟨hput, hextends⟩ := hq.put hfind name hnode
    have hstays {other : Path} {at' : Place} {node : Node}
        (hother : q.host.files.find q.host.cwd other = .ok (at', node))
        (hat : at' ≠ place ++ [name]) :
        t.quarters.host.files.find t.quarters.host.cwd other = .ok (at', node) := by
      rw [ht]
      exact FileTree.find_set_of_ne hother hextends hat
    refine ⟨bytes, modified, _, ⟨origin, executable, hsource⟩,
      ⟨origin, executable, hstays hsource hne⟩, rfl, ht ▸ hput, ?_⟩
    rintro hnone other bytes' time' ⟨at', executable'', hother⟩
    refine ⟨at', executable'', hstays hother ?_⟩
    -- something stands there, and nothing stood under the name
    rintro rfl
    have hget := (FileTree.find_eq_ok.mp hother).2
    rw [congrFun hstock name, hget] at hnone
    cases hnone
  · rintro fault t ⟨ht, refusal, -, rfl⟩
    exact ⟨ht, kind_system_ne_notText refusal⟩

end Session

end ClassOrder
