import ClassOrder.Proofs.Session.Staging

/-!
# What making the workspace ready changes

Making the workspace ready makes a directory, unless there is one, and puts files right in it, under
names that are known beforehand.  A file that is there is left alone, save the copy of the project's
configuration.  So all that changes is told by the directory and the names, wherever it breaks off.

## Main definitions

* `Project.Stages`, `Project.Renews` — the names of the files in a workspace, and which of the files
  may be replaced.
* `FileTree.Furnished` — nothing has changed but such files.
* `Quarters.Lodged` — what is relied on.
* `Quarters.Prepared` — what a preparation leaves.

## Main results

* `Furnished.trans`, `furnished_set` — one file after the other.
* `prepareWorkspace_prepared` — **a preparation changes nothing but the files of the workspace.**
-/

namespace ClassOrder

open ClassOrder.Action (Keeps Leaves Triple)

/-! ### The files of a workspace -/

/-- The names of the files in a workspace: the virtual document, and either the configuration and
the stylesheet of the project or those of a workspace without a project. -/
inductive Project.Stages (p : Project) : String → Prop
  | document : Stages p documentName
  | config {config : Path} : p.config = some config → Stages p config.name
  | stylesheet {config sheet : Path} :
      p.config = some config → p.stylesheet = some sheet → Stages p sheet.name
  | standardConfig : p.config = none → Stages p configName
  | standardStylesheet : p.config = none → Stages p stylesheetName

/-- The name of the copy of the project's configuration, which is neither that of the virtual
document nor that of the stylesheet. -/
def Project.Renews (p : Project) (name : String) : Prop :=
  ∃ config, p.config = some config ∧ name = config.name ∧ name ≠ documentName ∧
    ∀ sheet, p.stylesheet = some sheet → name ≠ sheet.name

namespace FileTree

variable {project : Project} {home place : Place} {t u v : FileTree} {name : String} {node : Node}

/-- The second tree has come from the first one, and nothing has changed but files of a workspace,
right in a directory; one that was there is the copy of the configuration. -/
def Furnished (project : Project) (home : Place) (t u : FileTree) : Prop :=
  ∀ place, u.get? place = t.get? place ∨
    ∃ name node, place = home ++ [name] ∧ project.Stages name ∧
      u.get? place = some node ∧ node.isFile = true ∧
        (t.get? place = none ∨ project.Renews name)

theorem Furnished.refl (project : Project) (home : Place) (t : FileTree) :
    Furnished project home t t := fun _ => .inl rfl

theorem Furnished.trans (h : Furnished project home t u) (h' : Furnished project home u v) :
    Furnished project home t v := by
  intro place
  rcases h place with hsame | ⟨name, node, rfl, hstages, hnode, hfile, hold⟩
  · have hlater := h' place
    rwa [hsame] at hlater
  · refine .inr ⟨name, ?_⟩
    rcases h' (home ++ [name]) with hsame | ⟨other, node', heq, -, hnode', hfile', -⟩
    · exact ⟨node, rfl, hstages, hsame.trans hnode, hfile, hold⟩
    · exact ⟨node', rfl, hstages, hnode', hfile', hold⟩

theorem furnished_set (hstages : project.Stages name)
    (hold : t.get? (home ++ [name]) = none ∨ project.Renews name) (hnode : node.isFile = true) :
    Furnished project home t (t.set (home ++ [name]) node) := by
  intro place
  by_cases hplace : place = home ++ [name]
  · subst hplace
    exact .inr ⟨name, node, rfl, hstages, get?_set_self (by simp) node t, hnode, hold⟩
  · exact .inl (get?_set_of_ne hplace node t)

/-- No directory has come about or gone. -/
theorem Furnished.directory_iff (h : Furnished project home t u)
    (hfiles : ∀ name node, t.get? (home ++ [name]) = some node → node.isFile = true) :
    u.get? place = some .directory ↔ t.get? place = some .directory := by
  rcases h place with hsame | ⟨name, node, rfl, -, hnode, hfile, -⟩
  · rw [hsame]
  · refine iff_of_false (fun hdirectory => ?_) fun hdirectory => ?_
    · rw [hnode, Option.some_inj] at hdirectory
      rw [hdirectory] at hfile
      cases hfile
    · cases hfiles name _ hdirectory

/-- There is a configuration if there is a stylesheet. -/
def Paired (t : FileTree) (home : Place) : Prop :=
  (t.get? (home ++ [stylesheetName])).isSome = true → (t.get? (home ++ [configName])).isSome = true

theorem Paired.set (h : t.Paired home)
    (hconfig : name = stylesheetName → (t.get? (home ++ [configName])).isSome = true)
    (node : Node) : (t.set (home ++ [name]) node).Paired home := by
  intro hsheet
  by_cases hname : name = configName
  · rw [hname, get?_set_self (by simp)]
    rfl
  · rw [get?_set_of_ne (by simpa using Ne.symm hname)]
    by_cases hname' : name = stylesheetName
    · exact hconfig hname'
    · rw [get?_set_of_ne (by simpa using Ne.symm hname')] at hsheet
      exact h hsheet

end FileTree

namespace Session

namespace Quarters

/-- What is relied on: the project's files have names of their own, and the workspace, if there is
one, is a directory with nothing but files in it, and without a project has no stylesheet but with a
configuration. -/
structure Lodged (q : Quarters) : Prop where
  proper : q.project.Proper
  apart : q.project.Apart
  temporary : q.temporary.absolute = true
  rooted : q.host.files.Rooted
  lodges : ∀ directory, q.staging = some directory →
    ∃ home, q.host.files.Lodges q.host.cwd directory home ∧
      (q.project.config = none → q.host.files.Paired home)

/-- The place to which the path of the workspace leads, if it leads to a directory. -/
def Home (q : Quarters) (home : Place) : Prop :=
  ∃ directory, q.staging = some directory ∧
    q.host.files.find q.host.cwd directory = .ok (home, .directory)

/-- The quarters `r` have come from `q`, whose files were `files` once the directory was there, and
nothing has changed but the files of the workspace. -/
structure Furnishing (q : Quarters) (files : FileTree) (directory : Path) (home : Place)
    (r : Quarters) : Prop where
  project : r.project = q.project
  temporary : r.temporary = q.temporary
  staging : r.staging = some directory
  lodges : r.host.files.Lodges r.host.cwd directory home
  furnished : FileTree.Furnished q.project home files r.host.files
  paired : q.project.config = none → r.host.files.Paired home

/-- What a preparation leaves of some quarters: all if no directory could be made, and else a
directory that was there or is new, with files of the workspace put in it. -/
inductive Prepared (q : Quarters) : Quarters → Prop
  | refused : Prepared q q
  | kept {directory : Path} {home : Place} {r : Quarters} :
      q.staging = some directory → q.host.files.Lodges q.host.cwd directory home →
      q.Furnishing q.host.files directory home r → Prepared q r
  | founded {directory : Path} {home : Place} {r : Quarters} :
      q.staging = none → q.host.files.get? home = none →
      q.Furnishing (q.host.files.set home .directory) directory home r → Prepared q r

variable {q r : Quarters} {files : FileTree} {directory : Path} {home other place : Place}
  {name : String} {node : Node}

theorem Home.unique (h : q.Home home) (h' : q.Home other) : home = other := by
  obtain ⟨directory, hstaging, hfind⟩ := h
  obtain ⟨directory', hstaging', hfind'⟩ := h'
  rw [hstaging, Option.some_inj] at hstaging'
  subst hstaging'
  rw [hfind] at hfind'
  cases hfind'
  rfl

theorem Home.get? (h : q.Home home) : q.host.files.get? home = some .directory := by
  obtain ⟨directory, -, hfind⟩ := h
  exact (FileTree.find_eq_ok.mp hfind).2

theorem Furnishing.isHome (h : q.Furnishing files directory home r) : r.Home home :=
  ⟨directory, h.staging, h.lodges.found⟩

/-- A file of the workspace is put there. -/
theorem Furnishing.set (h : q.Furnishing files directory home r) (hstages : q.project.Stages name)
    (hold : r.host.files.get? (home ++ [name]) = none ∨ q.project.Renews name)
    (hconfig : q.project.config = none → name = stylesheetName →
      (r.host.files.get? (home ++ [configName])).isSome = true)
    (hnode : node.isFile = true) :
    q.Furnishing files directory home (r.withFiles (r.host.files.set (home ++ [name]) node)) where
  project := h.project
  temporary := h.temporary
  staging := h.staging
  lodges := h.lodges.set name hnode
  furnished := h.furnished.trans (FileTree.furnished_set hstages hold hnode)
  paired hnone := (h.paired hnone).set (hconfig hnone) node

theorem Furnishing.lodged (h : q.Furnishing files directory home r) (hq : q.Lodged) : r.Lodged where
  proper := h.project.symm ▸ hq.proper
  apart := h.project.symm ▸ hq.apart
  temporary := h.temporary.symm ▸ hq.temporary
  rooted := h.lodges.rooted
  lodges other hother := by
    rw [h.staging, Option.some_inj] at hother
    subst hother
    exact ⟨home, h.lodges, fun hnone => h.paired (h.project ▸ hnone)⟩

end Quarters

variable {τ : Type} {q r : Quarters} {files : FileTree} {directory : Path} {home : Place}
  {name : String} {s t : Session τ}

/-! ### The directory -/

/-- A new directory has nothing in it. -/
theorem createStaging_furnishing (hq : q.Lodged) (hnone : q.staging = none) :
    Triple (·.quarters = q) (createStaging : Action (Session τ) τ Path)
      (fun directory t => ∃ files home, q.Furnishing files directory home t.quarters ∧
        ∀ r, q.Furnishing files directory home r → q.Prepared r)
      (fun _ t => t.quarters = q) := by
  refine Triple.get_bind fun s hs => ?_
  let new := s.world.temporary.child s.stagingName
  have habsolute : new.absolute = true := by
    have htemporary := hq.temporary
    rwa [← hs] at htemporary
  -- what is known once the directory is there, and once it is remembered
  refine Triple.bind (S := fun _ t => ∃ home, q.host.files.get? home = none ∧
    t.quarters = q.withFiles (q.host.files.set home .directory) ∧
      t.quarters.host.files.Lodges t.quarters.host.cwd new home ∧
        ∀ name, t.quarters.host.files.get? (home ++ [name]) = none) ?_ fun _ => ?_
  · refine ((withFiles_triple _).pre fun t ht => ht ▸ hs).post ?_ fun _ _ ht => ht.1
    rintro ⟨⟩ t ⟨files, hmake, ht⟩
    obtain ⟨home, hnew, rfl, hlodges, hempty⟩ :=
      FileTree.makeDirectory_lodges hq.rooted habsolute hmake
    exact ⟨home, hnew, ht, ht ▸ hlodges, ht ▸ hempty⟩
  · refine Triple.bind (S := fun _ t => ∃ files home, q.Furnishing files new home t.quarters ∧
      ∀ r, q.Furnishing files new home r → q.Prepared r) (Triple.modify ?_) fun _ =>
        Triple.bind (Triple.modify fun _ h => h) fun _ => Triple.pure fun _ h => h
    rintro t ⟨home, hnew, ht, hlodges, hempty⟩
    have hproject : t.project = q.project := congrArg Quarters.project ht
    have htemporary : t.world.temporary = q.temporary := congrArg Quarters.temporary ht
    have hfiles : t.world.host.files = q.host.files.set home .directory :=
      congrArg (fun r => r.host.files) ht
    refine ⟨_, home, ⟨hproject, htemporary, rfl, hlodges, hfiles ▸ .refl _ _ _, fun _ hsheet => ?_⟩,
      fun r hr => .founded hnone hnew hr⟩
    have hsheet : (t.quarters.host.files.get? (home ++ [stylesheetName])).isSome = true := hsheet
    rw [hempty] at hsheet
    cases hsheet

/-- The directory of the workspace is there, or is a new one. -/
theorem stageDirectory_furnishing (hq : q.Lodged) :
    Triple (·.quarters = q) (stageDirectory : Action (Session τ) τ Path)
      (fun directory t => ∃ files home, q.Furnishing files directory home t.quarters ∧
        ∀ r, q.Furnishing files directory home r → q.Prepared r)
      (fun _ t => t.quarters = q) := by
  refine Triple.get_bind fun s hs => ?_
  cases hstaging : s.staging with
  | none =>
    have hnone : q.staging = none := (congrArg Quarters.staging hs).symm.trans hstaging
    exact (createStaging_furnishing hq hnone).pre fun t ht => ht ▸ hs
  | some directory =>
    have hthere : q.staging = some directory := (congrArg Quarters.staging hs).symm.trans hstaging
    obtain ⟨home, hlodges, hpaired⟩ := hq.lodges directory hthere
    refine Triple.ite (fun _ => Triple.pure ?_) fun hgone => ?_
    · rintro t rfl
      rw [hs]
      exact ⟨_, home, ⟨rfl, rfl, hthere, hlodges, .refl _ _ _, hpaired⟩, fun r hr =>
        .kept hthere hlodges hr⟩
    · -- nobody has taken it away
      have hdirectory : s.world.isDirectory directory = true := by
        have hisDirectory := hlodges.isDirectory
        rwa [← hs] at hisDirectory
      exact absurd hdirectory hgone

/-! ### The files -/

/-- A copy put right in the directory changes that file alone. -/
theorem copyFile_set (h : r.host.files.Lodges r.host.cwd directory home) (hname : name ≠ "..")
    (source : Path) :
    Triple (·.quarters = r) (copyFile source (directory.child name) : Action (Session τ) τ Unit)
      (fun _ t => ∃ node, node.isFile = true ∧
        t.quarters = r.withFiles (r.host.files.set (home ++ [name]) node))
      (fun _ t => t.quarters = r) := by
  refine Triple.post (withFiles_triple _) ?_ fun _ _ ht => ht.1
  rintro ⟨⟩ t ⟨files, hfiles, ht⟩
  obtain ⟨-, bytes, -, -, time, executable, -, -, rfl⟩ :=
    FileTree.copy_child h.found hname (h.plain name) hfiles
  exact ⟨_, rfl, ht⟩

/-- What is in the directory is seen through it. -/
theorem exists?_of_furnishing (hs : q.Furnishing files directory home s.quarters)
    (hname : name ≠ "..") :
    s.world.exists? (directory.child name) =
      (s.quarters.host.files.get? (home ++ [name])).isSome := hs.lodges.exists?_child hname

theorem missing_of_furnishing (hs : q.Furnishing files directory home s.quarters)
    (hname : name ≠ "..") (hmissing : (!s.world.exists? (directory.child name)) = true) :
    s.quarters.host.files.get? (home ++ [name]) = none := by
  rw [exists?_of_furnishing hs hname] at hmissing
  simpa using hmissing

/-- A text is put into a file of the workspace where there was none. -/
theorem writeText_furnishing (hname : name ≠ "..")
    (hshort : FileTree.isTooLong name = false) (hstages : q.project.Stages name)
    (hr : q.Furnishing files directory home r)
    (hnew : r.host.files.get? (home ++ [name]) = none)
    (hconfig : q.project.config = none → name = stylesheetName →
      (r.host.files.get? (home ++ [configName])).isSome = true) (text : String) :
    Triple (·.quarters = r) (writeText (directory.child name) text : Action (Session τ) τ Unit)
      (fun _ t => q.Furnishing files directory home t.quarters ∧
        ∃ node, t.quarters = r.withFiles (r.host.files.set (home ++ [name]) node))
      (fun _ _ => False) := by
  refine (writeText_set hr.lodges.found hname hshort (hr.lodges.plain name) text).post ?_
    fun _ _ h => h
  rintro ⟨⟩ t ⟨node, hnode, ht⟩
  refine ⟨?_, node, ht⟩
  rw [ht]
  exact hr.set hstages (.inl hnew) hconfig hnode

/-- The virtual document is written unless it is there. -/
theorem stageDocument_furnishing :
    (stageDocument directory : Action (Session τ) τ Unit).Keeps
      fun t => q.Furnishing files directory home t.quarters := by
  have hname : documentName ≠ ".." := by decide +kernel
  refine Triple.get_bind fun s hs => Triple.ite (fun hmissing => ?_) fun _ =>
    Triple.pure fun t ht => ht ▸ hs
  have hwrite := writeText_furnishing (τ := τ) hname (by decide +kernel) .document hs
    (missing_of_furnishing hs hname hmissing) (fun _ h => absurd h (by decide +kernel))
    emptyDocument
  refine (hwrite.post (fun _ _ h => h.1) fun _ _ h => h.elim).pre ?_
  rintro t rfl
  rfl

/-- A file of the project is copied to where nothing is, or over the copy of the configuration. -/
theorem copyFile_furnishing {config : Path} (hconfig : q.project.config = some config)
    (hname : name ≠ "..") (hstages : q.project.Stages name)
    (hs : q.Furnishing files directory home s.quarters)
    (hold : s.quarters.host.files.get? (home ++ [name]) = none ∨ q.project.Renews name)
    (source : Path) :
    Triple (· = s) (copyFile source (directory.child name) : Action (Session τ) τ Unit)
      (fun _ t => q.Furnishing files directory home t.quarters)
      (fun _ t => q.Furnishing files directory home t.quarters) := by
  refine ((copyFile_set hs.lodges hname source).pre fun t ht => ht ▸ rfl).post ?_
    fun _ t ht => ht ▸ hs
  rintro ⟨⟩ t ⟨node, hnode, ht⟩
  rw [ht]
  refine hs.set hstages hold (fun hnone => ?_) hnode
  rw [hconfig] at hnone
  cases hnone

/-- The project's configuration is copied, and its stylesheet unless it is there. -/
theorem copyProject_furnishing (hq : q.Lodged) {config : Path}
    (hconfig : q.project.config = some config) (time : Int) :
    (copyProject directory config q.project.stylesheet time : Action (Session τ) τ Unit).Keeps
      fun t => q.Furnishing files directory home t.quarters := by
  -- the configuration alone may be replaced, and the stylesheet has another name
  have hrenews : q.project.Renews config.name :=
    ⟨config, hconfig, rfl, (hq.proper.config config hconfig).2, fun sheet hsheet =>
      hq.apart config sheet hconfig hsheet⟩
  have hend : (do
      let content ← readText config
      modify fun s => { s with snapshot := some ⟨config, time, content⟩ }
      dropResults : Action (Session τ) τ Unit).Keeps
        fun t => q.Furnishing files directory home t.quarters := by
    refine Keeps.bind ((outward_readText config).leaves_quarters.keeps fun _ _ heq hs => heq ▸ hs)
      fun _ => Keeps.bind (Keeps.modify fun t ht => ?_) fun _ => Keeps.modify fun t ht => ht
    exact ⟨ht.project, ht.temporary, ht.staging, ht.lodges, ht.furnished, ht.paired⟩
  have hcopy : (copyFile config (directory.child config.name) : Action (Session τ) τ Unit).Keeps
      fun t => q.Furnishing files directory home t.quarters := fun s hs =>
    copyFile_furnishing hconfig (hq.proper.config config hconfig).1 (.config hconfig) hs
      (.inr hrenews) config s rfl
  refine Keeps.bind (Keeps.modify fun t ht => ht) fun _ => Keeps.bind hcopy fun _ => ?_
  cases hsheet : q.project.stylesheet with
  | none => exact hend
  | some sheet =>
    have hname := (hq.proper.stylesheet sheet hsheet).1
    refine Triple.get_bind fun s hs => Triple.ite (fun hmissing => ?_) fun _ => ?_
    · have hnone := missing_of_furnishing hs hname hmissing
      exact Triple.bind (copyFile_furnishing hconfig hname (.stylesheet hconfig hsheet) hs
        (.inl hnone) sheet) fun _ => hend
    · exact hend.pre fun t ht => ht ▸ hs

theorem stageProject_furnishing (hq : q.Lodged) {config : Path}
    (hconfig : q.project.config = some config) :
    (stageProject directory config q.project.stylesheet : Action (Session τ) τ Unit).Keeps
      fun t => q.Furnishing files directory home t.quarters := by
  refine Keeps.bind ((outward_configTime config).leaves_quarters.keeps fun _ _ heq hs => heq ▸ hs)
    fun time => Keeps.get_bind fun s => ?_
  exact Keeps.ite (Keeps.bind (copyProject_furnishing hq hconfig time) fun _ =>
    Keeps.modify fun t ht => ht) (Keeps.modify fun t ht => ht)

/-- Without a project, a configuration and a stylesheet are written unless there is a
configuration. -/
theorem stageStandard_furnishing (hnone : q.project.config = none) :
    (stageStandard directory : Action (Session τ) τ Unit).Keeps
      fun t => q.Furnishing files directory home t.quarters := by
  have hname : configName ≠ ".." := by decide +kernel
  have hname' : stylesheetName ≠ ".." := by decide +kernel
  have hne : stylesheetName ≠ configName := by decide +kernel
  have hend : (modify fun s => { s with
      activeConfig := some (directory.child configName)
      activeStylesheet :=
        if s.world.exists? (directory.child stylesheetName) then
          some (directory.child stylesheetName) else none } : Action (Session τ) τ Unit).Keeps
      fun t => q.Furnishing files directory home t.quarters := Keeps.modify fun t ht => ht
  refine Triple.get_bind fun s hs => Triple.ite (fun hmissing => ?_) fun _ =>
    hend.pre fun t ht => ht ▸ hs
  -- there is no stylesheet either, since there is no configuration
  have hconfig := missing_of_furnishing hs hname hmissing
  have hsheet : s.quarters.host.files.get? (home ++ [stylesheetName]) = none := by
    rw [← Option.not_isSome_iff_eq_none]
    intro hthere
    have hpaired := hs.paired hnone hthere
    rw [hconfig] at hpaired
    cases hpaired
  refine Triple.bind (S := fun _ t => t.quarters = s.quarters)
    (Triple.modify fun t ht => ht ▸ rfl) fun _ => ?_
  have hwrite := writeText_furnishing (τ := τ) hname (by decide +kernel) (.standardConfig hnone) hs
    hconfig (fun _ h => absurd h hne.symm) configText
  refine Triple.bind (hwrite.post (fun _ _ h => h) fun _ _ h => h.elim) fun _ => ?_
  rintro t ⟨hwritten, node, ht⟩
  refine (?_ : Triple (·.quarters = t.quarters) _ _ _) t rfl
  have hsheet' : t.quarters.host.files.get? (home ++ [stylesheetName]) = none := by
    rw [ht]
    exact (FileTree.get?_set_of_ne (by simpa using hne) node _).trans hsheet
  have hconfig' : (t.quarters.host.files.get? (home ++ [configName])).isSome = true := by
    rw [ht]
    exact congrArg Option.isSome (FileTree.get?_set_self (by simp) node _)
  have hwrite' := writeText_furnishing (τ := τ) hname' (by decide +kernel)
    (.standardStylesheet hnone) hwritten hsheet'
    (fun _ _ => hconfig') stylesheetText
  exact Triple.bind (hwrite'.post (fun _ _ h => h.1) fun _ _ h => h.elim) fun _ => hend

/-- **A preparation changes nothing but the files of the workspace**, however it ends. -/
theorem prepareWorkspace_prepared (hq : q.Lodged) :
    Triple (·.quarters = q) (prepareWorkspace : Action (Session τ) τ Unit)
      (fun _ t => q.Prepared t.quarters ∧ t.quarters.Lodged)
      (fun _ t => q.Prepared t.quarters ∧ t.quarters.Lodged) := by
  refine Triple.bind ((stageDirectory_furnishing hq).post (fun _ _ h => h) ?_) fun directory => ?_
  · rintro fault t rfl
    exact ⟨.refused, hq⟩
  rintro s ⟨files, home, hs, hprepared⟩
  have hend (t : Session τ) (ht : q.Furnishing files directory home t.quarters) :
      q.Prepared t.quarters ∧ t.quarters.Lodged := ⟨hprepared _ ht, ht.lodged hq⟩
  refine Triple.post (P := fun t => q.Furnishing files directory home t.quarters) ?_
    (fun _ t ht => hend t ht) (fun _ t ht => hend t ht) s hs
  refine Keeps.bind stageDocument_furnishing fun _ => Triple.get_bind fun s hs => ?_
  have hproject : s.project = q.project := hs.project
  dsimp only
  rw [hproject]
  cases hconfig : q.project.config with
  | some config => exact (stageProject_furnishing hq hconfig).pre fun t ht => ht ▸ hs
  | none => exact (stageStandard_furnishing hconfig).pre fun t ht => ht ▸ hs

end Session

end ClassOrder
