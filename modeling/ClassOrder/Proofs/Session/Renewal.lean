import ClassOrder.Proofs.Files.Copying
import ClassOrder.Proofs.Session.History
import ClassOrder.Proofs.Session.Results

/-!
# When the project's files are copied again

A preparation looks up when the project's configuration was last changed.  If its path or that time
is not what is remembered, the files are copied, the configuration is taken down and every result is
dropped; else the files, what is remembered and the results stay as they are.  It is all or nothing:
a preparation that fails leaves what is remembered and every result, wherever it fails, so a change
that it has failed to copy is one that the next preparation finds.

## Main definitions

* `Session.Unmoved`, `Session.Adds` — what is kept and remembered is what it was; and nothing but
  new files and directories has come about.
* `Session.Renewed`, `Session.Readied` — the project's files have been copied, if they had to be.
* `Turn.Futile` — a turn that makes no workspace ready.

## Main results

* `prepareWorkspace_readied` — what a preparation leaves, when it succeeds and when it fails.
* `run_futile` — failed preparations leave what is remembered.
* `preparation_all_or_nothing` — **a preparation copies a changed configuration or leaves all that
  goes with the last one**, and after any number of failed ones as much as the first time.
-/

namespace ClassOrder

open ClassOrder.Action (Keeps Leaves Triple)

variable {τ : Type}

namespace Session

variable {s t u : Session τ} {config directory : Path} {stylesheet : Option Path} {time : Int}
  {bytes : Bytes}

/-- The session `t` has come from `s`, and what is kept and remembered is what it was. -/
structure Unmoved (s t : Session τ) : Prop where
  results : t.results = s.results
  project : t.project = s.project

/-- The session `t` has come from `s`, and nothing but new files and directories has come about. -/
structure Adds (s t : Session τ) : Prop extends Unmoved s t where
  cwd : t.world.host.cwd = s.world.host.cwd
  files : s.world.host.files.Within t.world.host.files

/-- The project's configuration, last changed at `time`, has been copied since `s`, and its
stylesheet unless there was one; it has been taken down, and every result has been dropped. -/
structure Renewed (s : Session τ) (config directory : Path) (stylesheet : Option Path) (time : Int)
    (t : Session τ) : Prop where
  cache : t.cache = s.cache.clear
  snapshot : ∃ bytes content,
    t.world.host.files.read t.world.host.cwd config = .ok bytes ∧
      t.world.host.files.read t.world.host.cwd (directory.child config.name) = .ok bytes ∧
      Text.readText? bytes = some content ∧ t.snapshot = some ⟨config, time, content⟩
  stylesheet : ∀ sheet, stylesheet = some sheet →
    t.world.exists? (directory.child sheet.name) = true

/-- The workspace has been made ready in a directory since `s`, with the project's configuration
as it was last changed at `time`: it has been copied if it is another one than what was remembered,
else all is as it was. -/
structure Readied (s : Session τ) (config directory : Path) (time : Int) (t : Session τ) :
    Prop where
  staging : t.staging = some directory
  activeConfig : t.activeConfig = some (directory.child config.name)
  modified : t.world.host.files.modified t.world.host.cwd config = .ok time
  before : ∀ earlier, s.world.host.files.modified s.world.host.cwd config = .ok earlier →
    earlier = time
  changed : s.isStaged config time = false → Renewed s config directory s.project.stylesheet time t
  unchanged : s.isStaged config time = true →
    t.cache = s.cache ∧ t.snapshot = s.snapshot ∧
      s.world.host.files.Within t.world.host.files

theorem Unmoved.refl (s : Session τ) : Unmoved s s := ⟨rfl, rfl⟩

theorem Unmoved.trans (h : Unmoved s t) (h' : Unmoved t u) : Unmoved s u :=
  ⟨h'.results.trans h.results, h'.project.trans h.project⟩

theorem Unmoved.isStaged (h : Unmoved s t) : t.isStaged config time = s.isStaged config time := by
  have hsnapshot : t.snapshot = s.snapshot := congrArg Prod.snd h.results
  rw [Session.isStaged, Session.isStaged, hsnapshot]

theorem Adds.refl (s : Session τ) : Adds s s := ⟨.refl s, rfl, .refl _⟩

theorem Adds.note (h : Adds s t) (r : Record) : Adds s (t.note r) :=
  ⟨⟨h.results, h.project⟩, h.cwd, h.files⟩

theorem Adds.modified (h : Adds s t) {earlier : Int}
    (hs : s.world.host.files.modified s.world.host.cwd config = .ok earlier) :
    t.world.host.files.modified t.world.host.cwd config = .ok earlier := by
  rw [h.cwd]
  exact FileTree.modified_of_within h.files hs

/-! ### The directory and the virtual document -/

/-- A change of the files that adds to them. -/
theorem withFiles_adds {change : FileTree → Place → Except SystemFault FileTree} (h : Adds s t)
    (hchange : ∀ files, change t.world.host.files t.world.host.cwd = .ok files →
      t.world.host.files.Within files) :
    Triple (· = t) (withFiles change : Action (Session τ) τ Unit)
      (fun _ u => Adds s u ∧ u.staging = t.staging) (fun _ => Adds s) := by
  rintro u rfl
  rw [withFiles, Action.apply_ofFun]
  dsimp only
  cases hfiles : change u.world.host.files u.world.host.cwd with
  | error fault => exact h
  | ok files =>
    exact ⟨⟨⟨h.results, h.project⟩, h.cwd, h.files.trans (hchange files hfiles)⟩, rfl⟩

theorem stageDirectory_adds (s : Session τ) :
    Triple (Adds s) (stageDirectory : Action (Session τ) τ Path)
      (fun directory t => Adds s t ∧ t.staging = some directory) (fun _ => Adds s) := by
  have hcreate : Triple (Adds s) (createStaging : Action (Session τ) τ Path)
      (fun directory t => Adds s t ∧ t.staging = some directory) (fun _ => Adds s) := by
    refine Triple.get_bind fun t ht => Triple.bind
      (withFiles_adds ht fun _ => FileTree.makeDirectory_within) fun _ => ?_
    refine Triple.bind (S := fun _ u => Adds s u ∧
      u.staging = some (t.world.temporary.child t.stagingName)) (Triple.modify fun u hu => ?_)
        fun _ => Triple.bind (Triple.modify fun u hu => ⟨hu.1.note _, hu.2⟩) fun _ =>
          Triple.pure fun u hu => hu
    exact ⟨⟨⟨hu.1.results, hu.1.project⟩, hu.1.cwd, hu.1.files⟩, rfl⟩
  refine Triple.get_bind fun t ht => ?_
  cases hstaging : t.staging with
  | none => exact hcreate.pre fun u hu => hu ▸ ht
  | some directory =>
    refine Triple.ite (fun _ => Triple.pure fun u hu => ?_) fun _ => hcreate.pre fun u hu => hu ▸ ht
    subst hu
    exact ⟨ht, hstaging⟩

theorem stageDocument_adds (s : Session τ) (directory : Path) :
    Triple (fun t => Adds s t ∧ t.staging = some directory)
      (stageDocument directory : Action (Session τ) τ Unit)
      (fun _ t => Adds s t ∧ t.staging = some directory) (fun _ => Adds s) := by
  refine Triple.get_bind fun t ht => Triple.ite (fun hmissing => ?_) fun _ =>
    Triple.pure fun u hu => hu ▸ ht
  refine (withFiles_adds ht.1 fun _ => FileTree.write_within ?_).post
    (fun _ u hu => ⟨hu.1, hu.2.trans ht.2⟩) fun _ _ h => h
  simpa [World.exists?] using hmissing

/-! ### The project's files -/

/-- The configuration, last changed at `time`, has been copied to the workspace, and nothing is
remembered of it yet. -/
structure Copying (s : Session τ) (config directory : Path) (time : Int) (bytes : Bytes)
    (t : Session τ) : Prop extends Unmoved s t where
  staging : t.staging = some directory
  source : ∃ place executable,
    t.world.host.files.find t.world.host.cwd config = .ok (place, .file bytes time executable)
  copy : ∃ place modified executable,
    t.world.host.files.find t.world.host.cwd (directory.child config.name) =
      .ok (place, .file bytes modified executable)

theorem copyConfig_copying (s : Session τ) (config directory : Path) (time : Int) :
    Triple
      (fun t => (Adds s t ∧ t.staging = some directory) ∧
        t.world.host.files.modified t.world.host.cwd config = .ok time)
      (copyFile config (directory.child config.name) : Action (Session τ) τ Unit)
      (fun _ t => ∃ bytes, Copying s config directory time bytes t)
      (fun _ => Unmoved s) := by
  rintro t ⟨⟨hadds, hstaging⟩, hmodified⟩
  rw [copyFile, withFiles, Action.apply_ofFun]
  dsimp only
  cases hfiles : t.world.host.files.copy t.world.host.cwd config (directory.child config.name) with
  | error fault => exact hadds.toUnmoved
  | ok files =>
    obtain ⟨origin, bytes, modified, executable, place, time', executable', hbefore, hsource,
      hcopy⟩ := FileTree.copy_ok hfiles
    rw [FileTree.modified, hbefore] at hmodified
    obtain rfl : modified = time := Except.ok.inj hmodified
    exact ⟨bytes, ⟨hadds.results, hadds.project⟩, hstaging, ⟨origin, executable, hsource⟩,
      ⟨place, time', executable', hcopy⟩⟩

theorem copyStylesheet_copying {sheet : Path} (ht : Copying s config directory time bytes t)
    (hmissing : t.world.exists? (directory.child sheet.name) = false) :
    Triple (· = t) (copyFile sheet (directory.child sheet.name) : Action (Session τ) τ Unit)
      (fun _ u => Copying s config directory time bytes u ∧
        u.world.exists? (directory.child sheet.name) = true)
      (fun _ => Unmoved s) := by
  rintro u rfl
  rw [copyFile, withFiles, Action.apply_ofFun]
  dsimp only
  cases hfiles : u.world.host.files.copy u.world.host.cwd sheet (directory.child sheet.name) with
  | error fault => exact ht.toUnmoved
  | ok files =>
    have hwithin := FileTree.copy_within hmissing hfiles
    obtain ⟨_, _, _, _, _, _, _, -, -, hcopy⟩ := FileTree.copy_ok hfiles
    obtain ⟨origin, executable, hsource⟩ := ht.source
    obtain ⟨place, modified, executable', hstaged⟩ := ht.copy
    refine ⟨⟨⟨ht.results, ht.project⟩, ht.staging, ⟨origin, executable, ?_⟩,
      ⟨place, modified, executable', ?_⟩⟩, ?_⟩
    · exact FileTree.find_of_within hwithin hsource
    · exact FileTree.find_of_within hwithin hstaged
    · rw [World.exists?, FileTree.exists?, FileTree.find?]
      dsimp only
      rw [hcopy]
      rfl

/-- The configuration is taken down once all is copied, and every result is dropped. -/
theorem takeDown_renewed (hstylesheet : ∀ sheet, stylesheet = some sheet →
      t.world.exists? (directory.child sheet.name) = true)
    (ht : Copying s config directory time bytes t) :
    Triple (· = t)
      (do
        let content ← readText config
        modify fun s => { s with snapshot := some ⟨config, time, content⟩ }
        dropResults : Action (Session τ) τ Unit)
      (fun _ u => Renewed s config directory stylesheet time u ∧ u.staging = some directory ∧
        u.world.host.files.modified u.world.host.cwd config = .ok time)
      (fun _ => Unmoved s) := by
  obtain ⟨origin, executable, hsource⟩ := ht.source
  obtain ⟨place, modified, executable', hstaged⟩ := ht.copy
  have hread : t.world.host.files.read t.world.host.cwd config = .ok bytes := by
    rw [FileTree.read, hsource]
  -- the copy has the bytes of the configuration, from which the text is read
  have hcopied :
      t.world.host.files.read t.world.host.cwd (directory.child config.name) = .ok bytes := by
    rw [FileTree.read, hstaged]
  have hmodified : t.world.host.files.modified t.world.host.cwd config = .ok time := by
    rw [FileTree.modified, hsource]
  refine Triple.bind (S := fun content u => u = t ∧ Text.readText? bytes = some content) ?_
    fun content => ?_
  · rintro u rfl
    rw [readText, Action.apply_ofFun, hread]
    dsimp only
    cases htext : Text.readText? bytes with
    | none => exact ht.toUnmoved
    | some content => exact ⟨rfl, rfl⟩
  · rintro _ ⟨rfl, hcontent⟩
    refine ⟨⟨?_, ⟨bytes, content, hread, hcopied, hcontent, rfl⟩, hstylesheet⟩, ht.staging,
      hmodified⟩
    exact congrArg (fun r => r.1.clear) ht.results

theorem copyProject_renewed (s : Session τ) (config directory : Path) (stylesheet : Option Path)
    (time : Int) :
    Triple
      (fun t => (Adds s t ∧ t.staging = some directory) ∧
        t.world.host.files.modified t.world.host.cwd config = .ok time)
      (copyProject directory config stylesheet time : Action (Session τ) τ Unit)
      (fun _ t => Renewed s config directory stylesheet time t ∧ t.staging = some directory ∧
        t.world.host.files.modified t.world.host.cwd config = .ok time)
      (fun _ => Unmoved s) := by
  refine Triple.bind (Triple.modify fun t ht => ?_) fun _ =>
    Triple.bind (copyConfig_copying s config directory time) fun _ => ?_
  · exact ⟨⟨ht.1.1.note _, ht.1.2⟩, ht.2⟩
  rintro t ⟨bytes, ht⟩
  cases stylesheet with
  | none => exact takeDown_renewed (fun _ h => by cases h) ht t rfl
  | some sheet =>
    have hend {u : Session τ} (hu : Copying s config directory time bytes u)
        (hthere : u.world.exists? (directory.child sheet.name) = true) :=
      takeDown_renewed (fun other hother => Option.some_inj.mp hother ▸ hthere) hu
    refine Triple.get_bind (fun u hu => Triple.ite (fun hmissing => ?_) fun hthere => ?_) t rfl
    · subst hu
      exact Triple.bind (copyStylesheet_copying ht (by simpa using hmissing)) fun _ v hv =>
        hend hv.1 hv.2 v rfl
    · subst hu
      exact hend ht (by simpa using hthere)

/-- **What a preparation leaves**, when it succeeds and when it fails. -/
theorem prepareWorkspace_readied (hconfig : s.project.config = some config) :
    Triple (· = s) (prepareWorkspace : Action (Session τ) τ Unit)
      (fun _ t => ∃ directory time, Readied s config directory time t)
      (fun _ => Unmoved s) := by
  have hfails {α : Type} {P : Session τ → Prop} {a : Action (Session τ) τ α}
      {Q : α → Session τ → Prop} (h : Triple P a Q fun _ => Adds s) :
      Triple P a Q fun _ => Unmoved s := h.post (fun _ _ h => h) fun _ _ h => h.toUnmoved
  refine Triple.bind (hfails ((stageDirectory_adds s).pre fun t ht => ht ▸ .refl s))
    fun directory => Triple.bind (hfails (stageDocument_adds s directory)) fun _ => ?_
  refine Triple.get_bind fun t ht => ?_
  rw [ht.1.project]
  dsimp only
  rw [hconfig]
  refine Triple.bind (S := fun time u => u = t ∧
    t.world.host.files.modified t.world.host.cwd config = .ok time) ?_ fun time => ?_
  · rintro u rfl
    rw [configTime, Action.apply_ofFun]
    cases hmodified : u.world.host.files.modified u.world.host.cwd config with
    | ok time => exact ⟨rfl, rfl⟩
    | error fault => cases fault <;> exact ht.1.toUnmoved
  rintro u ⟨hu, hmodified⟩
  subst hu
  -- so far only new files were written, so the time is that of the file as it was
  have hbefore (earlier : Int)
      (h : s.world.host.files.modified s.world.host.cwd config = .ok earlier) : earlier = time := by
    rw [ht.1.modified h] at hmodified
    exact Except.ok.inj hmodified
  refine Triple.get_bind (fun v hv => ?_) u rfl
  subst hv
  rw [ht.1.isStaged]
  refine Triple.ite (fun hother => ?_) fun hsame => ?_
  · refine Triple.bind ((copyProject_renewed s config directory _ time).pre
      fun u hu => hu ▸ ⟨ht, hmodified⟩) fun _ => Triple.modify fun v hv => ?_
    obtain ⟨hv, hstaging, hv'⟩ := hv
    refine ⟨directory, time, hstaging, rfl, hv', hbefore, fun _ => ?_, fun hstaged => ?_⟩
    · exact ⟨hv.cache, hv.snapshot, hv.stylesheet⟩
    · simp [hstaged] at hother
  · refine Triple.modify fun v hv => ?_
    subst hv
    refine ⟨directory, time, ht.2, rfl, hmodified, hbefore, fun hstaged => ?_, fun _ => ?_⟩
    · simp [hstaged] at hsame
    · exact ⟨congrArg Prod.fst ht.1.results, congrArg Prod.snd ht.1.results, ht.1.files⟩

end Session

/-! ### Failed preparations -/

variable [Timeline τ] {s t : Session τ}

/-- A turn that makes no workspace ready: a preparation that fails, or no call at all. -/
def Turn.Futile (s : Session τ) : Turn τ → Prop
  | call c => c = .prepare ∧ (Session.prepareWorkspace.apply s).1.isOk = false
  | pass _ | edit _ | act _ | breakInput _ => True

/-- A turn that makes no workspace ready leaves what is kept and remembered. -/
theorem Turn.take_futile {turn : Turn τ} {config : Path} (hconfig : s.project.config = some config)
    (h : turn.Futile s) : s.Unmoved (turn.take s).2 := by
  cases turn with
  | call c =>
    obtain ⟨rfl, hfailed⟩ := h
    have hrun := Session.prepareWorkspace_readied hconfig s rfl
    rw [take, Call.perform, Action.apply_bind]
    rcases hprepare : Session.prepareWorkspace.apply s with ⟨fault | ⟨⟩, t⟩
    · rw [hprepare] at hrun
      exact hrun
    · rw [hprepare] at hfailed
      cases hfailed
  | pass time => exact ⟨rfl, rfl⟩
  | edit change => exact ⟨rfl, rfl⟩
  | act deeds => exact ⟨rfl, rfl⟩
  | breakInput fault => exact ⟨rfl, rfl⟩

/-- **Failed preparations leave what is kept and remembered**, however many there are and whatever
else happens in between. -/
theorem Session.run_futile {turns : List (Turn τ)} {config : Path}
    (hconfig : s.project.config = some config)
    (hturns : ∀ earlier turn, earlier ++ [turn] <+: turns → turn.Futile (s.run earlier)) :
    s.Unmoved (s.run turns) := by
  induction turns generalizing s with
  | nil => exact .refl s
  | cons turn turns ih =>
    have hstep := Turn.take_futile hconfig (hturns [] turn ⟨turns, rfl⟩)
    refine hstep.trans (ih (hstep.project ▸ hconfig) fun earlier next hearlier => ?_)
    exact hturns (turn :: earlier) next ((List.prefix_cons_inj turn).mpr hearlier)

/-- **A preparation copies a changed configuration or leaves all that goes with the last one.**  Let
a session for a project with a configuration have failed to make its workspace ready any number of
times, be it none at all, with anything else happening in between.  Then what it keeps and remembers
is what it was.  If the next preparation fails as well, wherever it does, so it is after that.

If it succeeds, and the path of the configuration or the time of its last change is not what is
remembered, then the bytes of the configuration are in its copy, the path, the time and the text of
those bytes are remembered, the stylesheet is there, and no result is kept.  If they are what is
remembered, then what is kept and remembered stays what it was, and whatever stood anywhere in the
tree stands there as it was. -/
theorem preparation_all_or_nothing (s : Session τ) {config : Path}
    (hconfig : s.project.config = some config) (turns : List (Turn τ))
    (hturns : ∀ earlier turn, earlier ++ [turn] <+: turns → turn.Futile (s.run earlier)) :
    let u := s.run turns
    (u.cache = s.cache ∧ u.snapshot = s.snapshot) ∧
    (∀ fault t, Session.prepareWorkspace.apply u = (.error fault, t) →
      t.cache = s.cache ∧ t.snapshot = s.snapshot) ∧
    ∀ t, Session.prepareWorkspace.apply u = (.ok (), t) →
      ∃ directory time, u.Readied config directory time t := by
  have hunmoved := Session.run_futile hconfig hturns
  have hrun := Session.prepareWorkspace_readied (hunmoved.project ▸ hconfig)
  refine ⟨Prod.ext_iff.mp hunmoved.results, fun fault t herror => ?_, fun t hok => ?_⟩
  · exact Prod.ext_iff.mp (hunmoved.trans (hrun.of_error rfl herror)).results
  · exact hrun.of_ok rfl hok

/-- A session that remembers its project's configuration and keeps a result. -/
def rememberingSession : Session ℚ :=
  let s := (sampleSession ⟨some (.ofString "/w"), some (.ofString "/w/c.js"), none⟩
    ⟨[(["w"], .directory), (["w", "c.js"], .file [97] 1 false)]⟩ {}).run [.call .prepare]
  { s with cache := s.cache.put 0 "b a" "a b" }

/-- The configuration is changed to bytes that are no text, which cannot be taken down, and then to
a text in the same moment. -/
def spoiledTurns : List (Turn ℚ) :=
  [.edit (·.set ["w", "c.js"] (.file [255] 2 false)), .call .prepare,
    .edit (·.set ["w", "c.js"] (.file [99] 2 false))]

theorem preparation_all_or_nothing_spoiledTurns :
    rememberingSession.project.config = some (.ofString "/w/c.js") ∧
    (∀ earlier turn, earlier ++ [turn] <+: spoiledTurns →
      turn.Futile (rememberingSession.run earlier)) ∧
    (rememberingSession.run spoiledTurns).cache = rememberingSession.cache ∧
    rememberingSession.cache.entries ≠ [] ∧
    ∃ t directory, Session.prepareWorkspace.apply (rememberingSession.run spoiledTurns) =
        (.ok (), t) ∧
      (rememberingSession.run spoiledTurns).Readied (.ofString "/w/c.js") directory 2 t ∧
      (rememberingSession.run spoiledTurns).isStaged (.ofString "/w/c.js") 2 = false ∧
      t.cache.entries = [] := by
  have hturns : ∀ earlier turn, earlier ++ [turn] <+: spoiledTurns →
      turn.Futile (rememberingSession.run earlier) := by
    rintro earlier turn ⟨later, hlater⟩
    rcases earlier with _ | ⟨a, _ | ⟨b, _ | ⟨c, more⟩⟩⟩
    · obtain ⟨rfl, -⟩ := List.cons_eq_cons.mp hlater
      trivial
    · obtain ⟨rfl, rfl, -⟩ := by simpa [spoiledTurns] using hlater
      exact ⟨rfl, by decide +kernel⟩
    · obtain ⟨rfl, rfl, rfl, -⟩ := by simpa [spoiledTurns] using hlater
      trivial
    · simp [spoiledTurns] at hlater
  have hconfig : rememberingSession.project.config = some (.ofString "/w/c.js") := by
    decide +kernel
  obtain ⟨⟨hcache, -⟩, -, hready⟩ :=
    preparation_all_or_nothing rememberingSession hconfig spoiledTurns hturns
  have hok : (Session.prepareWorkspace.apply (rememberingSession.run spoiledTurns)).1.isOk =
      true := by decide +kernel
  obtain ⟨directory, time, hreadied⟩ := hready _ (Action.apply_of_isOk hok)
  have htime : (Session.prepareWorkspace.apply
      (rememberingSession.run spoiledTurns)).2.world.host.files.modified [] (.ofString "/w/c.js") =
        .ok 2 := by decide +kernel
  obtain rfl : 2 = time := Except.ok.inj (htime.symm.trans hreadied.modified)
  have hother : (rememberingSession.run spoiledTurns).isStaged (.ofString "/w/c.js") 2 = false := by
    decide +kernel
  refine ⟨hconfig, hturns, hcache, by decide +kernel, _, directory, Action.apply_of_isOk hok,
    hreadied, hother, ?_⟩
  rw [(hreadied.changed hother).cache]
  rfl

end ClassOrder
