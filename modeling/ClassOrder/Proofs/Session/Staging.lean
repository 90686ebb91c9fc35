import ClassOrder.Proofs.Session.Quarters

/-!
# How the workspace is made ready

Making the workspace ready begins with a directory, which is new unless it is there, and puts the
virtual document in it.  A project's configuration is then copied, unless the copy that is
remembered is of the same file as it was last changed; and it is remembered once its text has been
read.  So a preparation that copies leaves a complete workspace, while one that relies on what is
remembered leaves what there is: the workspace is complete if it still holds the copy.

## Main definitions

* `Session.Complete` — the workspace is complete.
* `Session.Disturbed` — what a preparation that breaks off leaves.

## Main results

* `prepareWorkspace_triple` — **a workspace just made ready is complete exactly if it holds the copy
  that is remembered.**
-/

namespace ClassOrder.Session

open ClassOrder.Action (Keeps Leaves Triple)

variable {τ : Type} {s t : Session τ} {q : Quarters} {project : Project} {last : Option Snapshot}
  {directory config : Path} {stock : String → Option Node} {name : String} {time : Int}

/-- The workspace is complete: it is a directory with the virtual document, the configuration and,
if there is one, the stylesheet that a server is shown; and the configuration is the copy that is
remembered, with the path and the time of the project's, if there is a project. -/
structure Complete (s : Session τ) : Prop where
  directory : ∃ directory, s.staging = some directory ∧ s.world.isDirectory directory = true
  document : ∃ p, s.document? = some p ∧ s.world.host.isFile p = true
  config : ∃ directory name, s.staging = some directory ∧
    s.activeConfig = some (directory.child name) ∧
      s.world.host.isFile (directory.child name) = true
  stylesheet : ∀ p, s.activeStylesheet = some p → ∃ directory name,
    s.staging = some directory ∧ p = directory.child name ∧ s.world.host.isFile p = true
  faithful : ∀ config, s.project.config = some config → ∃ last p,
    s.snapshot = some last ∧ s.activeConfig = some p ∧ s.text? p = some last.content ∧
      last.path = config ∧
        s.world.host.files.modified s.world.host.cwd config = .ok last.modified

/-- Whatever was in the workspace is there still. -/
def Grown (stock stock' : String → Option Node) : Prop :=
  ∀ name, (stock name).isSome = true → (stock' name).isSome = true

theorem grown_refl (stock : String → Option Node) : Grown stock stock := fun _ h => h

theorem Grown.put {stock' : String → Option Node} (h : Grown stock stock') (name : String)
    (node : Node) : Grown stock (Function.update stock' name (some node)) := by
  intro other hother
  by_cases hname : other = name
  · rw [hname, Function.update_self]
    rfl
  · rw [Function.update_of_ne hname]
    exact h other hother

/-! ### The directory and the virtual document -/

/-- A new directory is a workspace with nothing in it. -/
theorem createStaging_triple (hq : q.Sound) :
    Triple (·.quarters = q) (createStaging : Action (Session τ) τ Path)
      (fun directory t => t.quarters.Stocked q.project q.snapshot directory fun _ => none)
      (fun fault t => t.quarters = q ∧ fault.kind ≠ .notText) := by
  refine Triple.get_bind fun s hs => ?_
  let new := s.world.temporary.child s.stagingName
  -- the new directory is empty before the session remembers it
  refine Triple.bind (S := fun _ t => ∃ files, t.quarters = q.withFiles files ∧ files.Rooted ∧
    files.inside? q.host.cwd new = some fun _ => none) ?_ fun _ => ?_
  · refine ((withFiles_triple _).pre fun t ht => ht ▸ hs).post ?_ ?_
    · rintro ⟨⟩ t ⟨files, hmake, ht⟩
      have habsolute : new.absolute = true := by
        have htemporary := hq.temporary
        rwa [← hs] at htemporary
      obtain ⟨-, -, -, hrooted, -, hinside⟩ :=
        FileTree.makeDirectory_ok hq.rooted habsolute hmake
      exact ⟨files, ht, hrooted, hinside⟩
    · rintro fault t ⟨ht, refusal, -, rfl⟩
      exact ⟨ht, kind_system_ne_notText refusal⟩
  · refine Triple.bind (S := fun _ t => t.quarters.Stocked q.project q.snapshot new fun _ => none)
      (Triple.modify ?_) fun _ => ?_
    · rintro t ⟨files, ht, hrooted, hinside⟩
      have hquarters : ({ t with
          staging := some new
          world := { t.world with made := t.world.made + 1 } } : Session τ).quarters =
          { q.withFiles files with staging := some new } := by
        rw [← ht]
        rfl
      rw [hquarters]
      have hcontent : ({ q.withFiles files with staging := some new } : Quarters).content =
          fun _ => none := congrArg (fun c => Option.getD c fun _ => none) hinside
      refine ⟨⟨hq.proper, hq.temporary, hrooted, fun name node hnode => ?_, hq.path⟩, rfl, rfl, rfl,
        hinside⟩
      rw [hcontent] at hnode
      cases hnode
    · refine Triple.bind (S := fun _ t => t.quarters.Stocked q.project q.snapshot new fun _ => none)
        (Triple.modify fun _ h => h) fun _ => Triple.pure fun _ h => h

/-- The directory of the workspace holds what there was, and nothing if it is new. -/
theorem stageDirectory_triple (hq : q.Sound) :
    Triple (·.quarters = q) (stageDirectory : Action (Session τ) τ Path)
      (fun directory t => t.quarters.Stocked q.project q.snapshot directory q.content)
      (fun fault t => t.quarters = q ∧ fault.kind ≠ .notText) := by
  have hcreate (hnone : q.content? = none) :
      Triple (·.quarters = q) (createStaging : Action (Session τ) τ Path)
        (fun directory t => t.quarters.Stocked q.project q.snapshot directory q.content)
        (fun fault t => t.quarters = q ∧ fault.kind ≠ .notText) := by
    have hcontent : q.content = fun _ => none := by
      rw [Quarters.content, hnone]
      rfl
    rw [hcontent]
    exact createStaging_triple hq
  -- without a directory that is there, there is no content, and a new one is made
  refine Triple.get_bind fun s hs => ?_
  cases hstaging : s.staging with
  | none =>
    have hnone : q.content? = none := by
      rw [← hs]
      exact congrArg (Option.bind · _) hstaging
    exact (hcreate hnone).pre fun t ht => ht ▸ hs
  | some directory =>
    have hcontent? : q.content? = q.host.files.inside? q.host.cwd directory := by
      rw [← hs]
      exact congrArg (Option.bind · _) hstaging
    have hisSome : (q.host.files.inside? q.host.cwd directory).isSome =
        s.world.isDirectory directory := by
      rw [← hs]
      exact FileTree.isSome_inside?
    refine Triple.ite (fun hthere => Triple.pure ?_) fun hgone => ?_
    · rintro t rfl
      rw [hthere] at hisSome
      obtain ⟨there, hinside⟩ := Option.isSome_iff_exists.mp hisSome
      have hcontent : q.content = there := by
        rw [Quarters.content, hcontent?, hinside]
        rfl
      rw [hs, hcontent]
      exact ⟨hq, rfl, rfl, (congrArg Quarters.staging hs).symm.trans hstaging, hinside⟩
    · have hnone : q.content? = none := by
        rw [hcontent?, ← Option.not_isSome_iff_eq_none, hisSome]
        exact hgone
      exact (hcreate hnone).pre fun t ht => ht ▸ hs

/-- The virtual document is there, and nothing else changes. -/
theorem stageDocument_triple (hq : q.Stocked project last directory stock) :
    Triple (·.quarters = q) (stageDocument directory : Action (Session τ) τ Unit)
      (fun _ t => ∃ stock', t.quarters.Stocked project last directory stock' ∧
        (∀ name, name ≠ documentName → stock' name = stock name) ∧
        (stock' documentName).isSome = true)
      (fun _ _ => False) := by
  have hname : documentName ≠ ".." := by decide +kernel
  refine Triple.get_bind fun s hs => Triple.ite (fun hmissing => ?_) fun hthere => Triple.pure ?_
  · have hwrite := writeText_child (τ := τ) hq hname (by decide +kernel) emptyDocument
    refine (hwrite.pre fun t (ht : t = s) => ht ▸ hs).post ?_ fun _ _ h => h
    rintro ⟨⟩ t ⟨node, ht⟩
    exact ⟨_, ht, fun name hne => Function.update_of_ne hne _ _, by rw [Function.update_self]; rfl⟩
  · intro t ht
    refine ⟨stock, ht ▸ hs ▸ hq, fun _ _ => rfl, ?_⟩
    have hexists : s.world.exists? (directory.child documentName) = true := by simpa using hthere
    rw [← hq.find? hname, ← hs]
    exact hexists

/-! ### The files of a project -/

theorem Quarters.Sourced.modified {bytes : Bytes} {source : Path}
    (h : q.Sourced source bytes time) : q.host.files.modified q.host.cwd source = .ok time := by
  obtain ⟨place, executable, hfind⟩ := h
  rw [FileTree.modified, hfind]

/-- What a preparation leaves that breaks off once the directory is there: what is remembered stays,
and the workspace holds a copy of it if it held one and no text that is none was copied. -/
def Disturbed (project : Project) (last : Option Snapshot) (directory : Path)
    (stock : String → Option Node) (fault : Fault τ) (s : Session τ) : Prop :=
  ∃ stock', s.quarters.Stocked project last directory stock' ∧
    ∀ text, project.Holds stock' text ↔ project.Holds stock text ∧ fault.kind ≠ .notText

/-- A copy of the configuration is in the workspace besides what was there. -/
structure Copied (project : Project) (last : Option Snapshot) (directory config : Path) (time : Int)
    (stock : String → Option Node) (bytes : Bytes) (stock' : String → Option Node) (q : Quarters) :
    Prop where
  stocked : q.Stocked project last directory stock'
  sourced : q.Sourced config bytes time
  copy : ∃ node, stock' config.name = some node ∧ node.text? = Text.readText? bytes
  grown : Grown stock stock'

/-- The configuration is copied. -/
theorem copyConfig_triple (hq : q.Stocked project last directory stock)
    (hconfig : project.config = some config)
    (htime : q.host.files.modified q.host.cwd config = .ok time) :
    Triple (·.quarters = q) (copyFile config (directory.child config.name) : Action _ τ Unit)
      (fun _ t => ∃ bytes stock',
        Copied project last directory config time stock bytes stock' t.quarters)
      (Disturbed project last directory stock) := by
  have hname := (hq.project ▸ hq.sound.proper).config config hconfig
  refine (copyFile_child hq hname.1 config).post ?_ ?_
  · rintro ⟨⟩ t ⟨bytes, time', node, hsource, hsource', htext, ht, -⟩
    rw [hsource.modified] at htime
    cases htime
    exact ⟨bytes, _, ht, hsource', ⟨node, Function.update_self _ _ _, htext⟩,
      (grown_refl stock).put _ _⟩
  · rintro fault t ⟨ht, hkind⟩
    exact ⟨stock, ht ▸ hq, fun text => (and_iff_left hkind).symm⟩

/-- What has no copy of the stylesheet is no copy of the project. -/
theorem not_holds_of_missing {stock : String → Option Node} {sheet : Path} {text : String}
    (hsheet : project.stylesheet = some sheet) (hmissing : stock sheet.name = none) :
    ¬ project.Holds stock text := by
  intro hholds
  have hsome := hholds.stylesheet sheet hsheet
  rw [hmissing] at hsome
  cases hsome

/-- The stylesheet is copied unless it is there, and then the rest is done. -/
theorem copySheet_triple {bytes : Bytes} {stock' : String → Option Node} {sheet : Path}
    {rest : Action (Session τ) τ Unit} {Q : Unit → Session τ → Prop}
    (hq : Copied project last directory config time stock bytes stock' q)
    (hsheet : project.stylesheet = some sheet)
    (hrest : ∀ stock'', (stock'' sheet.name).isSome = true →
      Triple (fun t => Copied project last directory config time stock bytes stock'' t.quarters)
        rest Q (Disturbed project last directory stock)) :
    Triple (·.quarters = q) (do
        if !(← get).world.exists? (directory.child sheet.name) then
          copyFile sheet (directory.child sheet.name)
        rest : Action (Session τ) τ Unit) Q (Disturbed project last directory stock) := by
  have hstocked := hq.stocked
  have hname := (hstocked.project ▸ hstocked.sound.proper).stylesheet sheet hsheet
  have hexists (s : Session τ) (hs : s.quarters = q) :
      s.world.exists? (directory.child sheet.name) = (stock' sheet.name).isSome := by
    rw [← hstocked.find? hname.1, ← hs]
    rfl
  refine Triple.get_bind fun s hs => Triple.ite (fun hmissing => ?_) fun hthere => ?_
  · have hnone : stock' sheet.name = none := by
      rw [hexists s hs] at hmissing
      simpa using hmissing
    refine Triple.bind (S := fun _ t => ∃ copied, Copied project last directory config time stock
      bytes (Function.update stock' sheet.name (some copied)) t.quarters) ?_ fun _ => ?_
    · refine ((copyFile_child hstocked hname.1 sheet).pre fun t ht => ht ▸ hs).post ?_ ?_
      · rintro ⟨⟩ t ⟨_, _, copied, -, -, -, ht, hstays⟩
        obtain ⟨node, hnode, htext⟩ := hq.copy
        have hne : config.name ≠ sheet.name := by
          intro heq
          rw [heq, hnone] at hnode
          cases hnode
        refine ⟨copied, ht, hstays hnone _ _ _ hq.sourced, ⟨node, ?_, htext⟩, hq.grown.put _ _⟩
        rw [Function.update_of_ne hne, hnode]
      · -- the stylesheet is missing, so nothing counts as a copy before or after
        rintro fault t ⟨ht, hkind⟩
        have hmissing' : stock sheet.name = none :=
          Option.not_isSome_iff_eq_none.mp fun hsome => by simpa [hnone] using hq.grown _ hsome
        exact ⟨stock', ht ▸ hstocked, fun text => iff_of_false (not_holds_of_missing hsheet hnone)
          fun hholds => not_holds_of_missing hsheet hmissing' hholds.1⟩
    · rintro t ⟨copied, ht⟩
      exact hrest _ (by rw [Function.update_self]; rfl) t ht
  · rw [hexists s hs] at hthere
    refine (hrest stock' (by simpa [Option.isSome_iff_ne_none] using hthere)).pre fun t ht => ?_
    exact ht ▸ hs ▸ hq

theorem readText_of_sourced {bytes : Bytes} {source : Path}
    (h : s.quarters.Sourced source bytes time) :
    (readText source).apply s =
      match Text.readText? bytes with
      | some text => (.ok text, s)
      | none => (.error .notText, s) := by
  obtain ⟨place, executable, hfind⟩ := h
  have hread : s.world.host.files.read s.world.host.cwd source = .ok bytes := by
    rw [FileTree.read, show s.world.host.files.find s.world.host.cwd source = _ from hfind]
  cases htext : Text.readText? bytes <;>
    simp only [readText, Action.apply_ofFun, hread, htext]

/-- With the copy in the workspace, the text is read off the project's own file, which still is what
was copied, and remembered as what the copy holds. -/
theorem rememberCopy_triple (hconfig : project.config = some config) :
    Triple (fun s : Session τ => ∃ bytes stock',
        Copied project last directory config time stock bytes stock' s.quarters ∧
          ∀ sheet, project.stylesheet = some sheet → (stock' sheet.name).isSome = true)
      (do
        let content ← readText config
        modify fun s => { s with snapshot := some ⟨config, time, content⟩ }
        dropResults : Action (Session τ) τ Unit)
      (fun _ t => ∃ text stock', project.Holds stock' text ∧ Grown stock stock' ∧
        t.quarters.Stocked project (some ⟨config, time, text⟩) directory stock' ∧
          t.quarters.host.files.modified t.quarters.host.cwd config = .ok time)
      (Disturbed project last directory stock) := by
  rintro s ⟨bytes, stock', ⟨hstocked, hsource, ⟨node, hnode, htext⟩, hgrown⟩, hsheet⟩
  rw [Action.apply_bind, readText_of_sourced hsource]
  have hholds (text : String) :
      project.Holds stock' text ↔ Text.readText? bytes = some text := by
    refine ⟨fun h => ?_, fun h => ⟨fun other hother => ?_, hsheet⟩⟩
    · rw [← htext, ← h.config config hconfig, hnode, Option.bind_some]
    · rw [hconfig] at hother
      cases hother
      rw [hnode, Option.bind_some, htext, h]
  cases hbytes : Text.readText? bytes with
  | none =>
    -- bytes that are no text are no copy of any text
    refine ⟨stock', hstocked, fun text => iff_of_false (fun h => ?_) fun h => h.2 rfl⟩
    have := (hholds text).mp h
    rw [hbytes] at this
    cases this
  | some text =>
    exact ⟨text, stock', (hholds text).mpr hbytes, hgrown, hstocked.remember hconfig,
      hsource.modified⟩

/-- **A preparation that copies** remembers the configuration that it has copied. -/
theorem copyProject_remembers (hq : q.Stocked project last directory stock)
    (hconfig : project.config = some config)
    (htime : q.host.files.modified q.host.cwd config = .ok time) :
    Triple (·.quarters = q)
      (copyProject directory config project.stylesheet time : Action (Session τ) τ Unit)
      (fun _ t => ∃ text stock', project.Holds stock' text ∧ Grown stock stock' ∧
        t.quarters.Stocked project (some ⟨config, time, text⟩) directory stock' ∧
          t.quarters.host.files.modified t.quarters.host.cwd config = .ok time)
      (Disturbed project last directory stock) := by
  refine Triple.bind (S := fun _ t => t.quarters = q) (Triple.modify fun t ht => ht) fun _ => ?_
  refine Triple.bind (copyConfig_triple hq hconfig htime) fun _ => ?_
  rintro s ⟨bytes, stock', hcopied⟩
  refine (?_ : Triple (·.quarters = s.quarters) _ _ _) s rfl
  cases hsheet : project.stylesheet with
  | none =>
    refine (rememberCopy_triple hconfig).pre fun t ht => ⟨bytes, stock', ht ▸ hcopied, ?_⟩
    rintro sheet h
    cases hsheet.symm.trans h
  | some sheet =>
    refine copySheet_triple hcopied hsheet fun stock'' hsome =>
      (rememberCopy_triple hconfig).pre fun t ht => ?_
    refine ⟨bytes, stock'', ht, fun other hother => ?_⟩
    rw [hsheet] at hother
    cases hother
    exact hsome

theorem configTime_triple (config : Path) :
    Triple (·.quarters = q) (configTime config : Action (Session τ) τ Int)
      (fun time t => t.quarters = q ∧ q.host.files.modified q.host.cwd config = .ok time)
      (fun fault t => t.quarters = q ∧ fault.kind ≠ .notText) := by
  rintro s rfl
  rw [configTime, Action.apply_ofFun]
  cases hmodified : s.world.host.files.modified s.world.host.cwd config with
  | ok time => exact ⟨rfl, hmodified⟩
  | error refusal =>
    by_cases hgone : refusal = .notFound
    · subst hgone
      exact ⟨rfl, by simp [Fault.kind]⟩
    · cases refusal with
      | notFound => exact absurd rfl hgone
      | _ => exact ⟨rfl, kind_system_ne_notText _⟩

theorem isStaged_iff :
    s.isStaged config time = true ↔
      ∃ last, s.snapshot = some last ∧ last.path = config ∧ last.modified = time := by
  rw [isStaged]
  cases s.snapshot <;> simp

/-- **What is done for a project**: either what is remembered is the configuration as it is, and
the workspace stays as it was; or it is another one, and its copy is in the workspace. -/
theorem stageProject_triple (hq : q.Stocked project last directory stock)
    (hconfig : project.config = some config) :
    Triple (·.quarters = q)
      (stageProject directory config project.stylesheet : Action (Session τ) τ Unit)
      (fun _ t => ∃ kept stock', t.quarters.Stocked project (some kept) directory stock' ∧
        Grown stock stock' ∧ kept.path = config ∧
        t.quarters.host.files.modified t.quarters.host.cwd config = .ok kept.modified ∧
        t.activeConfig = some (directory.child config.name) ∧
        t.activeStylesheet = project.stylesheet.map (fun sheet => directory.child sheet.name) ∧
        (last = some kept ∧ stock' = stock ∨
          last ≠ some kept ∧ project.Holds stock' kept.content))
      (Disturbed project last directory stock) := by
  have hunchanged (fault : Fault τ) (t : Session τ) (ht : t.quarters = q)
      (hkind : fault.kind ≠ .notText) : Disturbed project last directory stock fault t :=
    ⟨stock, ht ▸ hq, fun text => (and_iff_left hkind).symm⟩
  refine Triple.bind ((configTime_triple config).post (fun _ _ h => h)
    fun fault t h => hunchanged fault t h.1 h.2) fun time => ?_
  rintro s ⟨hs, htime⟩
  refine (?_ : Triple (·.quarters = q) _ _ _) s hs
  refine Triple.get_bind fun s hs => Triple.ite (fun hother => ?_) fun hsame => ?_
  · refine Triple.bind ((copyProject_remembers hq hconfig htime).pre fun t ht => ht ▸ hs)
      fun _ => Triple.modify ?_
    rintro t ⟨text, stock', hholds, hgrown, hstocked, hmodified⟩
    refine ⟨_, stock', hstocked, hgrown, rfl, hmodified, rfl, rfl, .inr ⟨fun heq => ?_, hholds⟩⟩
    -- had it been remembered before, nothing would have been copied
    have hsnapshot : s.snapshot = some ⟨config, time, text⟩ := by
      rw [← heq, ← hq.snapshot, ← hs]
      rfl
    rw [isStaged_iff.mpr ⟨_, hsnapshot, rfl, rfl⟩] at hother
    cases hother
  · obtain ⟨kept, hkept, hpath, hmodified⟩ := isStaged_iff.mp (by simpa using hsame)
    have hlast : last = some kept := by
      rw [← hq.snapshot, ← hs]
      exact hkept
    refine Triple.modify ?_
    rintro t rfl
    refine ⟨kept, stock, ?_, grown_refl stock, hpath, ?_, rfl, rfl, .inl ⟨hlast, rfl⟩⟩
    · exact hlast ▸ hs ▸ hq
    · rw [hmodified]
      exact hs ▸ htime

/-! ### The files of the session's own -/

/-- What is done without a project: a configuration is there, and a stylesheet is shown if one
is. -/
theorem stageStandard_triple (hq : q.Stocked project last directory stock) :
    Triple (·.quarters = q) (stageStandard directory : Action (Session τ) τ Unit)
      (fun _ t => ∃ stock', t.quarters.Stocked project last directory stock' ∧
        Grown stock stock' ∧ (stock' configName).isSome = true ∧
        t.activeConfig = some (directory.child configName) ∧
        t.activeStylesheet = if (stock' stylesheetName).isSome then
          some (directory.child stylesheetName) else none)
      (fun _ _ => False) := by
  have hconfig : configName ≠ ".." := by decide +kernel
  have hsheet : stylesheetName ≠ ".." := by decide +kernel
  have hexists {s : Session τ} {stock' : String → Option Node} {name : String} (hname : name ≠ "..")
      (hs : s.quarters.Stocked project last directory stock') :
      s.world.exists? (directory.child name) = (stock' name).isSome := by
    rw [← hs.find? hname]
    rfl
  -- the last step shows the server what is there
  have hend (stock' : String → Option Node) (hthere : (stock' configName).isSome = true)
      (hgrown : Grown stock stock') :
      Triple (fun t : Session τ => t.quarters.Stocked project last directory stock')
        (modify fun s => { s with
          activeConfig := some (directory.child configName)
          activeStylesheet :=
            if s.world.exists? (directory.child stylesheetName) then
              some (directory.child stylesheetName) else none } : Action (Session τ) τ Unit)
        (fun _ t => ∃ stock', t.quarters.Stocked project last directory stock' ∧
          Grown stock stock' ∧ (stock' configName).isSome = true ∧
          t.activeConfig = some (directory.child configName) ∧
          t.activeStylesheet = if (stock' stylesheetName).isSome then
            some (directory.child stylesheetName) else none)
        (fun _ _ => False) := by
    refine Triple.modify fun t ht => ⟨stock', ht, hgrown, hthere, rfl, ?_⟩
    rw [← hexists hsheet ht]
  refine Triple.get_bind fun s hs => Triple.ite (fun _ => ?_) fun hthere => ?_
  · refine Triple.bind (S := fun _ t => t.quarters = q) (Triple.modify fun t ht => ht ▸ hs)
      fun _ => ?_
    refine Triple.bind (writeText_child hq hconfig (by decide +kernel) configText) fun _ => ?_
    rintro t ⟨config, ht⟩
    refine (?_ : Triple (·.quarters = t.quarters) _ _ _) t rfl
    refine Triple.bind (writeText_child ht hsheet (by decide +kernel) stylesheetText) fun _ => ?_
    rintro u ⟨stylesheet, hu⟩
    refine hend _ ?_ (((grown_refl stock).put _ _).put _ _) u hu
    exact (grown_refl _).put _ _ _ (by rw [Function.update_self]; rfl)
  · rw [hexists hconfig (hs ▸ hq)] at hthere
    refine (hend stock ?_ (grown_refl stock)).pre fun t ht => ht ▸ hs ▸ hq
    simpa [Option.isSome_iff_ne_none] using hthere

/-! ### All of it -/

theorem text?_eq (s : Session τ) (p : Path) :
    s.text? p = (s.world.host.files.find? s.world.host.cwd p).bind Node.text? := by
  rw [text?, FileTree.read, FileTree.find?]
  rcases s.world.host.files.find s.world.host.cwd p with fault | ⟨place, _ | _ | _⟩ <;> rfl

section

variable (hs : s.quarters.Stocked project last directory stock)
  (hdocument : (stock documentName).isSome = true)

include hs in
theorem isDirectory_of_stocked : s.world.isDirectory directory = true := by
  have hthere : s.world.host.files.inside? s.world.host.cwd directory = some stock := hs.inside
  have hisSome := FileTree.isSome_inside?.symm.trans (congrArg Option.isSome hthere)
  exact hisSome

include hs hdocument in
theorem document_of_stocked : ∃ p, s.document? = some p ∧ s.world.host.isFile p = true := by
  have hname : documentName ≠ ".." := by decide +kernel
  refine ⟨directory.child documentName, ?_, (hs.isFile hname).trans hdocument⟩
  rw [document?, show s.staging = some directory from hs.staging]
  rfl

include hs hdocument in
/-- With a project, the workspace is complete exactly if it holds the copy that is remembered. -/
theorem complete_iff_holds {kept : Snapshot} (hlast : last = some kept)
    (hconfig : project.config = some config) (hpath : kept.path = config)
    (hmodified : s.quarters.host.files.modified s.quarters.host.cwd config = .ok kept.modified)
    (hactive : s.activeConfig = some (directory.child config.name))
    (hsheet : s.activeStylesheet = project.stylesheet.map fun sheet => directory.child sheet.name) :
    s.Complete ↔ project.Holds stock kept.content := by
  have hproper : project.Proper := hs.project ▸ hs.sound.proper
  have hname := (hproper.config config hconfig).1
  have hstaging : s.staging = some directory := hs.staging
  have hsnapshot : s.snapshot = some kept := hs.snapshot.trans hlast
  have hproject : s.project = project := hs.project
  -- the configuration is read off the workspace under the name that it has in the project
  have htext : s.text? (directory.child config.name) = (stock config.name).bind Node.text? :=
    (text?_eq s _).trans (congrArg (Option.bind · _) (hs.find? hname))
  have hfile {name : String} (hname : name ≠ "..") :
      s.world.host.isFile (directory.child name) = (stock name).isSome := hs.isFile hname
  constructor
  · intro hcomplete
    refine ⟨fun other hother => ?_, fun sheet hthere => ?_⟩
    · obtain ⟨last, p, hlast', hp, hread, -⟩ :=
        hcomplete.faithful config (hproject ▸ hconfig)
      rw [hsnapshot] at hlast'
      rw [hactive] at hp
      rw [hconfig] at hother
      cases hlast'
      cases hp
      cases hother
      rw [← htext, hread]
    · have hshown : s.activeStylesheet = some (directory.child sheet.name) := by
        rw [hsheet, hthere]
        rfl
      obtain ⟨-, -, -, -, hisFile⟩ := hcomplete.stylesheet _ hshown
      rwa [hfile (hproper.stylesheet sheet hthere).1] at hisFile
  · intro hholds
    have hcopy := hholds.config config hconfig
    refine ⟨⟨directory, hstaging, isDirectory_of_stocked hs⟩, document_of_stocked hs hdocument,
      ⟨directory, config.name, hstaging, hactive, ?_⟩, fun p hp => ?_, fun other hother => ?_⟩
    · rw [hfile hname]
      exact Option.isSome_of_isSome_bind (by rw [hcopy]; rfl)
    · rw [hsheet] at hp
      obtain ⟨sheet, hthere, rfl⟩ := Option.map_eq_some_iff.mp hp
      refine ⟨directory, sheet.name, hstaging, rfl, ?_⟩
      rw [hfile (hproper.stylesheet sheet hthere).1]
      exact hholds.stylesheet sheet hthere
    · rw [hproject, hconfig] at hother
      cases hother
      exact ⟨kept, _, hsnapshot, hactive, htext.trans hcopy, hpath, hmodified⟩

include hs hdocument in
/-- Without a project, the workspace is complete if it has a configuration. -/
theorem complete_of_standard (hconfig : project.config = none)
    (hthere : (stock configName).isSome = true)
    (hactive : s.activeConfig = some (directory.child configName))
    (hsheet : s.activeStylesheet = if (stock stylesheetName).isSome then
      some (directory.child stylesheetName) else none) : s.Complete := by
  have hname : configName ≠ ".." := by decide +kernel
  have hname' : stylesheetName ≠ ".." := by decide +kernel
  have hstaging : s.staging = some directory := hs.staging
  refine ⟨⟨directory, hstaging, isDirectory_of_stocked hs⟩, document_of_stocked hs hdocument,
    ⟨directory, configName, hstaging, hactive, (hs.isFile hname).trans hthere⟩, fun p hp => ?_,
    fun config hc => ?_⟩
  · rw [hsheet] at hp
    split at hp
    · next hsome =>
      cases hp
      exact ⟨directory, stylesheetName, hstaging, rfl, (hs.isFile hname').trans hsome⟩
    · cases hp
  · rw [show s.project = project from hs.project, hconfig] at hc
    cases hc

end

theorem Quarters.Stocked.holdsCopy_iff (h : q.Stocked project last directory stock) :
    q.HoldsCopy ↔ ∀ kept, last = some kept → project.Holds stock kept.content := by
  rw [HoldsCopy, h.snapshot, h.project, h.content_eq]

/-- **Making the workspace ready.**  If it comes to its end, the workspace is complete exactly if it
holds the copy that is remembered, which is a new one, or the one of before and then it is held as
it was before.  If it breaks off, what is remembered stays, and the copy is still held unless text
that is none was copied over it. -/
theorem prepareWorkspace_triple (hq : q.Sound) :
    Triple (·.quarters = q) (prepareWorkspace : Action (Session τ) τ Unit)
      (fun _ t => t.quarters.Sound ∧ (t.Complete ↔ t.quarters.HoldsCopy) ∧
        (t.snapshot = q.snapshot ∧ (t.quarters.HoldsCopy ↔ q.HoldsCopy) ∨
          t.snapshot ≠ q.snapshot ∧ t.quarters.HoldsCopy))
      (fun fault t => t.quarters.Sound ∧ t.snapshot = q.snapshot ∧
        (t.quarters.HoldsCopy ↔
          q.HoldsCopy ∧ (q.snapshot.isSome = true → fault.kind ≠ .notText))) := by
  refine Triple.bind (S := fun directory t =>
    t.quarters.Stocked q.project q.snapshot directory q.content) ?_ fun directory => ?_
  · refine (stageDirectory_triple hq).post (fun _ _ h => h) ?_
    rintro fault t ⟨ht, hkind⟩
    exact ⟨ht ▸ hq, congrArg Quarters.snapshot ht, by rw [ht, and_iff_left fun _ => hkind]⟩
  rintro u hu
  refine (?_ : Triple (·.quarters = u.quarters) _ _ _) u rfl
  refine Triple.bind ((stageDocument_triple hu).post (fun _ _ h => h) fun _ _ h => h.elim)
    fun _ => ?_
  rintro w ⟨stock, hw, hsame, hdocument⟩
  -- the virtual document has no name that a file of the project has
  have hbefore (text : String) : q.project.Holds stock text ↔ q.project.Holds q.content text :=
    Project.Holds.congr hq.proper hsame
  refine (?_ : Triple (·.quarters = w.quarters) _ _ _) w rfl
  refine Triple.get_bind fun s hs => ?_
  have hproject : s.project = q.project := (congrArg Quarters.project hs).trans hw.project
  dsimp only
  rw [hproject]
  cases hconfig : q.project.config with
  | some config =>
    refine ((stageProject_triple hw hconfig).pre fun t ht => ht ▸ hs).post ?_ ?_
    · rintro ⟨⟩ t ⟨kept, stock', ht, hgrown, hpath, hmodified, hactive, hsheet, hkept⟩
      have hholds : t.quarters.HoldsCopy ↔ q.project.Holds stock' kept.content := by
        rw [ht.holdsCopy_iff]
        exact ⟨fun h => h kept rfl, fun h last hlast => Option.some_inj.mp hlast ▸ h⟩
      have hcomplete : t.Complete ↔ q.project.Holds stock' kept.content :=
        complete_iff_holds ht (hgrown _ hdocument) rfl hconfig hpath hmodified hactive hsheet
      refine ⟨ht.sound, hcomplete.trans hholds.symm, ?_⟩
      -- the configuration was relied on, or copied
      rcases hkept with ⟨hlast, rfl⟩ | ⟨hlast, hnew⟩
      · refine .inl ⟨ht.snapshot.trans hlast.symm, hholds.trans ((hbefore _).trans ?_)⟩
        exact ⟨fun h last hl => Option.some_inj.mp (hlast.symm.trans hl) ▸ h, fun h => h kept hlast⟩
      · exact .inr ⟨fun heq => hlast (heq.symm.trans ht.snapshot), hholds.mpr hnew⟩
    · rintro fault t ⟨stock', ht, hdisturbed⟩
      refine ⟨ht.sound, ht.snapshot, ?_⟩
      rw [ht.holdsCopy_iff, Quarters.HoldsCopy]
      cases q.snapshot with
      | none => simp
      | some kept => simp [hdisturbed, hbefore]
  | none =>
    refine ((stageStandard_triple hw).pre fun t ht => ht ▸ hs).post ?_ fun _ _ h => h.elim
    rintro ⟨⟩ t ⟨stock', ht, hgrown, hthere, hactive, hsheet⟩
    -- nothing is remembered without a project
    have hnone (kept : Snapshot) : q.snapshot ≠ some kept := by
      intro hkept
      rw [hq.path kept hkept] at hconfig
      cases hconfig
    have hcomplete := complete_of_standard ht (hgrown _ hdocument) hconfig hthere hactive hsheet
    have hholds : t.quarters.HoldsCopy :=
      ht.holdsCopy_iff.mpr fun kept hkept => absurd hkept (hnone kept)
    refine ⟨ht.sound, iff_of_true hcomplete hholds, .inl ⟨ht.snapshot, iff_of_true hholds ?_⟩⟩
    exact fun kept hkept => absurd hkept (hnone kept)

end ClassOrder.Session
