import ClassOrder.Proofs.Session.Course
import ClassOrder.Proofs.Session.Staging

/-!
# Whether the workspace is complete

A session remembers which configuration it has copied, but not whether the copy is there still.  The
workspace can be taken away in between, and then a new directory is made in which nothing is put but
the virtual document; and a preparation can break off after it has put something that is no text
over the copy.  In both cases the copy is *lost*, and stays lost until the project's configuration
is another one than the one remembered.  That is the only way in which a preparation that comes to
its end leaves an incomplete workspace.

## Main definitions

* `Turn.KeepsOut` — a turn puts nothing in the workspace from outside.
* `Turn.losesCopy`, `Session.copyLost` — the copy of the configuration is lost.

## Main results

* `Turn.take_copy` — what a turn makes of the copy.
* `preparation_complete_iff` — **a preparation leaves a complete workspace exactly if it does not
  rely on a copy that has been lost.**
-/

namespace ClassOrder

open ClassOrder.Action (Keeps Leaves Triple)
open ClassOrder.Session (Quarters quarters)

variable {τ : Type} [Timeline τ]

/-- Nothing is put in the workspace from outside, though it may be taken away; and the files stay a
tree. -/
def Turn.KeepsOut (s : Session τ) : Turn τ → Prop
  | edit change =>
    let q := s.quarters.withFiles (change s.world.host.files)
    q.host.files.Rooted ∧ (q.content? = none ∨ q.content? = s.quarters.content?)
  | call _ | pass _ | act _ | breakInput _ => True

/-- Whether a turn takes the workspace away from outside, or leaves it so. -/
def Turn.takesAway (s : Session τ) : Turn τ → Bool
  | edit change => (s.quarters.withFiles (change s.world.host.files)).content?.isNone
  | call _ | pass _ | act _ | breakInput _ => false

/-- Whether a turn makes the workspace ready and breaks off over bytes that are no text. -/
def Turn.spoils (s : Session τ) (turn : Turn τ) : Bool :=
  match turn.preparesFrom s with
  | some v =>
    match (Session.prepareWorkspace.apply v).1 with
    | .ok () => false
    | .error fault => fault.kind = .notText
  | none => false

/-- Whether a turn loses the copy of the configuration that is remembered. -/
def Turn.losesCopy (s : Session τ) (turn : Turn τ) : Bool :=
  s.snapshot.isSome && (turn.takesAway s || turn.spoils s)

/-- Whether the copy of the configuration that is remembered after a turn is lost; `was` tells
whether that of before was. -/
def Turn.copyLost (was : Bool) (s : Session τ) (turn : Turn τ) : Bool :=
  turn.losesCopy s || was && (turn.take s).2.snapshot = s.snapshot

/-- Whether the copy of the configuration that is remembered after a run is lost; `was` tells
whether that of before was. -/
def Session.copyLost (was : Bool) (s : Session τ) : List (Turn τ) → Bool
  | [] => was
  | turn :: turns => (turn.take s).2.copyLost (turn.copyLost was s) turns

namespace Session

variable {s t u v : Session τ}

/-! ### The quarters in a turn -/

theorem kept?_leaves_quarters (classes : String) :
    (kept? classes : Action (Session τ) τ (Option String)).Leaves quarters := by
  refine Leaves.of_apply fun s => ?_
  rw [kept?, Action.apply_ofFun]
  dsimp only
  split <;> rfl

theorem order_leaves_quarters (classes : String) :
    (order classes : Action (Session τ) τ String).Leaves quarters := by
  refine Leaves.bind (outward_changeDocument classes).leaves_quarters fun _ =>
    Leaves.get_bind fun _ => Leaves.bind (outward_call _ _).leaves_quarters fun result =>
      Leaves.bind (Leaves.ofExcept _) fun list => ?_
  split
  · exact Leaves.bind (Leaves.modify fun _ => rfl) fun _ => Leaves.pure _
  · exact Leaves.bind (Leaves.modify fun _ => rfl) fun _ => Leaves.pure _

theorem quarters_ensureStarted (u : Session τ) :
    (ensureStarted.apply u).2.quarters =
      match preparesFrom u with
      | some v => (prepareWorkspace.apply v).2.quarters
      | none => u.quarters := by
  have hpremises := congrArg Premises.quarters (premises_ensureStarted u)
  cases hprepares : preparesFrom u <;> rwa [hprepares] at hpremises

omit [Timeline τ] in
/-- Taking the workspace away takes its directory away if that is there, and does nothing else to
the files. -/
theorem removeWorkspace_files (q : Quarters) :
    Triple (·.quarters = q) (removeWorkspace : Action (Session τ) τ Unit)
      (fun _ t => ∃ files, t.quarters = q.withFiles files ∧
        ((files = q.host.files ∧ ∀ directory, q.staging = some directory →
            q.host.files.isDirectory q.host.cwd directory = false) ∨
          ∃ directory, q.staging = some directory ∧
            q.host.files.removeTree q.host.cwd directory = .ok files))
      (fun _ t => t.quarters = q) := by
  refine Triple.get_bind fun s hs => ?_
  subst hs
  split
  · next directory hstaging =>
    refine Triple.ite (fun _ => ?_) fun hgone => Triple.pure fun t ht => ?_
    · refine ((withFiles_triple _).pre fun t ht => ht ▸ rfl).post ?_ fun _ _ h => h.1
      rintro ⟨⟩ t ⟨files, hremoved, ht⟩
      exact ⟨files, ht, .inr ⟨directory, hstaging, hremoved⟩⟩
    · refine ⟨s.world.host.files, ht ▸ rfl, .inl ⟨rfl, fun other hother => ?_⟩⟩
      rw [show s.quarters.staging = _ from hstaging, Option.some_inj] at hother
      exact hother ▸ Bool.not_eq_true _ ▸ hgone
  · next hstaging =>
    refine Triple.pure fun t ht => ?_
    refine ⟨s.world.host.files, ht ▸ rfl, .inl ⟨rfl, fun other hother => ?_⟩⟩
    rw [show s.quarters.staging = _ from hstaging] at hother
    cases hother

/-- A cleanup that comes to its end leaves no workspace, and has taken its directory away if that
was there; another one leaves it as it is. -/
theorem cleanup_files (q : Quarters) :
    Triple (·.quarters = q) (cleanup : Action (Session τ) τ Unit)
      (fun _ t => ∃ files,
        t.quarters = { q.withFiles files with staging := none, snapshot := none } ∧
        ((files = q.host.files ∧ ∀ directory, q.staging = some directory →
            q.host.files.isDirectory q.host.cwd directory = false) ∨
          ∃ directory, q.staging = some directory ∧
            q.host.files.removeTree q.host.cwd directory = .ok files))
      (fun _ t => t.quarters = q) := by
  -- the server and the conversation are no part of the quarters
  refine Triple.bind (outward_stop.leaves_quarters q) fun _ =>
    Triple.bind (outward_abandon.leaves_quarters q) fun _ =>
      Triple.bind (removeWorkspace_files q) fun _ => ?_
  refine Triple.bind (S := fun _ t => ∃ files,
    t.quarters = { q.withFiles files with staging := none, snapshot := none } ∧ _)
    (Triple.modify ?_) fun _ => Triple.modify fun t ht => ht
  rintro t ⟨files, ht, hfiles⟩
  refine ⟨files, ?_, hfiles⟩
  rw [← ht]
  rfl

/-- A cleanup that comes to its end leaves no workspace, and another one leaves it as it is. -/
theorem cleanup_quarters {q : Quarters} (hq : q.Sound) :
    Triple (·.quarters = q) (cleanup : Action (Session τ) τ Unit)
      (fun _ t => t.quarters.Sound ∧ t.snapshot = none) (fun _ t => t.quarters = q) := by
  refine (cleanup_files q).post ?_ fun _ _ ht => ht
  rintro ⟨⟩ t ⟨files, ht, hfiles⟩
  have hrooted : files.Rooted := by
    rcases hfiles with ⟨rfl, -⟩ | ⟨directory, -, hremoved⟩
    · exact hq.rooted
    · exact FileTree.removeTree_rooted hq.rooted hremoved
  refine ⟨?_, congrArg Quarters.snapshot ht⟩
  rw [ht]
  exact ⟨hq.proper, hq.temporary, hrooted, fun name node hnode => (by cases hnode),
    fun last hlast => (by cases hlast)⟩

end Session

variable {s t u v : Session τ} {was : Bool}

theorem Turn.preparesFrom_of_ne {turn : Turn τ} (h : turn ≠ .call .prepare) :
    turn.preparesFrom s = (turn.startsFrom s).bind Session.preparesFrom := by
  cases turn with
  | call c =>
    cases c with
    | prepare => exact absurd rfl h
    | start | stop | abandon | cleanup | sort classes | sortOnce classes | project => rfl
  | pass time | edit change | act deeds | breakInput fault => rfl

/-- A turn that starts a server leaves the quarters as its start leaves them. -/
theorem Turn.quarters_of_start {turn : Turn τ} (h : turn.startsFrom s = some u) :
    u.quarters = s.quarters ∧
      (turn.take s).2.quarters = (Session.ensureStarted.apply u).2.quarters :=
  ⟨Turn.keeps_startsFrom (I := (·.quarters = s.quarters))
      (fun classes => Session.kept?_leaves_quarters classes _) h rfl,
    Turn.take_of_start (I := (·.quarters = (Session.ensureStarted.apply u).2.quarters))
      (fun classes => Session.order_leaves_quarters classes _)
      (Session.outward_askProject.leaves_quarters _) (Session.outward_stop.leaves_quarters _) h rfl⟩

/-- A turn that makes the workspace ready leaves the quarters as that leaves them. -/
theorem Turn.quarters_of_prepares {turn : Turn τ} (h : turn.preparesFrom s = some v) :
    v.quarters = s.quarters ∧
      (turn.take s).2.quarters = (Session.prepareWorkspace.apply v).2.quarters := by
  by_cases hturn : turn = .call .prepare
  · subst hturn
    cases h
    exact ⟨rfl, congrArg quarters (Action.snd_apply_bind_pure _ _ s)⟩
  · rw [preparesFrom_of_ne hturn] at h
    obtain ⟨u, hu, hprepares⟩ := Option.bind_eq_some_iff.mp h
    obtain ⟨hus, htake⟩ := Turn.quarters_of_start hu
    have hvu : v.quarters = u.quarters :=
      congrArg Session.Premises.quarters (Session.premises_preparesFrom hprepares)
    have hstarted := Session.quarters_ensureStarted u
    rw [hprepares] at hstarted
    exact ⟨hvu.trans hus, htake.trans hstarted⟩

/-- Any other turn leaves the quarters alone, save an edit and a cleanup. -/
theorem Turn.quarters_of_none {turn : Turn τ} (h : turn.preparesFrom s = none)
    (hedit : ∀ change, turn ≠ .edit change) (hcleanup : turn ≠ .call .cleanup) :
    (turn.take s).2.quarters = s.quarters := by
  have hturn : turn ≠ .call .prepare := by
    rintro rfl
    cases h
  rw [preparesFrom_of_ne hturn] at h
  -- a start without a preparation finds a server that is there
  cases hstarts : turn.startsFrom s with
  | some u =>
    obtain ⟨hus, htake⟩ := Turn.quarters_of_start hstarts
    have hstarted := Session.quarters_ensureStarted u
    rw [hstarts, Option.bind_some] at h
    rw [h] at hstarted
    exact htake.trans (hstarted.trans hus)
  | none =>
    cases turn with
    | call c =>
      exact Call.perform_of_none (I := (·.quarters = s.quarters))
        (fun classes => Session.kept?_leaves_quarters classes _)
        (Session.outward_stop.leaves_quarters _) (Session.outward_abandon.leaves_quarters _)
        (fun hc => absurd (congrArg Turn.call hc) hcleanup)
        (fun hc => absurd (congrArg Turn.call hc) hturn) hstarts rfl
    | pass time => rfl
    | edit change => exact absurd rfl (hedit change)
    | act deeds => rfl
    | breakInput fault => rfl

/-! ### Edits -/

omit [Timeline τ] in
/-- Rewriting a file that is not in the workspace, such as the project's configuration, keeps out of
the workspace. -/
theorem Turn.keepsOut_rewrite {place : Place} {old node : Node} {directory : Path}
    (hrooted : s.world.host.files.Rooted) (hstaging : s.staging = some directory)
    (hold : s.world.host.files.get? place = some old) (hfile : old.isFile = true)
    (hnode : node.isFile = true)
    (hout : s.world.host.files.find s.world.host.cwd directory ≠ .ok (place.dropLast, .directory)) :
    (Turn.edit (·.set place node) : Turn τ).KeepsOut s := by
  refine ⟨hrooted.set (hrooted _ _ hold) (fun hdirectory => ?_) node, .inr ?_⟩
  · rw [hold, Option.some_inj] at hdirectory
    rw [hdirectory] at hfile
    cases hfile
  · have hquarters : s.quarters.staging = some directory := hstaging
    rw [Quarters.content?, Quarters.content?, Quarters.withFiles, hquarters]
    exact FileTree.inside?_rewrite hold hfile hnode hout

omit [Timeline τ] in
/-- Taking the workspace away puts nothing in it. -/
theorem Turn.keepsOut_prune {place : Place} {directory : Path} {node : Node}
    (hrooted : s.world.host.files.Rooted) (hstaging : s.staging = some directory)
    (hfind : s.world.host.files.find s.world.host.cwd directory = .ok (place, node))
    (hplace : place ≠ []) : (Turn.edit (·.prune place) : Turn τ).KeepsOut s := by
  refine ⟨hrooted.prune place, .inl ?_⟩
  have hquarters : s.quarters.staging = some directory := hstaging
  rw [Quarters.content?, Quarters.withFiles, hquarters]
  exact FileTree.inside?_prune hfind hplace

/-! ### The copy of the configuration -/

theorem Turn.copyLost_eq_false {turn : Turn τ} :
    turn.copyLost was s = false ↔ turn.losesCopy s = false ∧
      (was = false ∨ (turn.take s).2.snapshot ≠ s.snapshot) := by
  simp [Turn.copyLost, imp_iff_not_or]

theorem Turn.losesCopy_eq_false {turn : Turn τ} :
    turn.losesCopy s = false ↔
      (s.snapshot.isSome = true → turn.takesAway s = false ∧ turn.spoils s = false) := by
  simp [Turn.losesCopy, imp_iff_not_or]

omit [Timeline τ] in
theorem Turn.takesAway_of_ne {turn : Turn τ} (h : ∀ change, turn ≠ .edit change) :
    turn.takesAway s = false := by
  cases turn with
  | edit change => exact absurd rfl (h change)
  | call c | pass time | act deeds | breakInput fault => rfl

/-- Only a preparation and an edit can lose the copy. -/
theorem Turn.losesCopy_of_none {turn : Turn τ} (hprepares : turn.preparesFrom s = none)
    (hedit : ∀ change, turn ≠ .edit change) : turn.losesCopy s = false := by
  have hspoils : turn.spoils s = false := by rw [spoils, hprepares]
  rw [losesCopy, takesAway_of_ne hedit, hspoils, Bool.or_false, Bool.and_false]

/-- A preparation that comes to its end loses no copy, and one that breaks off does if it has put
bytes that are no text over it. -/
theorem Turn.take_copy_of_prepares {turn : Turn τ} (hprepares : turn.preparesFrom s = some v)
    (hs : s.quarters.Sound) (hcopy : s.quarters.HoldsCopy ↔ was = false) :
    (turn.take s).2.quarters.Sound ∧
      ((turn.take s).2.quarters.HoldsCopy ↔ turn.copyLost was s = false) := by
  obtain ⟨hv, htake⟩ := Turn.quarters_of_prepares hprepares
  have hsnapshot : (turn.take s).2.snapshot = (Session.prepareWorkspace.apply v).2.snapshot :=
    congrArg Quarters.snapshot htake
  have haway : turn.takesAway s = false := by
    refine Turn.takesAway_of_ne ?_
    rintro change rfl
    cases hprepares
  have hspec := Session.prepareWorkspace_triple hs v hv
  rw [Turn.copyLost_eq_false, Turn.losesCopy_eq_false, htake, hsnapshot, haway, Turn.spoils,
    hprepares]
  dsimp only
  generalize Session.prepareWorkspace.apply v = prepared at hspec
  obtain ⟨fault | ⟨⟩, t⟩ := prepared
  · -- broken off: what is remembered has not changed
    obtain ⟨hsound, hsame, hholds⟩ := hspec
    refine ⟨hsound, ?_⟩
    rw [hholds, hcopy]
    simp [show t.snapshot = s.snapshot from hsame, show s.quarters.snapshot = s.snapshot from rfl,
      and_comm]
  · obtain ⟨hsound, -, ⟨hsame, hholds⟩ | ⟨hother, hholds⟩⟩ := hspec
    · refine ⟨hsound, ?_⟩
      rw [hholds, hcopy]
      simp [show t.snapshot = s.snapshot from hsame]
    · exact ⟨hsound, iff_of_true hholds ⟨by simp, .inr hother⟩⟩

omit [Timeline τ] in
theorem Turn.sound_of_edit {change : FileTree → FileTree}
    (hout : (Turn.edit change : Turn τ).KeepsOut s) (hs : s.quarters.Sound) :
    (s.quarters.withFiles (change s.world.host.files)).Sound := by
  obtain ⟨hrooted, hcontent⟩ := hout
  refine ⟨hs.proper, hs.temporary, hrooted, fun name node hnode => ?_, hs.path⟩
  rcases hcontent with hgone | hsame
  · rw [Quarters.content, hgone] at hnode
    cases hnode
  · rw [Quarters.content, hsame] at hnode
    exact hs.plain name node hnode

/-- An edit that keeps out of the workspace loses the copy if it takes the workspace away. -/
theorem Turn.take_copy_of_edit {change : FileTree → FileTree}
    (hout : (Turn.edit change : Turn τ).KeepsOut s) (hs : s.quarters.Sound)
    (hcopy : s.quarters.HoldsCopy ↔ was = false) :
    ((Turn.edit change).take s).2.quarters.HoldsCopy ↔
      (Turn.edit change).copyLost was s = false := by
  let q := s.quarters.withFiles (change s.world.host.files)
  have htake : ((Turn.edit change).take s).2.quarters = q := rfl
  have hsnapshot : ((Turn.edit change).take s).2.snapshot = s.snapshot := rfl
  have hlast : q.snapshot = s.snapshot := rfl
  have hspoils : (Turn.edit change : Turn τ).spoils s = false := rfl
  have haway : (Turn.edit change : Turn τ).takesAway s = q.content?.isNone := rfl
  rw [Turn.copyLost_eq_false, Turn.losesCopy_eq_false, htake, hsnapshot, hspoils, haway]
  cases hthere : q.content? with
  | none =>
    rw [(Turn.sound_of_edit hout hs).holdsCopy_of_gone hthere, hlast]
    cases hsnap : s.snapshot with
    | some last => simp
    | none => simp [hcopy.mp (Quarters.holdsCopy_of_none hsnap)]
  | some stock =>
    have hsame : q.content = s.quarters.content := by
      rcases hout.2 with hgone | hsame
      · rw [show q.content? = none from hgone] at hthere
        cases hthere
      · rw [Quarters.content, show q.content? = _ from hsame]
        rfl
    have hholds : q.HoldsCopy ↔ s.quarters.HoldsCopy := by
      rw [Quarters.HoldsCopy, hsame]
      rfl
    rw [hholds, hcopy]
    simp

/-- A turn that leaves the quarters alone leaves the copy alone. -/
theorem Turn.take_copy_of_eq {turn : Turn τ} (hloses : turn.losesCopy s = false)
    (heq : (turn.take s).2.quarters = s.quarters) (hcopy : s.quarters.HoldsCopy ↔ was = false) :
    (turn.take s).2.quarters.HoldsCopy ↔ turn.copyLost was s = false := by
  have hsnapshot : (turn.take s).2.snapshot = s.snapshot := congrArg Quarters.snapshot heq
  rw [copyLost, hloses, hsnapshot, heq, hcopy]
  simp

/-- A cleanup that comes to its end forgets the copy, and another one leaves it alone. -/
theorem Turn.take_copy_of_cleanup (hs : s.quarters.Sound)
    (hcopy : s.quarters.HoldsCopy ↔ was = false) :
    ((Turn.call .cleanup).take s).2.quarters.Sound ∧
      (((Turn.call .cleanup).take s).2.quarters.HoldsCopy ↔
        (Turn.call .cleanup).copyLost was s = false) := by
  have hloses : (Turn.call .cleanup : Turn τ).losesCopy s = false :=
    losesCopy_of_none rfl (by rintro change ⟨⟩)
  have htake : ((Turn.call .cleanup).take s).2 = (Session.cleanup.apply s).2 :=
    Action.snd_apply_bind_pure _ _ s
  have hspec := Session.cleanup_quarters hs s rfl
  split at hspec
  · next t heq =>
    rw [heq] at htake
    rw [Turn.copyLost_eq_false, htake, hspec.2]
    refine ⟨hspec.1, iff_of_true (Quarters.holdsCopy_of_none hspec.2) ⟨hloses, ?_⟩⟩
    cases hlast : s.snapshot with
    | none => exact .inl (hcopy.mp (Quarters.holdsCopy_of_none hlast))
    | some last => exact .inr (by simp)
  · next fault t heq =>
    rw [heq] at htake
    have hsame : ((Turn.call .cleanup).take s).2.quarters = s.quarters := htake ▸ hspec
    exact ⟨hsame ▸ hs, Turn.take_copy_of_eq hloses hsame hcopy⟩

/-- **What a turn makes of the copy**: it is held after the turn exactly if it is not lost. -/
theorem Turn.take_copy {turn : Turn τ} (hout : turn.KeepsOut s) (hs : s.quarters.Sound)
    (hcopy : s.quarters.HoldsCopy ↔ was = false) :
    (turn.take s).2.quarters.Sound ∧
      ((turn.take s).2.quarters.HoldsCopy ↔ turn.copyLost was s = false) := by
  cases hprepares : turn.preparesFrom s with
  | some v => exact Turn.take_copy_of_prepares hprepares hs hcopy
  | none =>
    by_cases hedit : ∃ change, turn = .edit change
    · obtain ⟨change, rfl⟩ := hedit
      exact ⟨Turn.sound_of_edit hout hs, Turn.take_copy_of_edit hout hs hcopy⟩
    by_cases hcleanup : turn = .call .cleanup
    · exact hcleanup ▸ Turn.take_copy_of_cleanup hs hcopy
    have hedit' (change : FileTree → FileTree) : turn ≠ .edit change := fun h => hedit ⟨change, h⟩
    have hsame := Turn.quarters_of_none hprepares hedit' hcleanup
    exact ⟨hsame ▸ hs,
      Turn.take_copy_of_eq (Turn.losesCopy_of_none hprepares hedit') hsame hcopy⟩

/-- **A run holds its copy** exactly if it is not lost. -/
theorem Session.run_copy {turns : List (Turn τ)} (hs : s.quarters.Sound)
    (hcopy : s.quarters.HoldsCopy ↔ was = false)
    (hout : ∀ earlier turn, earlier ++ [turn] <+: turns → turn.KeepsOut (s.run earlier)) :
    (s.run turns).quarters.Sound ∧
      ((s.run turns).quarters.HoldsCopy ↔ s.copyLost was turns = false) := by
  -- whether the copy was lost before is carried along
  induction turns generalizing s was with
  | nil => exact ⟨hs, hcopy⟩
  | cons turn turns ih =>
    obtain ⟨hs', hcopy'⟩ := Turn.take_copy (hout [] turn ⟨turns, rfl⟩) hs hcopy
    refine ih hs' hcopy' fun earlier next hearlier => ?_
    exact hout (turn :: earlier) next ((List.prefix_cons_inj turn).mpr hearlier)

/-- **When a preparation leaves a complete workspace.**  Let nobody else put anything in the
workspace in a run, though it may be taken away and everything else may be edited.  Then a
preparation that comes to its end leaves a complete workspace, unless the copy of the configuration
has been lost and the preparation still relies on it: the workspace had been taken away, or bytes
that are no text had been put over the copy, and what is remembered has stayed the same. -/
theorem preparation_complete_iff (settings : Settings τ) (project : Project) (world : World τ)
    (turns : List (Turn τ)) (turn : Turn τ) (hproject : project.Proper)
    (htemporary : world.temporary.absolute = true) (hrooted : world.host.files.Rooted)
    (hout : ∀ earlier turn, earlier ++ [turn] <+: turns →
      turn.KeepsOut ((Session.ofProject settings project world).run earlier))
    (hprepares : turn.preparesFrom ((Session.ofProject settings project world).run turns) = some v)
    (hrun : Session.prepareWorkspace.apply v = (.ok (), t)) :
    t.Complete ↔
      ¬ ((Session.ofProject settings project world).copyLost false turns = true ∧
        t.snapshot = v.snapshot) := by
  let s := Session.ofProject settings project world
  have hs : s.quarters.Sound :=
    ⟨hproject, htemporary, hrooted, fun _ _ hnode => (by cases hnode),
      fun _ hlast => (by cases hlast)⟩
  have hcopy : s.quarters.HoldsCopy ↔ false = false :=
    iff_of_true (fun _ hlast => by cases hlast) rfl
  obtain ⟨hsound, hholds⟩ := Session.run_copy hs hcopy hout
  obtain ⟨hv, -⟩ := Turn.quarters_of_prepares hprepares
  obtain ⟨-, hcomplete, hcases⟩ :=
    (Session.prepareWorkspace_triple (hv ▸ hsound)).of_ok rfl hrun
  rw [hcomplete]
  rcases hcases with ⟨hsame, hiff⟩ | ⟨hother, hnew⟩
  · rw [hiff, hv, hholds]
    have hsame : t.snapshot = v.snapshot := hsame
    simp [hsame, s]
  · exact iff_of_true hnew fun h => hother h.2

/-- A project with a configuration and a stylesheet. -/
def stagedFiles : FileTree :=
  ⟨[(["w"], .directory), (["w", "tailwind.config.js"], .file [97] 1 false),
    (["w", "styles.css"], .file [98] 1 false)]⟩

/-- A session for that project. -/
def stagedSession : Session ℚ :=
  sampleSession (findProject { files := stagedFiles } .standard ["w"]) stagedFiles {}

/-- The configuration is changed after it was copied, and copied again. -/
def restaged : List (Turn ℚ) :=
  [.call .prepare, .edit (·.set ["w", "tailwind.config.js"] (.file [99] 2 false)), .call .prepare]

/-- The workspace is taken away after that. -/
def takenAway : List (Turn ℚ) := restaged ++ [.edit (·.prune ["tailwind_sorter_w"])]

theorem preparation_complete_iff_takenAway :
    (∀ earlier turn, earlier ++ [turn] <+: takenAway →
        turn.KeepsOut (stagedSession.run earlier)) ∧
      (Session.prepareWorkspace.apply (stagedSession.run restaged)).1.isOk = true ∧
      (Session.prepareWorkspace.apply (stagedSession.run restaged)).2.Complete ∧
      (Session.prepareWorkspace.apply (stagedSession.run takenAway)).1.isOk = true ∧
      ¬ (Session.prepareWorkspace.apply (stagedSession.run takenAway)).2.Complete := by
  have hrooted : stagedFiles.Rooted := FileTree.rooted_of_nodes (by decide +kernel)
  have hproject := findProject_proper Patterns.standard_proper { files := stagedFiles } ["w"]
  have hout : ∀ earlier turn, earlier ++ [turn] <+: takenAway →
      turn.KeepsOut (stagedSession.run earlier) := by
    rintro earlier turn ⟨later, hlater⟩
    rcases earlier with _ | ⟨a, _ | ⟨b, _ | ⟨c, _ | ⟨d, more⟩⟩⟩⟩
    · obtain ⟨rfl, -⟩ := List.cons_eq_cons.mp hlater
      trivial
    · obtain ⟨rfl, rfl, -⟩ := by simpa [takenAway, restaged] using hlater
      have hstaging : (stagedSession.run [.call .prepare]).staging =
          some (.ofString "/tailwind_sorter_w") := by decide +kernel
      have hold : (stagedSession.run [.call .prepare]).world.host.files.get?
          ["w", "tailwind.config.js"] = some (.file [97] 1 false) := by decide +kernel
      exact Turn.keepsOut_rewrite (FileTree.rooted_of_nodes (by decide +kernel)) hstaging hold rfl
        rfl (by decide +kernel)
    · obtain ⟨rfl, rfl, rfl, -⟩ := by simpa [takenAway, restaged] using hlater
      trivial
    · obtain ⟨rfl, rfl, rfl, rfl, -⟩ := by simpa [takenAway, restaged] using hlater
      have hstaging : (stagedSession.run restaged).staging =
          some (.ofString "/tailwind_sorter_w") := by decide +kernel
      have hfind : (stagedSession.run restaged).world.host.files.find []
          (.ofString "/tailwind_sorter_w") = .ok (["tailwind_sorter_w"], .directory) := by
        decide +kernel
      exact Turn.keepsOut_prune (FileTree.rooted_of_nodes (by decide +kernel)) hstaging hfind
        (by simp)
    · simp [takenAway, restaged] at hlater
  have hcomplete {turns : List (Turn ℚ)} {t : Session ℚ} (hturns : turns <+: takenAway)
      (hrun : Session.prepareWorkspace.apply (stagedSession.run turns) = (.ok (), t)) :
      t.Complete ↔ ¬ (stagedSession.copyLost false turns = true ∧
        t.snapshot = (stagedSession.run turns).snapshot) :=
    preparation_complete_iff _ _ _ turns (.call .prepare) hproject rfl hrooted
      (fun earlier turn hearlier => hout earlier turn (hearlier.trans hturns)) rfl hrun
  have hrestaged : restaged <+: takenAway := List.prefix_append _ _
  have hheld : stagedSession.copyLost false restaged = false := by decide +kernel
  have hlost : stagedSession.copyLost false takenAway = true := by decide +kernel
  have hok : (Session.prepareWorkspace.apply (stagedSession.run restaged)).1.isOk = true := by
    decide +kernel
  have hok' : (Session.prepareWorkspace.apply (stagedSession.run takenAway)).1.isOk = true := by
    decide +kernel
  have hsame : (Session.prepareWorkspace.apply (stagedSession.run takenAway)).2.snapshot =
      (stagedSession.run takenAway).snapshot := by decide +kernel
  refine ⟨hout, hok, ?_, hok', ?_⟩
  · rw [hcomplete hrestaged (Action.apply_of_isOk hok), hheld]
    simp
  · rw [hcomplete (List.prefix_refl _) (Action.apply_of_isOk hok')]
    exact fun h => h ⟨hlost, hsame⟩

/-- Bytes that are no text lose the copy as well, also if the configuration is put back. -/
example : stagedSession.copyLost false
    [.call .prepare, .edit (·.set ["w", "tailwind.config.js"] (.file [255] 2 false)),
      .call .prepare, .edit (·.set ["w", "tailwind.config.js"] (.file [97] 1 false))] = true := by
  decide +kernel

end ClassOrder
