import ClassOrder.Proofs.Session.Furnishing
import ClassOrder.Proofs.Session.Housing
import Mathlib.Data.List.Basic
import Mathlib.Data.List.Induction

/-!
# The one directory of a session

A session makes a directory when it has none, and remembers it until it has taken it away.  So of
all the directories that it has ever made, one at most is there, and that is the one that it
remembers; and whatever it writes is a file right in that directory.  All of this holds as long as
nobody else takes files away from the directory or puts any in, and whatever else happens to the
files.

## Main definitions

* `Session.Home` — the place of the directory that a session remembers.
* `Session.Made` — a directory that a session has made and that has been there ever since.
* `Session.Stood` — what has been there throughout a run.
* `Turn.SparesHome` — nobody else takes files away from the directory or puts any in.
* `Session.Changes` — the changes that an operation may make.
* `Session.SparedRun` — a run that spares the directory.

## Main results

* `Turn.take_moves` — a turn makes the directory, leaves it or takes it away.
* `Session.run_home` — **the directories that a session has made and that are there are the one that
  it remembers.**
* `Session.Stood.unchanged` — what has been there throughout a run is not changed.
* `workspace_confined` — **a session keeps to its directory.**
-/

namespace ClassOrder

open ClassOrder.Action (Keeps Leaves Triple)
open ClassOrder.Session (Quarters quarters)

variable {τ : Type}

namespace Session

/-- What stands at a place. -/
def at? (s : Session τ) (place : Place) : Option Node := s.world.host.files.get? place

/-- The place of the directory that a session remembers. -/
def Home (s : Session τ) (home : Place) : Prop := s.quarters.Home home

/-- What an operation may change from one session to the next: it makes a new directory and
remembers it, it puts a file of the workspace right in the directory that it remembers, where there
was none or over the copy of the configuration, or it takes the directory away in a cleanup, with
all that is in it. -/
inductive Changes (project : Project) (c : Call) (s t : Session τ) : Place → Prop
  | makes {home : Place} :
      s.staging = none → s.at? home = none → t.Home home → Changes project c s t home
  | puts {home : Place} {name : String} {node : Node} :
      t.Home home → project.Stages name → t.at? (home ++ [name]) = some node →
      node.isFile = true → (s.at? (home ++ [name]) = none ∨ project.Renews name) →
        Changes project c s t (home ++ [name])
  | removes {home place : Place} :
      c = .cleanup → s.Home home → home <+: place → t.at? place = none →
        Changes project c s t place

end Session

/-- Nobody takes files away from the directory that a session remembers or puts any in, nor puts it
elsewhere; the files that are in it may be rewritten, and so may all else. -/
def Turn.SparesHome (s : Session τ) : Turn τ → Prop
  | edit change =>
    let files := change s.world.host.files
    files.Rooted ∧ ∀ directory home, s.staging = some directory →
      s.world.host.files.find s.world.host.cwd directory = .ok (home, .directory) →
        files.find s.world.host.cwd directory = .ok (home, .directory) ∧
          ∀ name, (files.get? (home ++ [name])).map Node.isFile =
            (s.world.host.files.get? (home ++ [name])).map Node.isFile
  | call _ | pass _ | act _ | breakInput _ => True

/-! ### The directory in the quarters -/

namespace Session.Quarters

variable {q r : Quarters} {directory : Path} {home place : Place}

theorem Lodged.lodges_home (hq : q.Lodged) (hhome : q.Home home) :
    ∃ directory, q.staging = some directory ∧
      q.host.files.Lodges q.host.cwd directory home := by
  obtain ⟨directory, hstaging, hfind⟩ := hhome
  obtain ⟨home', hlodges, -⟩ := hq.lodges directory hstaging
  have hfound := hlodges.found
  rw [hfind] at hfound
  cases hfound
  exact ⟨directory, hstaging, hlodges⟩

theorem Prepared.staging (h : q.Prepared r) (hstaging : q.staging = some directory) :
    r.staging = some directory := by
  cases h with
  | refused => exact hstaging
  | kept hthere _ hr => exact hr.staging.trans (hthere.symm.trans hstaging)
  | founded hnone _ _ =>
    rw [hnone] at hstaging
    cases hstaging

theorem Prepared.project (h : q.Prepared r) : r.project = q.project := by
  cases h with
  | refused => rfl
  | kept _ _ hr => exact hr.project
  | founded _ _ hr => exact hr.project

/-- A preparation leaves the directory where it is. -/
theorem Prepared.isHome (h : q.Prepared r) (hhome : q.Home home) : r.Home home := by
  cases h with
  | refused => exact hhome
  | kept hthere hlodges hr =>
    obtain rfl := Home.unique ⟨_, hthere, hlodges.found⟩ hhome
    exact hr.isHome
  | founded hnone _ _ =>
    obtain ⟨directory, hstaging, -⟩ := hhome
    rw [hnone] at hstaging
    cases hstaging

/-- The directory after a preparation is the one from before, or the only one that is new. -/
theorem Prepared.home_iff (h : q.Prepared r) (hq : q.Lodged) :
    r.Home place ↔ (q.Home place ∧ r.host.files.get? place = some .directory) ∨
      (q.host.files.get? place ≠ some .directory ∧
        r.host.files.get? place = some .directory) := by
  constructor
  · intro hplace
    by_cases hthere : q.host.files.get? place = some .directory
    · refine .inl ⟨?_, hplace.get?⟩
      cases h with
      | refused => exact hplace
      | kept hstaging hlodges hr =>
        obtain rfl := hr.isHome.unique hplace
        exact ⟨_, hstaging, hlodges.found⟩
      | founded _ hnew hr =>
        obtain rfl := hr.isHome.unique hplace
        rw [hnew] at hthere
        cases hthere
    · exact .inr ⟨hthere, hplace.get?⟩
  · rintro (⟨hplace, -⟩ | ⟨hnew, hthere⟩)
    · exact h.isHome hplace
    · cases h with
      | refused => exact absurd hthere hnew
      | kept hstaging hlodges hr =>
        exact absurd ((hr.furnished.directory_iff hlodges.plain).mp hthere) hnew
      | @founded directory home r hnone hempty hr =>
        by_cases hplace : place = home
        · exact hplace ▸ hr.isHome
        · -- nothing but the new directory has become one
          have hplain (name : String) (node : Node)
              (hnode : (q.host.files.set home .directory).get? (home ++ [name]) = some node) :
              node.isFile = true := by
            rw [FileTree.get?_set_of_ne (by simp), hq.rooted.get?_below hempty] at hnode
            cases hnode
          rw [hr.furnished.directory_iff hplain, FileTree.get?_set_of_ne hplace] at hthere
          exact absurd hthere hnew

/-- What a preparation changes is the directory that it makes, and files of the workspace in it. -/
theorem Prepared.get? (h : q.Prepared r) (place : Place) :
    r.host.files.get? place = q.host.files.get? place ∨
      (q.staging = none ∧ q.host.files.get? place = none ∧ r.Home place) ∨
        ∃ home name node, r.Home home ∧ place = home ++ [name] ∧ q.project.Stages name ∧
          r.host.files.get? place = some node ∧ node.isFile = true ∧
            (q.host.files.get? place = none ∨ q.project.Renews name) := by
  cases h with
  | refused => exact .inl rfl
  | @kept directory home r _ _ hr =>
    rcases hr.furnished place with hsame | ⟨name, node, hput⟩
    · exact .inl hsame
    · exact .inr (.inr ⟨home, name, node, hr.isHome, hput⟩)
  | @founded directory home r hnone hnew hr =>
    by_cases hplace : place = home
    · exact .inr (.inl ⟨hnone, hplace ▸ hnew, hplace ▸ hr.isHome⟩)
    · have hput := hr.furnished place
      rw [FileTree.get?_set_of_ne hplace] at hput
      rcases hput with hsame | ⟨name, node, hput⟩
      · exact .inl hsame
      · exact .inr (.inr ⟨home, name, node, hr.isHome, hput⟩)

/-- What a cleanup that comes to its end leaves of some quarters. -/
structure Cleared (q r : Quarters) : Prop where
  project : r.project = q.project
  staging : r.staging = none
  kept : q.staging = none → r.host.files = q.host.files
  pruned : ∀ home, q.Home home → r.host.files = q.host.files.prune home ∧ home ≠ []

/-- What a cleanup changes is in the directory, and is taken away with it. -/
theorem Cleared.get? (h : q.Cleared r) (hq : q.Lodged) (place : Place) :
    r.host.files.get? place = q.host.files.get? place ∨
      ∃ home, q.Home home ∧ home <+: place ∧ r.host.files.get? place = none := by
  cases hstaging : q.staging with
  | none =>
    rw [h.kept hstaging]
    exact .inl rfl
  | some directory =>
    obtain ⟨home, hlodges, -⟩ := hq.lodges directory hstaging
    have hhome : q.Home home := ⟨directory, hstaging, hlodges.found⟩
    rw [(h.pruned home hhome).1]
    by_cases hroot : place = []
    · exact hroot ▸ .inl rfl
    · rw [FileTree.get?_prune hroot]
      split
      · next hbelow => exact .inr ⟨home, hhome, List.isPrefixOf_iff_prefix.mp hbelow, rfl⟩
      · exact .inl rfl

/-- After a cleanup the directory is not there. -/
theorem Cleared.get?_home (h : q.Cleared r) (hhome : q.Home home) :
    r.host.files.get? home = none := by
  obtain ⟨hfiles, hne⟩ := h.pruned home hhome
  rw [hfiles, FileTree.get?_prune hne, if_pos (by simp)]

/-- The directory is taken away at the place to which its path leads. -/
theorem Lodged.removeTree {files : FileTree} (hq : q.Lodged)
    (hplaced : ∃ (above : Path) (name : String), name ≠ ".." ∧ directory = above.child name)
    (hstaging : q.staging = some directory)
    (hremoved : q.host.files.removeTree q.host.cwd directory = .ok files) (hhome : q.Home home) :
    files = q.host.files.prune home ∧ home ≠ [] := by
  obtain ⟨directory', hstaging', hlodges⟩ := hq.lodges_home hhome
  rw [hstaging, Option.some_inj] at hstaging'
  subst hstaging'
  obtain ⟨above, name, hname, rfl⟩ := hplaced
  exact hlodges.removeTree hname hremoved

end Session.Quarters

variable {s t : Session τ} {turn : Turn τ} {home place : Place}

theorem Session.changes_of_prepared {c : Call} (h : s.quarters.Prepared t.quarters)
    (hplace : t.at? place ≠ s.at? place) :
    Session.Changes s.project c s t place := by
  rcases h.get? place with hsame | ⟨hnone, hnew, hhome⟩ | ⟨home, name, node, hhome, rfl, hput⟩
  · exact absurd hsame hplace
  · exact .makes hnone hnew hhome
  · obtain ⟨hstages, hnode, hfile, hold⟩ := hput
    exact .puts hhome hstages hnode hfile hold

theorem Session.changes_of_cleared {c : Call} (hc : c = .cleanup) (hs : s.quarters.Lodged)
    (h : s.quarters.Cleared t.quarters) (hplace : t.at? place ≠ s.at? place) :
    Session.Changes s.project c s t place := by
  rcases h.get? hs place with hsame | ⟨home, hhome, hbelow, hgone⟩
  · exact absurd hsame hplace
  · exact .removes hc hhome hbelow hgone

/-- Where there is a new directory, nothing stood before. -/
theorem Session.Changes.of_directory {project : Project} {c : Call}
    (h : Session.Changes project c s t place) (hdirectory : t.at? place = some .directory) :
    s.at? place = none := by
  cases h with
  | makes _ hnew _ => exact hnew
  | puts _ _ hnode hfile _ =>
    rw [hnode, Option.some_inj] at hdirectory
    rw [hdirectory] at hfile
    cases hfile
  | removes _ _ _ hgone => cases hgone.symm.trans hdirectory

/-! ### Turns -/

variable [Timeline τ]

/-- Whatever is neither an edit nor a cleanup makes the workspace ready or leaves it alone. -/
theorem Turn.take_prepared (hs : s.quarters.Lodged) (hedit : ∀ change, turn ≠ .edit change)
    (hcleanup : turn ≠ .call .cleanup) :
    s.quarters.Prepared (turn.take s).2.quarters ∧ (turn.take s).2.quarters.Lodged := by
  cases hprepares : turn.preparesFrom s with
  | none =>
    rw [Turn.quarters_of_none hprepares hedit hcleanup]
    exact ⟨.refused, hs⟩
  | some v =>
    obtain ⟨hv, htake⟩ := Turn.quarters_of_prepares hprepares
    have hspec := Session.prepareWorkspace_prepared hs v hv
    rw [htake]
    split at hspec
    · next heq => rwa [heq]
    · next heq => rwa [heq]

/-- **A cleanup** that comes to its end takes the directory away and forgets it, and another one
changes nothing. -/
theorem Turn.take_cleanup (hs : s.quarters.Lodged) (hhoused : s.Housed) :
    Triple (· = s) (Call.perform .cleanup)
      (fun _ t => s.quarters.Cleared t.quarters ∧ t.quarters.Lodged)
      (fun _ t => t.quarters = s.quarters) := by
  refine Triple.bind (S := fun _ t => s.quarters.Cleared t.quarters ∧ t.quarters.Lodged) ?_
    fun _ => Triple.pure fun _ h => h
  refine ((Session.cleanup_files s.quarters).pre fun t ht => congrArg quarters ht).post ?_
    fun _ _ ht => ht
  rintro ⟨⟩ t ⟨files, ht, hfiles⟩
  rw [ht]
  rcases hfiles with ⟨rfl, hgone⟩ | ⟨directory, hstaging, hremoved⟩
  · refine ⟨⟨rfl, rfl, fun _ => rfl, fun home hhome => ?_⟩,
      ⟨hs.proper, hs.apart, hs.temporary, hs.rooted, nofun⟩⟩
    -- the directory that is remembered is there
    obtain ⟨directory, hstaging, hlodges⟩ := hs.lodges_home hhome
    have hthere := hlodges.isDirectory
    rw [hgone directory hstaging] at hthere
    cases hthere
  · refine ⟨⟨rfl, rfl, fun hnone => ?_, fun home hhome => ?_⟩,
      ⟨hs.proper, hs.apart, hs.temporary, FileTree.removeTree_rooted hs.rooted hremoved, nofun⟩⟩
    · rw [hnone] at hstaging
      cases hstaging
    · exact hs.removeTree (hhoused.placed directory hstaging) hstaging hremoved hhome

/-- An edit that spares the directory leaves it where it is. -/
theorem Turn.take_edit {change : FileTree → FileTree} (hs : s.quarters.Lodged)
    (hspares : (Turn.edit change : Turn τ).SparesHome s) :
    ((Turn.edit change).take s).2.quarters.Lodged ∧
      ∀ home, ((Turn.edit change).take s).2.Home home ↔ s.Home home := by
  obtain ⟨hrooted, hkept⟩ := hspares
  refine ⟨⟨hs.proper, hs.apart, hs.temporary, hrooted, fun directory hstaging => ?_⟩,
    fun home => ⟨?_, ?_⟩⟩
  · obtain ⟨home, hlodges, hpaired⟩ := hs.lodges directory hstaging
    obtain ⟨hfound, hsame⟩ := hkept directory home hstaging hlodges.found
    have hisSome (name : String) : ((change s.world.host.files).get? (home ++ [name])).isSome =
        (s.world.host.files.get? (home ++ [name])).isSome := by
      rw [← Option.isSome_map, hsame, Option.isSome_map]
    refine ⟨home, hlodges.of_rewritten hrooted hfound hsame, fun hnone hsheet => ?_⟩
    exact (hisSome _).trans (hpaired hnone ((hisSome _).symm.trans hsheet))
  · rintro ⟨directory, hstaging, hfind⟩
    obtain ⟨home', hlodges, -⟩ := hs.lodges directory hstaging
    obtain ⟨hfound, -⟩ := hkept directory home' hstaging hlodges.found
    have hfind : (change s.world.host.files).find s.world.host.cwd directory =
        .ok (home, .directory) := hfind
    rw [hfound] at hfind
    cases hfind
    exact ⟨directory, hstaging, hlodges.found⟩
  · rintro ⟨directory, hstaging, hfind⟩
    exact ⟨directory, hstaging, (hkept directory home hstaging hfind).1⟩

/-- After a turn, the directory that is remembered is the one from before, if it is there still, or
one that the turn has made. -/
def Turn.Moves (s : Session τ) (turn : Turn τ) : Prop :=
  ∀ place, (turn.take s).2.Home place ↔
    (s.Home place ∧ (turn.take s).2.at? place = some .directory) ∨
      ((∃ c, turn = .call c) ∧ s.at? place ≠ some .directory ∧
        (turn.take s).2.at? place = some .directory)

/-- A turn that leaves the directory where it is makes none. -/
theorem Turn.moves_of_iff (h : ∀ home, (turn.take s).2.Home home ↔ s.Home home)
    (hcall : ∀ c, turn ≠ .call c) : turn.Moves s := by
  intro place
  constructor
  · intro hplace
    exact .inl ⟨(h place).mp hplace, hplace.get?⟩
  · rintro (⟨hplace, -⟩ | ⟨⟨c, hc⟩, -⟩)
    · exact (h place).mpr hplace
    · exact absurd hc (hcall c)

theorem Turn.moves_of_prepared {c : Call} (hs : s.quarters.Lodged)
    (h : s.quarters.Prepared ((Turn.call c).take s).2.quarters) : (Turn.call c).Moves s := by
  intro place
  exact (h.home_iff hs).trans (or_congr_right (and_iff_right ⟨c, rfl⟩).symm)

theorem Turn.moves_of_cleared {c : Call} (hs : s.quarters.Lodged)
    (h : s.quarters.Cleared ((Turn.call c).take s).2.quarters) : (Turn.call c).Moves s := by
  intro place
  refine iff_of_false (fun hplace => ?_) ?_
  · obtain ⟨directory, hstaging, -⟩ := hplace
    rw [h.staging] at hstaging
    cases hstaging
  · rintro (⟨hplace, hthere⟩ | ⟨-, hnew, hthere⟩)
    · cases (h.get?_home hplace).symm.trans hthere
    · rcases h.get? hs place with hsame | ⟨-, -, -, hgone⟩
      · exact hnew (hsame.symm.trans hthere)
      · cases hgone.symm.trans hthere

/-- What a call comes to: it makes the workspace ready, or leaves it alone, or is a cleanup that
comes to its end. -/
theorem Turn.take_call (hs : s.quarters.Lodged) (hhoused : s.Housed) (c : Call) :
    let u := (Turn.call c).take s
    u.2.quarters.Lodged ∧ (s.quarters.Prepared u.2.quarters ∧
        (c = .cleanup → u.1.isOk = false ∧ u.2.quarters = s.quarters) ∨
      c = .cleanup ∧ u.1.isOk = true ∧ s.quarters.Cleared u.2.quarters) := by
  intro u
  by_cases hc : c = .cleanup
  · subst hc
    have hspec := Turn.take_cleanup hs hhoused s rfl
    have htake : u = (Call.perform .cleanup).apply s := rfl
    rw [← htake] at hspec
    obtain ⟨fault | value, t⟩ := u
    · have hsame : t.quarters = s.quarters := hspec
      refine ⟨hsame ▸ hs, .inl ⟨?_, fun _ => ⟨rfl, hsame⟩⟩⟩
      rw [hsame]
      exact .refused
    · exact ⟨hspec.2, .inr ⟨rfl, rfl, hspec.1⟩⟩
  · obtain ⟨hprepared, hlodged⟩ : s.quarters.Prepared u.2.quarters ∧ u.2.quarters.Lodged :=
      Turn.take_prepared hs nofun fun heq => hc (Turn.call.inj heq)
    exact ⟨hlodged, .inl ⟨hprepared, fun h => absurd h hc⟩⟩

/-- **What a call changes.** -/
theorem Turn.take_changes (hs : s.quarters.Lodged) (hhoused : s.Housed) {c : Call}
    (hplace : ((Turn.call c).take s).2.at? place ≠ s.at? place) :
    Session.Changes s.project c s ((Turn.call c).take s).2 place := by
  obtain ⟨-, ⟨hprepared, -⟩ | ⟨hc, -, hcleared⟩⟩ := Turn.take_call hs hhoused c
  · exact Session.changes_of_prepared hprepared hplace
  · exact Session.changes_of_cleared hc hs hcleared hplace

/-- **What a turn does with the directory.** -/
theorem Turn.take_moves (hs : s.quarters.Lodged) (hhoused : s.Housed)
    (hspares : turn.SparesHome s) :
    (turn.take s).2.quarters.Lodged ∧ (turn.take s).2.project = s.project ∧ turn.Moves s := by
  cases turn with
  | call c =>
    obtain ⟨hlodged, ⟨hprepared, -⟩ | ⟨-, -, hcleared⟩⟩ := Turn.take_call hs hhoused c
    · exact ⟨hlodged, hprepared.project, Turn.moves_of_prepared hs hprepared⟩
    · exact ⟨hlodged, hcleared.project, Turn.moves_of_cleared hs hcleared⟩
  | edit change =>
    obtain ⟨hlodged, hhome⟩ := Turn.take_edit hs hspares
    exact ⟨hlodged, rfl, Turn.moves_of_iff hhome nofun⟩
  | pass time => exact ⟨hs, rfl, Turn.moves_of_iff (fun _ => Iff.rfl) nofun⟩
  | act deeds => exact ⟨hs, rfl, Turn.moves_of_iff (fun _ => Iff.rfl) nofun⟩
  | breakInput fault => exact ⟨hs, rfl, Turn.moves_of_iff (fun _ => Iff.rfl) nofun⟩

/-! ### Runs -/

namespace Session

variable {turns : List (Turn τ)}

theorem run_concat (s : Session τ) (turns : List (Turn τ)) (turn : Turn τ) :
    s.run (turns ++ [turn]) = (turn.take (s.run turns)).2 := by
  rw [run_append, run_cons, run_nil]

/-- A directory that an operation has made in a run and that has been there ever since. -/
def Made (s : Session τ) (turns : List (Turn τ)) (place : Place) : Prop :=
  ∃ earlier c later, turns = earlier ++ .call c :: later ∧
    (s.run earlier).at? place ≠ some .directory ∧
    ∀ more, more <+: later → (s.run (earlier ++ .call c :: more)).at? place = some .directory

theorem not_made_nil (s : Session τ) (place : Place) : ¬ s.Made [] place := by
  rintro ⟨earlier, c, later, heq, -⟩
  simp at heq

/-- What has been made was made before and is there still, or has been made just now. -/
theorem made_concat (s : Session τ) (turns : List (Turn τ)) (turn : Turn τ) (place : Place) :
    s.Made (turns ++ [turn]) place ↔
      (s.Made turns place ∧ (s.run (turns ++ [turn])).at? place = some .directory) ∨
        ((∃ c, turn = .call c) ∧ (s.run turns).at? place ≠ some .directory ∧
          (s.run (turns ++ [turn])).at? place = some .directory) := by
  constructor
  · rintro ⟨earlier, c, later, heq, hnew, hever⟩
    -- it was made by the last turn, or by one before it
    rcases List.eq_nil_or_concat' later with rfl | ⟨rest, last, rfl⟩
    · obtain ⟨rfl, hturn⟩ := List.append_inj' heq rfl
      obtain rfl : turn = .call c := (List.cons.inj hturn).1
      exact .inr ⟨⟨c, rfl⟩, hnew, hever [] (List.prefix_refl [])⟩
    · rw [← List.cons_append, ← List.append_assoc] at heq
      obtain ⟨rfl, hturn⟩ := List.append_inj' heq rfl
      obtain rfl : turn = last := (List.cons.inj hturn).1
      refine .inl ⟨⟨earlier, c, rest, rfl, hnew, fun more hmore => ?_⟩, ?_⟩
      · exact hever more (hmore.trans (List.prefix_append rest [turn]))
      · have hlast := hever (rest ++ [turn]) (List.prefix_refl _)
        rwa [← List.cons_append, ← List.append_assoc] at hlast
  · rintro (⟨⟨earlier, c, later, rfl, hnew, hever⟩, hthere⟩ | ⟨⟨c, rfl⟩, hnew, hthere⟩)
    · refine ⟨earlier, c, later ++ [turn], by simp, hnew, fun more hmore => ?_⟩
      rcases List.prefix_concat_iff.mp hmore with rfl | hmore
      · simpa using hthere
      · exact hever more hmore
    · refine ⟨turns, c, [], rfl, hnew, fun more hmore => ?_⟩
      rw [List.prefix_nil.mp hmore]
      exact hthere

/-- A run of a session that has no directory at first, in which nobody else takes files away from
the directory that it remembers or puts any in. -/
structure SparedRun (s : Session τ) (turns : List (Turn τ)) : Prop where
  lodged : s.quarters.Lodged
  housed : s.Housed
  fresh : s.staging = none
  spares : ∀ earlier turn, earlier ++ [turn] <+: turns → turn.SparesHome (s.run earlier)

namespace SparedRun

variable {earlier : List (Turn τ)}

theorem of_prefix (h : s.SparedRun turns) (hearlier : earlier <+: turns) : s.SparedRun earlier :=
  ⟨h.lodged, h.housed, h.fresh, fun before turn hbefore =>
    h.spares before turn (hbefore.trans hearlier)⟩

theorem call (h : s.SparedRun turns) (c : Call) : s.SparedRun (turns ++ [.call c]) := by
  refine ⟨h.lodged, h.housed, h.fresh, fun before turn hbefore => ?_⟩
  rcases List.prefix_concat_iff.mp hbefore with heq | hbefore
  · obtain ⟨-, hturn⟩ := List.append_inj' heq rfl
    obtain rfl : turn = .call c := (List.cons.inj hturn).1
    trivial
  · exact h.spares before turn hbefore

end SparedRun

/-- **The directories that a session has made and that are there are the one that it remembers**,
throughout a run that spares it. -/
theorem run_home (h : s.SparedRun turns) :
    (s.run turns).quarters.Lodged ∧ (s.run turns).project = s.project ∧
      ∀ place, s.Made turns place ↔ (s.run turns).Home place := by
  induction turns using List.reverseRecOn with
  | nil =>
    refine ⟨h.lodged, rfl, fun place => iff_of_false (not_made_nil s place) ?_⟩
    rintro ⟨directory, hstaging, -⟩
    cases h.fresh.symm.trans hstaging
  | append_singleton turns turn ih =>
    obtain ⟨hlodged, hproject, hmade⟩ := ih (h.of_prefix (List.prefix_append turns [turn]))
    obtain ⟨hlodged', hproject', hmoves⟩ :=
      Turn.take_moves hlodged (h.housed.run turns) (h.spares turns turn (List.prefix_refl _))
    rw [Turn.Moves, ← run_concat] at hmoves
    rw [← run_concat] at hlodged' hproject'
    refine ⟨hlodged', hproject'.trans hproject, fun place => ?_⟩
    rw [made_concat, hmade, hmoves]

/-- Something has stood at a place throughout a run. -/
def Stood (s : Session τ) (turns : List (Turn τ)) (place : Place) : Prop :=
  ∀ earlier, earlier <+: turns → (s.run earlier).at? place ≠ none

/-- What has stood there throughout a run does not stand in the directory. -/
theorem Stood.not_home_prefix (hstood : s.Stood turns place) (h : s.SparedRun turns)
    (hhome : (s.run turns).Home home) : ¬ home <+: place := by
  rintro ⟨more, rfl⟩
  obtain ⟨earlier, c, later, rfl, hnew, hever⟩ := ((run_home h).2.2 home).mpr hhome
  have hearlier : earlier <+: earlier ++ .call c :: later := List.prefix_append _ _
  obtain ⟨hlodged, -⟩ := run_home (h.of_prefix hearlier)
  -- the directory was made where nothing stood, so nothing stood below either
  have hdirectory := hever [] List.nil_prefix
  rw [run_concat] at hdirectory
  have hempty := (Turn.take_changes hlodged (h.housed.run earlier)
    fun hsame => hnew (hsame.symm.trans hdirectory)).of_directory hdirectory
  exact hstood earlier hearlier (hlodged.rooted.get?_append hempty more)

/-- What has stood there throughout a run is not changed by a call. -/
theorem Stood.unchanged (hstood : s.Stood turns place) (h : s.SparedRun turns) (c : Call) :
    ((Turn.call c).take (s.run turns)).2.at? place = (s.run turns).at? place := by
  by_contra hplace
  cases Turn.take_changes (run_home h).1 (h.housed.run turns) hplace with
  | makes _ hnew _ => exact hstood turns (List.prefix_refl turns) hnew
  | @puts home name node hhome _ hnode _ _ =>
    rw [← run_concat] at hhome hnode
    have hstood : s.Stood (turns ++ [.call c]) (home ++ [name]) := by
      intro earlier hearlier
      rcases List.prefix_concat_iff.mp hearlier with rfl | hearlier
      · rw [hnode]
        exact Option.some_ne_none node
      · exact hstood earlier hearlier
    exact hstood.not_home_prefix (h.call c) hhome (List.prefix_append home [name])
  | removes _ hhome hbelow _ => exact hstood.not_home_prefix h hhome hbelow

end Session

/-- **A session keeps to its directory.**  Let the project of a session be one that is found by the
standard patterns, or none, and let a run spare the directory that the session remembers at each
time.  Then of the directories that it has made, those that are there still are exactly the one to
which the path that it remembers leads; so there is one at most, and there is one if it remembers
one.  Every operation but a cleanup keeps the directory with its path, however it ends, and so does
a cleanup that fails; one that comes to its end takes it away and forgets it.  And all that an
operation changes is to make the directory when there is none, to put files right in it under the
names of the virtual document and of the configuration and the stylesheet, and to take it away with
what is in it.  No file that is there is replaced, save the copy of the project's configuration; and
what has been there from the beginning, like the project's own files, is never changed. -/
theorem workspace_confined (settings : Settings τ) (h : Host) (start : Place) (world : World τ)
    (turns : List (Turn τ)) (htemporary : world.temporary.absolute = true)
    (hrooted : world.host.files.Rooted)
    (hspares : ∀ earlier turn, earlier ++ [turn] <+: turns → turn.SparesHome
      ((Session.ofProject settings (findProject h .standard start) world).run earlier)) :
    let project := findProject h .standard start
    let s := Session.ofProject settings project world
    let t := s.run turns
    (∀ place, s.Made turns place ↔ t.Home place) ∧
      (∀ place other, s.Made turns place → s.Made turns other → place = other) ∧
      (∀ directory, t.staging = some directory → ∃ home, t.Home home) ∧
      ∀ c,
        let u := (Turn.call c).take t
        (c ≠ .cleanup ∨ u.1.isOk = false → ∀ directory, t.staging = some directory →
          u.2.staging = some directory ∧ ∀ home, t.Home home → u.2.Home home) ∧
        (c = .cleanup → u.1.isOk = true →
          u.2.staging = none ∧ ∀ home, t.Home home → u.2.at? home = none) ∧
        (∀ place, u.2.at? place ≠ t.at? place → Session.Changes project c t u.2 place) ∧
        ∀ place, s.Stood turns place → u.2.at? place = t.at? place := by
  intro project s t
  -- at first no directory is remembered, and the names of the project are apart
  have hs : s.quarters.Lodged :=
    ⟨findProject_proper Patterns.standard_proper h start,
      findProject_apart Patterns.standard_proper Patterns.standard_apart h start, htemporary,
      hrooted, nofun⟩
  have hspared : s.SparedRun turns := ⟨hs, ⟨nofun, nofun⟩, rfl, hspares⟩
  have hhoused : t.Housed := hspared.housed.run turns
  obtain ⟨hlodged, hproject, hmade⟩ := Session.run_home hspared
  refine ⟨hmade, fun place other hplace hother => ?_, fun directory hstaging => ?_, fun c => ?_⟩
  · exact ((hmade place).mp hplace).unique ((hmade other).mp hother)
  · obtain ⟨home, hlodges, -⟩ := hlodged.lodges directory hstaging
    exact ⟨home, directory, hstaging, hlodges.found⟩
  · have hcall := (Turn.take_call hlodged hhoused c).2
    refine ⟨fun hkeeps directory hstaging => ?_, fun hc hok => ?_, fun place hplace => ?_,
      fun place hstood => hstood.unchanged hspared c⟩
    · -- only a cleanup that comes to its end clears the directory
      obtain ⟨hprepared, -⟩ | ⟨hc, hok, -⟩ := hcall
      · exact ⟨hprepared.staging hstaging, fun home hhome => hprepared.isHome hhome⟩
      · rcases hkeeps with hne | hfails
        · exact absurd hc hne
        · cases hfails.symm.trans hok
    · obtain ⟨-, hfails⟩ | ⟨-, -, hcleared⟩ := hcall
      · cases (hfails hc).1.symm.trans hok
      · exact ⟨hcleared.staging, fun home hhome => hcleared.get?_home hhome⟩
    · have hproject : t.project = project := hproject
      rw [← hproject]
      exact Turn.take_changes hlodged hhoused hplace

/-- A configuration that is changed and copied again, a cleanup, and another start. -/
def cleanedBetween : List (Turn ℚ) := restaged ++ [.call .cleanup, .call .prepare]

theorem workspace_confined_cleanedBetween :
    stagedSession.world.temporary.absolute = true ∧ stagedSession.world.host.files.Rooted ∧
      (∀ earlier turn, earlier ++ [turn] <+: cleanedBetween →
        turn.SparesHome (stagedSession.run earlier)) ∧
      stagedSession.Made cleanedBetween ["tailwind_sorter_w"] ∧
      ¬ stagedSession.Made (restaged ++ [.call .cleanup]) ["tailwind_sorter_w"] := by
  have hrooted : stagedFiles.Rooted := FileTree.rooted_of_nodes (by decide +kernel)
  have hspares : ∀ earlier turn, earlier ++ [turn] <+: cleanedBetween →
      turn.SparesHome (stagedSession.run earlier) := by
    rintro earlier turn ⟨later, hlater⟩
    rcases earlier with _ | ⟨a, _ | ⟨b, _ | ⟨c, _ | ⟨d, _ | ⟨e, more⟩⟩⟩⟩⟩
    · obtain ⟨rfl, -⟩ := List.cons_eq_cons.mp hlater
      trivial
    · obtain ⟨rfl, rfl, -⟩ := by simpa [cleanedBetween, restaged] using hlater
      refine ⟨FileTree.rooted_of_nodes (by decide +kernel), fun directory home hstaging hfind => ?_⟩
      have hthere : (stagedSession.run [.call .prepare]).staging =
          some (.ofString "/tailwind_sorter_w") := by decide +kernel
      have hfound : (stagedSession.run [.call .prepare]).world.host.files.find
          (stagedSession.run [.call .prepare]).world.host.cwd (.ofString "/tailwind_sorter_w") =
            .ok (["tailwind_sorter_w"], .directory) := by decide +kernel
      obtain rfl := Option.some_inj.mp (hthere.symm.trans hstaging)
      obtain ⟨rfl, -⟩ := Prod.mk.inj (Except.ok.inj (hfound.symm.trans hfind))
      refine ⟨by decide +kernel, fun name => ?_⟩
      rw [FileTree.get?_set_of_ne (by simp)]
    · obtain ⟨rfl, rfl, rfl, -⟩ := by simpa [cleanedBetween, restaged] using hlater
      trivial
    · obtain ⟨rfl, rfl, rfl, rfl, -⟩ := by simpa [cleanedBetween, restaged] using hlater
      trivial
    · obtain ⟨rfl, rfl, rfl, rfl, rfl, -⟩ := by simpa [cleanedBetween, restaged] using hlater
      trivial
    · simp [cleanedBetween, restaged] at hlater
  have hconfined (turns : List (Turn ℚ)) (hturns : turns <+: cleanedBetween) (place : Place) :
      stagedSession.Made turns place ↔ (stagedSession.run turns).Home place :=
    (workspace_confined _ { files := stagedFiles } ["w"] _ turns rfl hrooted
      fun earlier turn hearlier => hspares earlier turn (hearlier.trans hturns)).1 place
  refine ⟨rfl, hrooted, hspares, ?_, ?_⟩
  · refine (hconfined _ (List.prefix_refl _) _).mpr ⟨.ofString "/tailwind_sorter_w", ?_, ?_⟩
    · decide +kernel
    · decide +kernel
  · rw [hconfined _ ⟨[.call .prepare], rfl⟩]
    rintro ⟨directory, hstaging, -⟩
    have hnone : (stagedSession.run (restaged ++ [.call .cleanup])).staging = none := by
      decide +kernel
    cases hnone.symm.trans hstaging

end ClassOrder
