import ClassOrder.Files.Tree
import Mathlib.Logic.Function.Basic

/-!
# Following paths in a tree that grows

A path that leads somewhere leads to the same place after something has been put where nothing
stood, or other bytes in a file.  What is right in a directory is reached through the directory.

## Main definitions

* `FileTree.Extends` — all that stands in one tree stands in another one too.
* `FileTree.Rooted` — whatever stands somewhere stands in a directory.

## Main results

* `locate_of_extends` — a path that leads somewhere goes on to lead there.
* `Follows.set_new` — a path that led to nothing leads to what is put there.
* `locate_child` — what is right in a directory is reached through it.
-/

namespace ClassOrder

/-- Whether a file stands there. -/
def Node.isFile : Node → Bool
  | file .. => true
  | directory | link _ => false

namespace FileTree

variable {t u : FileTree} {cwd here base place : Place} {parts rest : List String} {name : String}
  {target p : Path} {node : Node} {links : Nat}

/-- All that stands in the first tree stands in the second one too, save that a file may hold
something else. -/
structure Extends (t u : FileTree) : Prop where
  same : ∀ place node, t.get? place = some node → node.isFile = false → u.get? place = some node
  file : ∀ place node, t.get? place = some node → node.isFile = true →
    ∃ node', u.get? place = some node' ∧ node'.isFile = true

/-- Whatever stands somewhere stands in a directory. -/
def Rooted (t : FileTree) : Prop :=
  ∀ place node, t.get? place = some node → t.get? place.dropLast = some .directory

/-- A tree is rooted if each of the places that it lists is in a directory. -/
theorem rooted_of_nodes (h : ∀ e ∈ t.nodes, t.get? e.1.dropLast = some .directory) : t.Rooted := by
  intro place node hget
  rw [get?] at hget
  split at hget
  · next hroot => rw [List.isEmpty_iff.mp hroot]; rfl
  · exact h _ (Assoc.mem_of_get? hget)

theorem Extends.directory (h : t.Extends u) (hplace : t.get? place = some .directory) :
    u.get? place = some .directory := h.same _ _ hplace rfl

/-- Putting something where nothing stood, or other bytes in a file. -/
theorem extends_set (h : ∀ old, t.get? place = some old → old.isFile = true ∧ node.isFile = true) :
    t.Extends (t.set place node) := by
  have hne : place ≠ [] := by
    rintro rfl
    exact absurd (h .directory rfl).1 (by decide)
  refine ⟨fun other old hold hfile => ?_, fun other old hold hfile => ?_⟩
  · have hother : other ≠ place := by
      rintro rfl
      rw [(h old hold).1] at hfile
      cases hfile
    rwa [get?_set_of_ne hother]
  · by_cases hother : other = place
    · subst hother
      exact ⟨node, get?_set_self hne node t, (h old hold).2⟩
    · exact ⟨old, by rwa [get?_set_of_ne hother], hfile⟩

/-! ### Walks -/

theorem walk_up (t : FileTree) (here : Place) (rest : List String) :
    t.walk here (".." :: rest) = t.walk here.dropLast rest := by
  rw [walk, if_pos rfl]

theorem walk_none (hup : name ≠ "..") (hget : t.get? (here ++ [name]) = none) :
    t.walk here (name :: rest) = .missing here name rest := by
  rw [walk, if_neg hup, hget]

theorem walk_directory (hup : name ≠ "..") (hget : t.get? (here ++ [name]) = some .directory) :
    t.walk here (name :: rest) = t.walk (here ++ [name]) rest := by
  rw [walk, if_neg hup, hget]

theorem walk_file (hup : name ≠ "..") (hget : t.get? (here ++ [name]) = some node)
    (hfile : node.isFile = true) : t.walk here [name] = .arrived (here ++ [name]) := by
  rw [walk, if_neg hup, hget]
  cases node with
  | file bytes time executable => rfl
  | directory => cases hfile
  | link target => cases hfile

theorem walk_link (hup : name ≠ "..") (hget : t.get? (here ++ [name]) = some (.link target)) :
    t.walk here (name :: rest) = .link here name target rest := by
  rw [walk, if_neg hup, hget]

/-- A walk goes on to arrive. -/
theorem walk_arrived_of_extends (h : t.Extends u) (hwalk : t.walk here parts = .arrived place) :
    u.walk here parts = .arrived place := by
  fun_induction walk t here parts with
  | case1 here => exact hwalk
  | case2 here rest ih => exact (walk_up u here rest).trans (ih hwalk)
  | case3 here part rest hup hget => cases hwalk
  | case4 here part rest hup hget ih =>
    exact (walk_directory hup (h.directory hget)).trans (ih hwalk)
  | case5 here part rest hup bytes time executable hget hrest =>
    obtain ⟨node, hnode, hfile⟩ := h.file _ _ hget rfl
    rw [List.isEmpty_iff] at hrest
    subst hrest
    exact (walk_file hup hnode hfile).trans hwalk
  | case6 => cases hwalk
  | case7 => cases hwalk

/-- A walk goes on to stop at a link. -/
theorem walk_link_of_extends (h : t.Extends u)
    (hwalk : t.walk here parts = .link base name target rest) :
    u.walk here parts = .link base name target rest := by
  fun_induction walk t here parts with
  | case1 here => cases hwalk
  | case2 here rest ih => exact (walk_up u here rest).trans (ih hwalk)
  | case3 => cases hwalk
  | case4 here part rest hup hget ih =>
    exact (walk_directory hup (h.directory hget)).trans (ih hwalk)
  | case5 => cases hwalk
  | case6 => cases hwalk
  | case7 here part rest hup target hget =>
    exact (walk_link hup (h.same _ _ hget rfl)).trans hwalk

/-- A walk stops before a name that stands nowhere. -/
theorem walk_missing (hwalk : t.walk here parts = .missing base name rest) :
    t.get? (base ++ [name]) = none := by
  fun_induction walk t here parts with
  | case1 => cases hwalk
  | case2 here rest ih => exact ih hwalk
  | case3 here part rest hup hget =>
    cases hwalk
    exact hget
  | case4 here part rest hup hget ih => exact ih hwalk
  | case5 => cases hwalk
  | case6 => cases hwalk
  | case7 => cases hwalk

/-- A walk that stopped before the last name arrives at what is put there. -/
theorem walk_set_new (hwalk : t.walk here parts = .missing base name [])
    (hnode : ∀ target, node ≠ .link target) :
    (t.set (base ++ [name]) node).walk here parts = .arrived (base ++ [name]) := by
  have hnew := walk_missing hwalk
  have hextends : t.Extends (t.set (base ++ [name]) node) :=
    extends_set fun old hold => by rw [hnew] at hold; cases hold
  have hset : (t.set (base ++ [name]) node).get? (base ++ [name]) = some node :=
    get?_set_self (by simp) node t
  fun_induction walk t here parts with
  | case1 => cases hwalk
  | case2 here rest ih => exact (walk_up _ here rest).trans (ih hwalk)
  | case3 here part rest hup hget =>
    cases hwalk
    cases node with
    | directory => exact (walk_directory hup hset).trans rfl
    | file bytes time executable => exact walk_file hup hset rfl
    | link target => exact absurd rfl (hnode target)
  | case4 here part rest hup hget ih =>
    exact (walk_directory hup (hextends.directory hget)).trans (ih hwalk)
  | case5 => cases hwalk
  | case6 => cases hwalk
  | case7 => cases hwalk

/-- A walk goes on from the directory at which it has arrived. -/
theorem walk_append (hwalk : t.walk here parts = .arrived place)
    (hplace : t.get? place = some .directory) (more : List String) :
    t.walk here (parts ++ more) = t.walk place more := by
  fun_induction walk t here parts with
  | case1 here =>
    cases hwalk
    rfl
  | case2 here rest ih => exact (walk_up t here (rest ++ more)).trans (ih hwalk)
  | case3 => cases hwalk
  | case4 here part rest hup hget ih =>
    exact (walk_directory hup hget).trans (ih hwalk)
  | case5 here part rest hup bytes time executable hget hrest =>
    -- it has arrived at a file
    cases hwalk
    rw [hget] at hplace
    cases hplace
  | case6 => cases hwalk
  | case7 => cases hwalk

theorem walk_append_link (hwalk : t.walk here parts = .link base name target rest)
    (more : List String) : t.walk here (parts ++ more) = .link base name target (rest ++ more) := by
  fun_induction walk t here parts with
  | case1 => cases hwalk
  | case2 here rest ih => exact (walk_up t here (rest ++ more)).trans (ih hwalk)
  | case3 => cases hwalk
  | case4 here part rest hup hget ih => exact (walk_directory hup hget).trans (ih hwalk)
  | case5 => cases hwalk
  | case6 => cases hwalk
  | case7 here part rest hup target hget =>
    cases hwalk
    exact walk_link hup hget

/-- In a rooted tree a walk from a directory stops in one. -/
theorem walk_base (h : t.Rooted) (hhere : t.get? here = some .directory) (parts : List String) :
    match t.walk here parts with
    | .missing base _ _ | .link base _ _ _ => t.get? base = some .directory
    | _ => True := by
  fun_induction walk t here parts with
  | case1 => trivial
  | case2 here rest ih => exact ih (h here _ hhere)
  | case3 => exact hhere
  | case4 here part rest hup hget ih => exact ih hget
  | case5 => trivial
  | case6 => trivial
  | case7 => exact hhere

/-! ### Paths -/

/-- The place from which a link leads on. -/
def linkBase (target : Path) (base : Place) : Place := if target.absolute then [] else base

/-- How the parts of a path lead somewhere: a walk along them arrives, or stops before the last
name, which is no longer than a name may be, or goes on at a link. -/
inductive Follows (t : FileTree) : Nat → Place → List String → Place → Bool → Prop where
  | arrived {links : Nat} {here : Place} {parts : List String} {place : Place}
    (hwalk : t.walk here parts = .arrived place) : Follows t links here parts place true
  | missing {links : Nat} {here : Place} {parts : List String} {base : Place} {name : String}
    (hwalk : t.walk here parts = .missing base name []) (hname : isTooLong name = false) :
    Follows t links here parts (base ++ [name]) false
  | link {links : Nat} {here : Place} {parts : List String} {base : Place} {name : String}
    {target : Path} {rest : List String} {place : Place} {found : Bool}
    (hwalk : t.walk here parts = .link base name target rest)
    (hrest : Follows t links (linkBase target base) (target.parts ++ rest) place found) :
    Follows t (links + 1) here parts place found

variable {found : Bool}

theorem follow_eq_ok :
    t.follow links here parts = .ok (place, found) ↔ t.Follows links here parts place found := by
  constructor
  · intro h
    fun_induction follow t links here parts with
    | case1 links here parts arrived hwalk =>
      cases h
      exact .arrived hwalk
    | case2 => cases h
    | case3 links here parts missed last rest hwalk hname hrest =>
      rw [List.isEmpty_iff] at hrest
      subst hrest
      cases h
      exact .missing hwalk (Bool.not_eq_true _ ▸ hname)
    | case4 => cases h
    | case5 => cases h
    | case6 => cases h
    | case7 here parts linked last target rest hwalk links ih => exact .link hwalk (ih h)
  · intro h
    induction h with
    | arrived hwalk => rw [follow, hwalk]
    | missing hwalk hname =>
      rw [follow, hwalk]
      simp [hname]
    | link hwalk hrest ih =>
      rw [follow, hwalk]
      exact ih

theorem Follows.of_extends (hfollows : t.Follows links here parts place found)
    (hfound : found = true) (h : t.Extends u) : u.Follows links here parts place true := by
  induction hfollows with
  | arrived hwalk => exact .arrived (walk_arrived_of_extends h hwalk)
  | missing hwalk hname => cases hfound
  | link hwalk hrest ih => exact .link (walk_link_of_extends h hwalk) (ih hfound)

/-- A path that leads to nothing leads to what is put there. -/
theorem Follows.set_new (h : t.Follows links here parts place found) (node : Node)
    (hfound : found = false) (hnode : ∀ target, node ≠ .link target) :
    t.get? place = none ∧ (t.set place node).Follows links here parts place true := by
  induction h with
  | arrived hwalk => cases hfound
  | missing hwalk hname => exact ⟨walk_missing hwalk, .arrived (walk_set_new hwalk hnode)⟩
  | link hwalk hrest ih =>
    obtain ⟨hnew, hset⟩ := ih hfound
    have hextends : t.Extends (t.set _ node) :=
      extends_set fun old hold => by rw [hnew] at hold; cases hold
    exact ⟨hnew, .link (walk_link_of_extends hextends hwalk) hset⟩

/-- A path goes on from the directory to which it leads. -/
theorem Follows.append (h : t.Follows links here parts place found) (hfound : found = true)
    (hplace : t.get? place = some .directory) (more : List String) :
    ∃ left, t.follow links here (parts ++ more) = t.follow left place more := by
  induction h with
  | @arrived links here parts place hwalk =>
    exact ⟨links, by rw [follow, follow, walk_append hwalk hplace]⟩
  | missing hwalk hname => cases hfound
  | link hwalk hrest ih =>
    obtain ⟨left, hmore⟩ := ih hfound hplace
    rw [List.append_assoc] at hmore
    exact ⟨left, by rw [follow, walk_append_link hwalk more]; exact hmore⟩

/-- In a rooted tree a path that leads to nothing leads to a name in a directory. -/
theorem Follows.parent (h : t.Follows links here parts place found) (hfound : found = false)
    (hrooted : t.Rooted) (hhere : t.get? here = some .directory) :
    t.get? place.dropLast = some .directory := by
  induction h with
  | arrived hwalk => cases hfound
  | @missing links here parts base name hwalk hname =>
    have hbase := walk_base hrooted hhere parts
    rw [hwalk] at hbase
    rwa [List.dropLast_concat]
  | @link links here parts base name target rest place found hwalk hrest ih =>
    have hbase := walk_base hrooted hhere parts
    rw [hwalk] at hbase
    refine ih hfound ?_
    unfold linkBase
    split
    · exact get?_root t
    · exact hbase

/-! ### What a path leads to -/

theorem locate_of_extends (h : t.Extends u) (hlocate : t.locate cwd p = .ok (place, true)) :
    u.locate cwd p = .ok (place, true) :=
  follow_eq_ok.mpr ((follow_eq_ok.mp hlocate).of_extends rfl h)

theorem find_eq_ok :
    t.find cwd p = .ok (place, node) ↔
      t.locate cwd p = .ok (place, true) ∧ t.get? place = some node := by
  rw [find]
  rcases t.locate cwd p with fault | ⟨other, _ | _⟩
  · simp
  · simp
  · cases hget : t.get? other with
    | none => grind
    | some old => grind

/-- A path that leads to something goes on to lead there, when other things are put elsewhere. -/
theorem find_set_of_ne (h : t.find cwd p = .ok (place, node)) {other : Place} {new : Node}
    (hextends : t.Extends (t.set other new)) (hne : place ≠ other) :
    (t.set other new).find cwd p = .ok (place, node) := by
  obtain ⟨hlocate, hget⟩ := find_eq_ok.mp h
  exact find_eq_ok.mpr ⟨locate_of_extends hextends hlocate, by rwa [get?_set_of_ne hne]⟩

/-- What is right in a directory is reached through it, unless it is a link; so is a name that
nothing stands under, unless it is too long. -/
theorem locate_child (h : t.find cwd p = .ok (place, .directory)) (hname : name ≠ "..")
    (hlink : ∀ target, t.get? (place ++ [name]) ≠ some (.link target)) :
    t.locate cwd (p.child name) =
      if t.get? (place ++ [name]) = none ∧ isTooLong name = true then .error .nameTooLong
      else .ok (place ++ [name], (t.get? (place ++ [name])).isSome) := by
  obtain ⟨hlocate, hget⟩ := find_eq_ok.mp h
  obtain ⟨left, happend⟩ := (follow_eq_ok.mp hlocate).append rfl hget [name]
  refine happend.trans ?_
  cases hnode : t.get? (place ++ [name]) with
  | none =>
    rw [follow, walk_none hname hnode]
    cases hlong : isTooLong name <;> simp [hlong]
  | some node =>
    rw [if_neg (by simp)]
    refine follow_eq_ok.mpr (.arrived ?_)
    cases node with
    | directory => exact walk_directory hname hnode
    | file bytes time executable => exact walk_file hname hnode rfl
    | link target => exact absurd hnode (hlink target)

end FileTree

end ClassOrder
