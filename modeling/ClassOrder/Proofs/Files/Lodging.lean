import ClassOrder.Proofs.Files.Removal

/-!
# A directory that holds files

A directory is *lodged* at a place if its path leads there and nothing but files stands in it.  It
stays so when files are put right in it, and what is put there is there under the name that it was
given, so all that such a step changes is what stands under that name.

## Main definitions

* `FileTree.Lodges` — a path leads to a directory with nothing but files in it.

## Main results

* `Lodges.set` — a file put right in the directory leaves it lodged.
* `makeDirectory_lodges` — a directory just made is lodged.
* `Lodges.removeTree` — taking the directory away is pruning its place.
-/

namespace ClassOrder.FileTree

variable {t u : FileTree} {cwd home place : Place} {name : String} {directory source : Path}
  {node : Node}

/-- A path leads to a directory at a place, and nothing but files stands in it. -/
structure Lodges (t : FileTree) (cwd : Place) (directory : Path) (home : Place) : Prop where
  rooted : t.Rooted
  found : t.find cwd directory = .ok (home, .directory)
  plain : ∀ name node, t.get? (home ++ [name]) = some node → node.isFile = true

namespace Lodges

theorem get?_home (h : t.Lodges cwd directory home) : t.get? home = some .directory :=
  (find_eq_ok.mp h.found).2

theorem exists?_child (h : t.Lodges cwd directory home) (hname : name ≠ "..") :
    t.exists? cwd (directory.child name) = (t.get? (home ++ [name])).isSome := by
  rw [exists?, find?_child (inside?_eq_some.mpr ⟨home, h.found, rfl⟩) hname]
  intro target hlink
  cases h.plain name _ hlink

theorem isDirectory (h : t.Lodges cwd directory home) : t.isDirectory cwd directory = true := by
  rw [FileTree.isDirectory, find?, h.found]

/-- A file put right in the directory leaves it lodged. -/
theorem set (h : t.Lodges cwd directory home) (name : String) (hnode : node.isFile = true) :
    (t.set (home ++ [name]) node).Lodges cwd directory home := by
  have hextends : t.Extends (t.set (home ++ [name]) node) :=
    extends_set fun old hold => ⟨h.plain name old hold, hnode⟩
  refine ⟨h.rooted.set ?_ (fun hdirectory => ?_) node, find_set_of_ne h.found hextends (by simp),
    fun other found hfound => ?_⟩
  · rw [List.dropLast_concat]
    exact h.get?_home
  · cases h.plain name _ hdirectory
  · by_cases hother : other = name
    · subst hother
      rw [get?_set_self (by simp), Option.some_inj] at hfound
      exact hfound ▸ hnode
    · rw [get?_set_of_ne (by simpa using hother)] at hfound
      exact h.plain other found hfound

/-- So do changes that leave files under the same names. -/
theorem of_rewritten (h : t.Lodges cwd directory home) (hrooted : u.Rooted)
    (hfound : u.find cwd directory = .ok (home, .directory))
    (hsame : ∀ name, (u.get? (home ++ [name])).map Node.isFile =
      (t.get? (home ++ [name])).map Node.isFile) : u.Lodges cwd directory home := by
  refine ⟨hrooted, hfound, fun name node hnode => ?_⟩
  have hkind := hsame name
  rw [hnode, Option.map_some, eq_comm, Option.map_eq_some_iff] at hkind
  obtain ⟨old, hold, hfile⟩ := hkind
  rw [← hfile]
  exact h.plain name old hold

/-- Taking the directory away is pruning its place. -/
theorem removeTree {above : Path} (h : t.Lodges cwd (above.child name) home) (hname : name ≠ "..")
    (hremove : t.removeTree cwd (above.child name) = .ok u) : u = t.prune home ∧ home ≠ [] :=
  removeTree_child hname h.found hremove

end Lodges

/-- A directory just made is lodged, at a place where nothing stood, with nothing in it. -/
theorem makeDirectory_lodges (h : t.Rooted) (habsolute : directory.absolute = true)
    (hmake : t.makeDirectory cwd directory = .ok u) :
    ∃ home, t.get? home = none ∧ u = t.set home .directory ∧ u.Lodges cwd directory home ∧
      ∀ name, u.get? (home ++ [name]) = none := by
  obtain ⟨home, hnew, rfl, hrooted, -, hfind⟩ := makeDirectory_find h habsolute hmake
  have hempty (name : String) : (t.set home .directory).get? (home ++ [name]) = none := by
    rw [get?_set_of_ne (by simp), h.get?_below hnew]
  refine ⟨home, hnew, rfl, ⟨hrooted, hfind, fun name node hnode => ?_⟩, hempty⟩
  rw [hempty] at hnode
  cases hnode

end ClassOrder.FileTree
