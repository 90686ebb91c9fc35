import ClassOrder.Proofs.Files.Following
import Mathlib.Data.List.Induction

/-!
# What is right in a directory

The operations on files as they show in what is right in one directory, by its name.  A file
written there is there with its bytes and all else stays; a directory just made has nothing in it;
and taking a directory away, like the other operations, leaves a rooted tree.

## Main definitions

* `FileTree.inside?` — what is right in the directory that a path leads to.

## Main results

* `write_child`, `copy_child` — a file written or copied into a directory.
* `makeDirectory_ok` — **a directory just made has nothing in it.**
* `Rooted.prune`, `removeTree_rooted` — a tree stays rooted when a directory is taken away.
* `inside?_rewrite`, `inside?_prune` — what changes from outside leave in a directory.
-/

namespace ClassOrder.FileTree

variable {t u : FileTree} {cwd place other : Place} {name : String} {p source : Path} {node : Node}
  {bytes : Bytes} {content : String → Option Node}

/-- What is right in the directory that a path leads to, by its name; none if the path leads to no
directory. -/
def inside? (t : FileTree) (cwd : Place) (p : Path) : Option (String → Option Node) :=
  match t.find cwd p with
  | .ok (place, .directory) => some fun name => t.get? (place ++ [name])
  | _ => none

theorem inside?_eq_some :
    t.inside? cwd p = some content ↔
      ∃ place, t.find cwd p = .ok (place, .directory) ∧
        content = fun name => t.get? (place ++ [name]) := by
  rw [inside?]
  rcases t.find cwd p with fault | ⟨other, _ | _ | _⟩ <;> simp [eq_comm]

theorem isSome_inside? : (t.inside? cwd p).isSome = t.isDirectory cwd p := by
  rw [inside?, isDirectory, find?]
  rcases t.find cwd p with fault | ⟨other, _ | _ | _⟩ <;> rfl

/-! ### Reading -/

/-- What is right in a directory is found through it, unless it is a link. -/
theorem find?_child (h : t.inside? cwd p = some content) (hname : name ≠ "..")
    (hlink : ∀ target, content name ≠ some (.link target)) :
    t.find? cwd (p.child name) = content name := by
  obtain ⟨place, hfind, rfl⟩ := inside?_eq_some.mp h
  have hlocate := locate_child hfind hname hlink
  rw [find?, find, hlocate]
  cases hget : t.get? (place ++ [name]) with
  | none => cases hlong : isTooLong name <;> simp [hget]
  | some node => simp [hget]

/-! ### Putting something into a directory -/

/-- What stands in a directory after something was put there. -/
theorem inside?_set (h : t.find cwd p = .ok (place, .directory))
    (hextends : t.Extends (t.set (place ++ [name]) node)) :
    (t.set (place ++ [name]) node).inside? cwd p =
      some (Function.update (fun n => t.get? (place ++ [n])) name (some node)) := by
  refine inside?_eq_some.mpr ⟨place, find_set_of_ne h hextends (by simp), ?_⟩
  funext n
  by_cases hn : n = name
  · subst hn
    rw [Function.update_self, get?_set_self (by simp)]
  · rw [Function.update_of_ne hn, get?_set_of_ne (by simpa using hn)]

/-- A file can be written right in a directory, unless something else stands there or its name is
too long. -/
theorem write_child (h : t.find cwd p = .ok (place, .directory)) (hname : name ≠ "..")
    (hfile : ∀ old, t.get? (place ++ [name]) = some old → old.isFile = true) (bytes : Bytes) :
    (isTooLong name = true ∧ t.write cwd (p.child name) bytes = .error .nameTooLong) ∨
      ∃ time executable, t.write cwd (p.child name) bytes =
        .ok (t.set (place ++ [name]) (.file bytes time executable)) := by
  have hlocate := locate_child h hname fun target hlink => by cases hfile _ hlink
  rw [write, hlocate]
  cases hget : t.get? (place ++ [name]) with
  | none =>
    cases hlong : isTooLong name with
    | true => exact .inl ⟨rfl, by simp⟩
    | false => exact .inr ⟨0, false, by simp [hget]⟩
  | some old =>
    right
    cases old with
    | file bytes' time executable => exact ⟨time, executable, by simp [hget]⟩
    | directory => cases hfile _ hget
    | link target => cases hfile _ hget

/-- What can be said of a file that was copied right into a directory. -/
theorem copy_child (h : t.find cwd p = .ok (place, .directory)) (hname : name ≠ "..")
    (hfile : ∀ old, t.get? (place ++ [name]) = some old → old.isFile = true)
    (hcopy : t.copy cwd source (p.child name) = .ok u) :
    ∃ from' bytes modified executable time executable',
      t.find cwd source = .ok (from', .file bytes modified executable) ∧ from' ≠ place ++ [name] ∧
        u = t.set (place ++ [name]) (.file bytes time executable') := by
  rw [copy] at hcopy
  split at hcopy
  · cases hcopy
  · next hsame =>
    rw [read] at hcopy
    cases hfind : t.find cwd source with
    | error fault => rw [hfind] at hcopy; cases hcopy
    | ok found =>
      obtain ⟨from', node⟩ := found
      rw [hfind] at hcopy
      cases node with
      | directory => cases hcopy
      | link target => cases hcopy
      | file bytes modified executable =>
        dsimp only at hcopy
        obtain ⟨-, hrefused⟩ | ⟨time, executable', hwrite⟩ := write_child h hname hfile bytes
        · rw [hrefused] at hcopy
          cases hcopy
        rw [hwrite] at hcopy
        cases hcopy
        refine ⟨from', bytes, modified, executable, time, executable', rfl, ?_, rfl⟩
        -- if the two were one place, the copy would have been refused
        rintro rfl
        obtain ⟨hlocate, hget⟩ := find_eq_ok.mp hfind
        have hchild := locate_child h hname fun target hlink => by cases hfile _ hlink
        rw [hget, if_neg (by simp)] at hchild
        simp [same, hlocate, hchild] at hsame

/-! ### Rooted trees -/

/-- Nothing stands below a place where nothing stands. -/
theorem Rooted.get?_below (h : t.Rooted) (hplace : t.get? place = none) (name : String) :
    t.get? (place ++ [name]) = none := by
  cases hget : t.get? (place ++ [name]) with
  | none => rfl
  | some node =>
    have habove := h _ _ hget
    rw [List.dropLast_concat, hplace] at habove
    cases habove

theorem Rooted.get?_append (h : t.Rooted) (hplace : t.get? place = none) (more : Place) :
    t.get? (place ++ more) = none := by
  induction more using List.reverseRecOn with
  | nil => rwa [List.append_nil]
  | append_singleton more name ih =>
    rw [← List.append_assoc]
    exact h.get?_below ih name

theorem Rooted.set (h : t.Rooted) (hparent : t.get? place.dropLast = some .directory)
    (hplace : t.get? place ≠ some .directory) (node : Node) : (t.set place node).Rooted := by
  have hne : place ≠ [] := by
    rintro rfl
    exact hplace rfl
  intro other found hget
  have habove : t.get? other.dropLast = some .directory := by
    by_cases hother : other = place
    · rwa [hother]
    · rw [get?_set_of_ne hother] at hget
      exact h other found hget
  have hdropped : other.dropLast ≠ place := by
    rintro heq
    exact hplace (heq ▸ habove)
  rwa [get?_set_of_ne hdropped]

/-- A directory is made where nothing stood, and its path leads to it. -/
theorem makeDirectory_find (h : t.Rooted) (habsolute : p.absolute = true)
    (hmake : t.makeDirectory cwd p = .ok u) :
    ∃ place, t.get? place = none ∧ u = t.set place .directory ∧ u.Rooted ∧
      t.Extends u ∧ u.find cwd p = .ok (place, .directory) := by
  rw [makeDirectory] at hmake
  split at hmake
  · cases hmake
  · cases hmake
  · next place hlocate =>
    cases hmake
    have hfollows := follow_eq_ok.mp hlocate
    rw [if_pos habsolute] at hfollows
    obtain ⟨hnew, hset⟩ := hfollows.set_new .directory rfl fun target => by simp
    have hne : place ≠ [] := by
      rintro rfl
      cases hnew
    have hextends : t.Extends (t.set place .directory) :=
      extends_set fun old hold => by rw [hnew] at hold; cases hold
    have hrooted := h.set (hfollows.parent rfl h (get?_root t)) (by rw [hnew]; simp) .directory
    refine ⟨place, hnew, rfl, hrooted, hextends, ?_⟩
    refine find_eq_ok.mpr ⟨?_, get?_set_self hne _ t⟩
    rw [locate, if_pos habsolute]
    exact follow_eq_ok.mpr hset

/-- **A directory just made has nothing in it.** -/
theorem makeDirectory_ok (h : t.Rooted) (habsolute : p.absolute = true)
    (hmake : t.makeDirectory cwd p = .ok u) :
    ∃ place, t.get? place = none ∧ u = t.set place .directory ∧ u.Rooted ∧
      t.Extends u ∧ u.inside? cwd p = some fun _ => none := by
  obtain ⟨place, hnew, rfl, hrooted, hextends, hfind⟩ := makeDirectory_find h habsolute hmake
  refine ⟨place, hnew, rfl, hrooted, hextends, inside?_eq_some.mpr ⟨place, hfind, ?_⟩⟩
  funext name
  rw [get?_set_of_ne (by simp), h.get?_below hnew]

theorem get?_prune (hother : other ≠ []) :
    (t.prune place).get? other = if place.isPrefixOf other then none else t.get? other := by
  have hget (u : FileTree) : u.get? other = Assoc.get? other u.nodes := by
    rw [get?, if_neg (by simpa using hother)]
  rw [hget, hget, prune, Assoc.get?_filter fun q => !place.isPrefixOf q]
  cases place.isPrefixOf other <;> rfl

/-- A tree stays rooted when a directory is taken away. -/
theorem Rooted.prune (h : t.Rooted) (place : Place) : (t.prune place).Rooted := by
  intro other node hget
  by_cases hroot : other = []
  · exact hroot ▸ rfl
  · rw [get?_prune hroot] at hget
    split at hget
    · cases hget
    · next hkept =>
      by_cases habove : other.dropLast = []
      · exact habove ▸ rfl
      · rw [get?_prune habove, if_neg fun hbelow => hkept ?_]
        · exact h other node hget
        · rw [List.isPrefixOf_iff_prefix] at hbelow ⊢
          exact hbelow.trans (List.dropLast_prefix other)

theorem removeTree_rooted (h : t.Rooted) (hremove : t.removeTree cwd p = .ok u) : u.Rooted := by
  rw [removeTree] at hremove
  split at hremove
  · cases hremove
  · dsimp only at hremove
    split at hremove
    · cases hremove
    · cases hremove
      exact h.prune _

/-! ### Changes from outside -/

/-- A path that leads to a directory leads there in a tree with more in it, too. -/
theorem find_directory_of_extends (h : t.Extends u)
    (hfind : t.find cwd p = .ok (place, .directory)) :
    u.find cwd p = .ok (place, .directory) := by
  obtain ⟨hlocate, hget⟩ := find_eq_ok.mp hfind
  exact find_eq_ok.mpr ⟨locate_of_extends h hlocate, h.directory hget⟩

/-- Where a file is put in the place of another, the tree from before extends the new one, too. -/
theorem extends_of_set {old : Node} (hold : t.get? other = some old) (hfile : old.isFile = true)
    (hnode : node.isFile = true) : (t.set other node).Extends t := by
  have hne : other ≠ [] := by
    rintro rfl
    cases hold
    cases hfile
  refine ⟨fun place found hget hfound => ?_, fun place found hget hfound => ?_⟩
  · have hplace : place ≠ other := by
      rintro rfl
      rw [get?_set_self hne, Option.some_inj] at hget
      rw [hget, hfound] at hnode
      cases hnode
    rwa [get?_set_of_ne hplace] at hget
  · by_cases hplace : place = other
    · exact ⟨old, hplace ▸ hold, hfile⟩
    · rw [get?_set_of_ne hplace] at hget
      exact ⟨found, hget, hfound⟩

/-- What is in a directory stays when a file elsewhere is rewritten. -/
theorem inside?_rewrite {old : Node} (hold : t.get? other = some old) (hfile : old.isFile = true)
    (hnode : node.isFile = true) (hout : t.find cwd p ≠ .ok (other.dropLast, .directory)) :
    (t.set other node).inside? cwd p = t.inside? cwd p := by
  have hextends : t.Extends (t.set other node) := extends_set fun old' hold' => by
    rw [hold] at hold'
    cases hold'
    exact ⟨hfile, hnode⟩
  cases hinside : t.inside? cwd p with
  | some content =>
    obtain ⟨place, hfind, rfl⟩ := inside?_eq_some.mp hinside
    refine inside?_eq_some.mpr ⟨place, find_directory_of_extends hextends hfind, ?_⟩
    funext name
    rw [get?_set_of_ne]
    rintro rfl
    exact hout (by rwa [List.dropLast_concat])
  | none =>
    -- a path that led to a directory only afterwards would have led there before
    cases hinside' : (t.set other node).inside? cwd p with
    | none => rfl
    | some content =>
      obtain ⟨place, hfind, -⟩ := inside?_eq_some.mp hinside'
      have hback := inside?_eq_some.mpr
        ⟨place, find_directory_of_extends (extends_of_set hold hfile hnode) hfind, rfl⟩
      rw [hinside] at hback
      cases hback

/-- A directory that was taken away is not there. -/
theorem inside?_prune (hfind : t.find cwd p = .ok (place, node)) (hplace : place ≠ []) :
    (t.prune place).inside? cwd p = none := by
  have hextends : (t.prune place).Extends t := by
    have hget {other : Place} {found : Node} (h : (t.prune place).get? other = some found) :
        t.get? other = some found := by
      by_cases hroot : other = []
      · subst hroot
        exact h
      · rw [get?_prune hroot] at h
        split at h
        · cases h
        · exact h
    exact ⟨fun other found h _ => hget h, fun other found h hfile => ⟨found, hget h, hfile⟩⟩
  cases hinside : (t.prune place).inside? cwd p with
  | none => rfl
  | some content =>
    -- it would be where it was, and there is nothing there
    obtain ⟨place', hfind', -⟩ := inside?_eq_some.mp hinside
    have hback := find_directory_of_extends hextends hfind'
    rw [hfind] at hback
    cases hback
    have hget := (find_eq_ok.mp hfind').2
    rw [get?_prune hplace, if_pos (by simp)] at hget
    cases hget

end ClassOrder.FileTree
