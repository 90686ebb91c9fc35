import ClassOrder.Proofs.Files.Inside

/-!
# Taking a directory away

A directory is taken away at the place that its name has in the directory above.  Unless a link
stands there, that is where its path leads, and so the path leads to no directory afterwards.

## Main results

* `Follows.child` — a path with one more name leads to that name, or goes on at a link.
* `isDirectory_removeTree` — **a directory that was taken away is not there.**
-/

namespace ClassOrder.FileTree

variable {t u : FileTree} {cwd here base place place' : Place} {parts rest : List String}
  {name last : String} {p : Path} {links : Nat} {found : Bool}

/-- A walk with one more name to walk goes on to it, unless it has arrived at a file. -/
theorem walk_append_name (hwalk : t.walk here parts = .arrived place) (name : String) :
    t.walk here (parts ++ [name]) = t.walk place [name] ∨
      t.walk here (parts ++ [name]) = .blocked := by
  fun_induction walk t here parts with
  | case1 here =>
    cases hwalk
    exact .inl rfl
  | case2 here rest ih =>
    rw [List.cons_append, walk_up]
    exact ih hwalk
  | case3 => cases hwalk
  | case4 here part rest hup hget ih =>
    rw [List.cons_append, walk_directory hup hget]
    exact ih hwalk
  | case5 here part rest hup bytes time executable hget hrest =>
    obtain rfl := List.isEmpty_iff.mp hrest
    right
    rw [List.cons_append, walk, if_neg hup, hget]
    rfl
  | case6 => cases hwalk
  | case7 => cases hwalk

theorem walk_append_missing (hwalk : t.walk here parts = .missing base last rest)
    (more : List String) :
    t.walk here (parts ++ more) = .missing base last (rest ++ more) := by
  fun_induction walk t here parts with
  | case1 => cases hwalk
  | case2 here rest ih => exact (walk_up t here (rest ++ more)).trans (ih hwalk)
  | case3 here part rest hup hget =>
    cases hwalk
    exact walk_none hup hget
  | case4 here part rest hup hget ih => exact (walk_directory hup hget).trans (ih hwalk)
  | case5 => cases hwalk
  | case6 => cases hwalk
  | case7 => cases hwalk

/-- A walk of one name arrives there or stops before it, unless a link stands there. -/
theorem walk_name (hname : name ≠ "..")
    (hlink : ∀ target, t.get? (place ++ [name]) ≠ some (.link target)) :
    t.walk place [name] = .arrived (place ++ [name]) ∨
      t.walk place [name] = .missing place name [] := by
  cases hget : t.get? (place ++ [name]) with
  | none => exact .inr (walk_none hname hget)
  | some node =>
    left
    cases node with
    | directory => rw [walk_directory hname hget, walk]
    | file bytes time executable => exact walk_file hname hget rfl
    | link target => exact absurd hget (hlink target)

/-- A path with one more name leads to that name in what the path leads to, unless a link stands
there. -/
theorem Follows.child (h : t.Follows links here parts place found) (hname : name ≠ "..")
    (hlink : ∀ target, t.get? (place ++ [name]) ≠ some (.link target))
    (hchild : t.follow links here (parts ++ [name]) = .ok (place', true)) :
    place' = place ++ [name] := by
  induction h with
  | @arrived links here parts place hwalk =>
    rw [follow] at hchild
    rcases walk_append_name hwalk name with hmore | hmore
    · rw [hmore] at hchild
      rcases walk_name hname hlink with hlast | hlast
      · rw [hlast] at hchild
        cases hchild
        rfl
      · rw [hlast] at hchild
        cases hlong : isTooLong name <;> simp [hlong] at hchild
    · rw [hmore] at hchild
      cases hchild
  | missing hwalk hshort =>
    rw [follow, walk_append_missing hwalk] at hchild
    simp [hshort] at hchild
  | @link links here parts base last target rest place found hwalk hrest ih =>
    rw [follow, walk_append_link hwalk [name]] at hchild
    refine ih hlink ?_
    rw [List.append_assoc]
    exact hchild

/-- A directory that is taken away is pruned where its path leads. -/
theorem removeTree_child (hname : name ≠ "..") {node : Node}
    (hfind : t.find cwd (p.child name) = .ok (place, node))
    (hremove : t.removeTree cwd (p.child name) = .ok u) : u = t.prune place ∧ place ≠ [] := by
  obtain ⟨hlocate, -⟩ := find_eq_ok.mp hfind
  have hparts : (p.child name).parts.dropLast = p.parts := List.dropLast_concat
  have hlast : (p.child name).name = name := by simp [Path.child, Path.name]
  rw [removeTree, hparts, hlast] at hremove
  split at hremove
  · cases hremove
  · next above found habove =>
    dsimp only at hremove
    split at hremove
    · cases hremove
    · next hnolink =>
      cases hremove
      obtain rfl := (follow_eq_ok.mp habove).child hname
        (fun target hlink => hnolink target hlink) hlocate
      exact ⟨rfl, by simp⟩

/-- **A directory that was taken away is not there.** -/
theorem isDirectory_removeTree (hname : name ≠ "..")
    (hdirectory : t.isDirectory cwd (p.child name) = true)
    (hremove : t.removeTree cwd (p.child name) = .ok u) :
    u.isDirectory cwd (p.child name) = false := by
  rw [← isSome_inside?] at hdirectory ⊢
  obtain ⟨content, hinside⟩ := Option.isSome_iff_exists.mp hdirectory
  obtain ⟨place, hfind, -⟩ := inside?_eq_some.mp hinside
  obtain ⟨rfl, hplace⟩ := removeTree_child hname hfind hremove
  rw [inside?_prune hfind hplace]
  rfl

end ClassOrder.FileTree
