import ClassOrder.Proofs.Files.Following

/-!
# What is left after a file was written

Writing a file changes what stands at one place, and that is where the path leads afterwards.  If
the path led to nothing before, all else that stands in the tree stands there still; so it does
after a directory was made.  A copied file is not its source, so the source is what it was.

## Main definitions

* `FileTree.Within` — all that stands in one tree stands in another one as it is.

## Main results

* `write_ok`, `copy_ok` — what is where a file was written or copied to.
* `write_within`, `makeDirectory_within` — what stays.
-/

namespace ClassOrder.FileTree

variable {t u v : FileTree} {cwd place : Place} {p source target : Path} {node : Node}
  {bytes : Bytes} {found : Bool}

/-- All that stands in the first tree stands in the second one as it is. -/
def Within (t u : FileTree) : Prop :=
  ∀ place node, t.get? place = some node → u.get? place = some node

theorem Within.refl (t : FileTree) : t.Within t := fun _ _ h => h

theorem Within.trans (h : t.Within u) (h' : u.Within v) : t.Within v :=
  fun place node hget => h' place node (h place node hget)

theorem Within.extends (h : t.Within u) : t.Extends u where
  same place node hget _ := h place node hget
  file place node hget hfile := ⟨node, h place node hget, hfile⟩

theorem within_set_new (h : t.get? place = none) (node : Node) : t.Within (t.set place node) := by
  intro other old hold
  rw [get?_set_of_ne]
  · exact hold
  · rintro rfl
    rw [h] at hold
    cases hold

theorem find_of_within (h : t.Within u) (hfind : t.find cwd p = .ok (place, node)) :
    u.find cwd p = .ok (place, node) := by
  obtain ⟨hlocate, hget⟩ := find_eq_ok.mp hfind
  exact find_eq_ok.mpr ⟨locate_of_extends h.extends hlocate, h _ _ hget⟩

theorem modified_of_within (h : t.Within u) {time : Int} (hmodified : t.modified cwd p = .ok time) :
    u.modified cwd p = .ok time := by
  rw [modified] at hmodified ⊢
  cases hfind : t.find cwd p with
  | error fault =>
    rw [hfind] at hmodified
    cases hmodified
  | ok found =>
    rw [hfind] at hmodified
    rw [find_of_within h hfind]
    exact hmodified

/-- Nothing stands where a path leads that leads to nothing. -/
theorem get?_of_missing (h : t.locate cwd p = .ok (place, false)) : t.get? place = none :=
  ((follow_eq_ok.mp h).set_new .directory rfl nofun).1

theorem get?_of_not_exists (h : t.exists? cwd p = false)
    (hlocate : t.locate cwd p = .ok (place, found)) : t.get? place = none := by
  cases found with
  | false => exact get?_of_missing hlocate
  | true =>
    rw [exists?, find?, find, hlocate] at h
    cases hget : t.get? place with
    | none => rfl
    | some node => simp [hget] at h

/-! ### Writing -/

/-- A file that is put where a path leads extends the tree, if a file stood there or nothing, and
the path leads to it. -/
theorem set_file_extends (hlocate : t.locate cwd p = .ok (place, found))
    (hold : ∀ old, t.get? place = some old → old.isFile = true) (time : Int) (executable : Bool) :
    t.Extends (t.set place (.file bytes time executable)) ∧
      (t.set place (.file bytes time executable)).find cwd p =
        .ok (place, .file bytes time executable) := by
  have hextends : t.Extends (t.set place (.file bytes time executable)) :=
    extends_set fun old h => ⟨hold old h, rfl⟩
  have hne : place ≠ [] := by
    rintro rfl
    cases hold .directory rfl
  refine ⟨hextends, find_eq_ok.mpr ⟨?_, get?_set_self hne _ t⟩⟩
  cases found with
  | true => exact locate_of_extends hextends hlocate
  | false =>
    -- the way stops one step short of the place, and the new file is that step
    exact follow_eq_ok.mpr
      ((follow_eq_ok.mp hlocate).set_new (.file bytes time executable) rfl nofun).2

/-- What a write comes to: a file is put where the path leads, at a place where a file stood or
nothing, and the path leads to it. -/
theorem write_ok (h : t.write cwd p bytes = .ok u) :
    ∃ place found time executable, t.locate cwd p = .ok (place, found) ∧
      u = t.set place (.file bytes time executable) ∧ t.Extends u ∧
      u.find cwd p = .ok (place, .file bytes time executable) := by
  rw [write] at h
  cases hlocate : t.locate cwd p with
  | error fault =>
    rw [hlocate] at h
    cases h
  | ok located =>
    obtain ⟨place, found⟩ := located
    rw [hlocate] at h
    refine ⟨place, found, ?_⟩
    dsimp only at h
    split at h
    · next time executable hget =>
      cases h
      refine ⟨time, executable, rfl, rfl, set_file_extends hlocate (fun old hold => ?_) _ _⟩
      rw [hget] at hold
      cases hold
      rfl
    · next hget =>
      cases h
      refine ⟨0, false, rfl, rfl, set_file_extends hlocate (fun old hold => ?_) _ _⟩
      rw [hget] at hold
      cases hold
    · cases h

/-- A file that is written where there was nothing leaves all else as it is. -/
theorem write_within (hnone : t.exists? cwd p = false) (h : t.write cwd p bytes = .ok u) :
    t.Within u := by
  obtain ⟨place, found, time, executable, hlocate, rfl, -⟩ := write_ok h
  exact within_set_new (get?_of_not_exists hnone hlocate) _

theorem makeDirectory_within (h : t.makeDirectory cwd p = .ok u) : t.Within u := by
  rw [makeDirectory] at h
  split at h
  · cases h
  · cases h
  · next place hlocate =>
    cases h
    exact within_set_new (get?_of_missing hlocate) _

/-! ### Copying -/

/-- What a copy comes to: the source is a file and stays what it is, and there are its bytes where
the target leads. -/
theorem copy_ok (h : t.copy cwd source target = .ok u) :
    ∃ origin bytes modified executable place time executable',
      t.find cwd source = .ok (origin, .file bytes modified executable) ∧
      u.find cwd source = .ok (origin, .file bytes modified executable) ∧
      u.find cwd target = .ok (place, .file bytes time executable') := by
  rw [copy] at h
  split at h
  · cases h
  · next hsame =>
    rw [read] at h
    cases hfind : t.find cwd source with
    | error fault =>
      rw [hfind] at h
      cases h
    | ok located =>
      obtain ⟨origin, node⟩ := located
      rw [hfind] at h
      cases node with
      | directory => cases h
      | link target => cases h
      | file bytes modified executable =>
        obtain ⟨place, found, time, executable', hlocate, rfl, hextends, htarget⟩ := write_ok h
        obtain ⟨horigin, hget⟩ := find_eq_ok.mp hfind
        -- at one place with the source, the target would be the same file, or there is none
        have hne : origin ≠ place := by
          rintro rfl
          cases found with
          | true => simp [same, horigin, hlocate] at hsame
          | false =>
            rw [get?_of_missing hlocate] at hget
            cases hget
        exact ⟨origin, bytes, modified, executable, place, time, executable', rfl,
          find_set_of_ne hfind hextends hne, htarget⟩

/-- A copy to where there was nothing leaves all else as it is. -/
theorem copy_within (hnone : t.exists? cwd target = false) (h : t.copy cwd source target = .ok u) :
    t.Within u := by
  rw [copy] at h
  split at h
  · cases h
  · split at h
    · cases h
    · exact write_within hnone h

end ClassOrder.FileTree
