import ClassOrder.Workspace.Document
import ClassOrder.Workspace.Project

/-!
# The names of a project's files

A project's files are copied right into a workspace, under the names that they have, besides the
virtual document.  That goes well if these names are names of files, and not that of the virtual
document; and the patterns by which projects are found make sure of it.

## Main definitions

* `Path.Proper`, `Project.Proper` — the names of a project's files are names of their own.
* `Patterns.Proper` — the patterns name such files.
* `Project.Apart`, `Patterns.Apart` — a configuration and a stylesheet have different names.

## Main results

* `findProject_proper`, `standard_proper` — **every project that is found by the patterns is
  proper.**
* `findProject_apart`, `standard_apart` — **its files have different names.**
-/

namespace ClassOrder

/-- The last part of a path is a name, other than that of the virtual document. -/
def Path.Proper (p : Path) : Prop := p.name ≠ ".." ∧ p.name ≠ documentName

/-- The project's files have names of their own. -/
structure Project.Proper (p : Project) : Prop where
  config : ∀ config, p.config = some config → config.Proper
  stylesheet : ∀ sheet, p.stylesheet = some sheet → sheet.Proper

/-- Every pattern is seen from a directory and ends with a name of its own. -/
def Patterns.Proper (patterns : Patterns) : Prop :=
  ∀ p ∈ patterns.config ++ patterns.stylesheet, p.absolute = false ∧ p.parts ≠ [] ∧ p.Proper

variable {patterns : Patterns} {h : Host} {directory p : Path}

instance : DecidablePred Path.Proper := fun _ => inferInstanceAs (Decidable (_ ∧ _))

theorem Patterns.standard_proper : Patterns.standard.Proper := by
  unfold Patterns.Proper
  decide +kernel

theorem Path.name_join {q : Path} (habsolute : q.absolute = false) (hparts : q.parts ≠ []) :
    (p.join q).name = q.name := by
  obtain ⟨last, hlast⟩ := Option.isSome_iff_exists.mp (List.getLast?_isSome.mpr hparts)
  rw [join, if_neg (by simp [habsolute]), name, name, List.getLastD_eq_getLast?,
    List.getLastD_eq_getLast?, List.getLast?_append, hlast, Option.some_or]

/-- The first file has the name of a pattern. -/
theorem firstFile?_name {files : List Path}
    (hfiles : ∀ p ∈ files, p.absolute = false ∧ p.parts ≠ [] ∧ p.Proper)
    (hfirst : firstFile? h directory files = some p) : ∃ q ∈ files, p.name = q.name := by
  obtain ⟨q, hq, rfl⟩ := List.mem_map.mp (List.mem_of_find?_eq_some hfirst)
  obtain ⟨habsolute, hparts, -⟩ := hfiles q hq
  exact ⟨q, hq, Path.name_join habsolute hparts⟩

theorem firstFile?_proper {files : List Path}
    (hfiles : ∀ p ∈ files, p.absolute = false ∧ p.parts ≠ [] ∧ p.Proper)
    (hfirst : firstFile? h directory files = some p) : p.Proper := by
  obtain ⟨q, hq, hname⟩ := firstFile?_name hfiles hfirst
  rw [Path.Proper, hname]
  exact (hfiles q hq).2.2

/-- The files of a project that is found are the first ones in its directory. -/
theorem findProject_files (h : Host) (patterns : Patterns) (start : Place) :
    findProject h patterns start = {} ∨ ∃ place config,
      firstFile? h (Path.root place) patterns.config = some config ∧
        findProject h patterns start = ⟨some (Path.root place), some config,
          firstFile? h (Path.root place) patterns.stylesheet⟩ := by
  rw [findProject]
  cases hfound : ((ancestors start).filter (!·.isEmpty)).findSome? (projectAt? h patterns) with
  | none => exact .inl rfl
  | some project =>
    obtain ⟨place, -, hproject⟩ := List.exists_of_findSome?_eq_some hfound
    obtain ⟨config, hconfig, rfl⟩ := Option.map_eq_some_iff.mp hproject
    exact .inr ⟨place, config, hconfig, rfl⟩

/-- **Every project that is found is proper** if the patterns are. -/
theorem findProject_proper (hpatterns : patterns.Proper) (h : Host) (start : Place) :
    (findProject h patterns start).Proper := by
  rcases findProject_files h patterns start with hnone | ⟨place, config, hconfig, hfound⟩
  · rw [hnone]
    exact ⟨nofun, nofun⟩
  · rw [hfound]
    refine ⟨fun config' hc => ?_, fun sheet hs => ?_⟩
    · cases hc
      exact firstFile?_proper (fun p hp => hpatterns p (List.mem_append_left _ hp)) hconfig
    · exact firstFile?_proper (fun p hp => hpatterns p (List.mem_append_right _ hp)) hs

/-! ### Names that are told apart -/

/-- The configuration and the stylesheet have different names. -/
def Project.Apart (p : Project) : Prop :=
  ∀ config sheet, p.config = some config → p.stylesheet = some sheet → config.name ≠ sheet.name

/-- No pattern for a configuration ends with the name that one for a stylesheet ends with. -/
def Patterns.Apart (patterns : Patterns) : Prop :=
  ∀ p ∈ patterns.config, ∀ q ∈ patterns.stylesheet, p.name ≠ q.name

theorem Patterns.standard_apart : Patterns.standard.Apart := by
  unfold Patterns.Apart
  decide +kernel

/-- **The files of every project that is found have different names** if the patterns have. -/
theorem findProject_apart (hproper : patterns.Proper) (hapart : patterns.Apart) (h : Host)
    (start : Place) : (findProject h patterns start).Apart := by
  intro config sheet hconfig hsheet
  rcases findProject_files h patterns start with hnone | ⟨place, config', hfirst, hfound⟩
  · rw [hnone] at hconfig
    cases hconfig
  · rw [hfound] at hconfig hsheet
    cases hconfig
    obtain ⟨p, hp, hname⟩ :=
      firstFile?_name (fun p hp => hproper p (List.mem_append_left _ hp)) hfirst
    obtain ⟨q, hq, hname'⟩ :=
      firstFile?_name (fun p hp => hproper p (List.mem_append_right _ hp)) hsheet
    rw [hname, hname']
    exact hapart p hp q hq

end ClassOrder
