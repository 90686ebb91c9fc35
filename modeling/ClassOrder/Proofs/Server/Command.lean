import ClassOrder.Proofs.Files.Ancestors
import ClassOrder.Server.Command

/-!
# The nearest server

The command that launches the server comes from one of three places, each of which counts only if
those before it have none: the command that is given, the server that is installed with the nearest
project at or above a directory, and the search path.  The walk up from the directory passes over
places where what is named like the server is a directory or may not be run.  It ends with the root
of the file tree, which counts like any other place.

## Main definitions

* `Host.HasServer` — a place has a server that can be run.
* `Host.Resolves` — which command launches the server.

## Main results

* `installedServer?_eq_some_iff`, `installedServer?_eq_none_iff` — **the walk leads to the nearest
  place that has a server.**
* `serverSource_resolves_nearest` — **the command is the given one, else that of the nearest server,
  else the one on the search path.**
-/

namespace ClassOrder

variable {τ : Type} {h : Host} {given : Option (List String)} {start : Option String}
  {place : Place} {name : String} {path : Path} {outcome : Except (Fault τ) (List String)}

namespace Host

/-- What is installed with the project in a place is a file that can be run. -/
def HasServer (h : Host) (place : Place) : Prop :=
  ∃ bytes modified, h.files.find? h.cwd
    (Path.root (place ++ ["node_modules", ".bin", "tailwindcss-language-server"])) =
      some (.file bytes modified true)

/-- The command that launches the server, and what there is to say when there is none, given a
command or not and a directory to start from. -/
inductive Resolves (h : Host) (start : Option String) :
    Option (List String) → Except (Fault τ) (List String) → Prop where
  /-- A command that has a word is taken as it is. -/
  | given {command : List String} : command ≠ [] → Resolves h start (some command) (.ok command)
  /-- The directory to start from cannot be told. -/
  | astray {given : Option (List String)} {fault : Fault τ} : given.getD [] = [] →
      h.startPlace start = .error fault → Resolves h start given (.error fault)
  /-- The nearest server that is installed. -/
  | installed {given : Option (List String)} {place root : Place} : given.getD [] = [] →
      h.startPlace (τ := τ) start = .ok place → Nearest h.HasServer place root →
      Resolves h start given (.ok
        [(Path.root (root ++ ["node_modules", ".bin", "tailwindcss-language-server"])).toString])
  /-- None is installed, and the search path leads to one. -/
  | onPath {given : Option (List String)} {place : Place} {program : String} :
      given.getD [] = [] → h.startPlace (τ := τ) start = .ok place →
      (∀ above, above <+: place → ¬ h.HasServer above) →
      onSearchPath? h "tailwindcss-language-server" = some program →
      Resolves h start given (.ok [program])
  /-- None is installed, and the search path leads nowhere. -/
  | missing {given : Option (List String)} {place : Place} : given.getD [] = [] →
      h.startPlace (τ := τ) start = .ok place →
      (∀ above, above <+: place → ¬ h.HasServer above) →
      onSearchPath? h "tailwindcss-language-server" = none →
      Resolves h start given (.error .serverNotFound)

end Host

/-! ### The walk -/

/-- The walk looks where the servers are. -/
theorem installedAt_eq (place : Place) :
    installedAt place =
      Path.root (place ++ ["node_modules", ".bin", "tailwindcss-language-server"]) :=
  rfl

theorem Host.isExecutable_installedAt_iff :
    h.isExecutable (installedAt place) = true ↔ h.HasServer place := by
  rw [HasServer, ← installedAt_eq, isExecutable, FileTree.isExecutable]
  split
  · next bytes modified executable heq => simp [heq]
  · next hother => simpa using fun bytes modified heq => hother bytes modified true heq

/-- The walk ends where there is a server. -/
theorem installedServer?_of_hasServer (hserver : h.HasServer place) :
    installedServer? h place = some (installedAt place) := by
  have hhere := Host.isExecutable_installedAt_iff.mpr hserver
  cases place using List.reverseRecOn with
  | nil => exact List.find?_cons_of_pos hhere
  | append_singleton place name =>
    rw [installedServer?, ancestors_concat, List.map_cons, List.find?_cons_of_pos hhere]

/-- A place without a server is passed by. -/
theorem installedServer?_concat (hserver : ¬ h.HasServer (place ++ [name])) :
    installedServer? h (place ++ [name]) = installedServer? h place := by
  rw [installedServer?, ancestors_concat, List.map_cons,
    List.find?_cons_of_neg (mt Host.isExecutable_installedAt_iff.mp hserver), installedServer?]

/-- At the root of the tree there is nothing to go on to. -/
theorem installedServer?_nil (hserver : ¬ h.HasServer []) : installedServer? h [] = none :=
  List.find?_cons_of_neg (mt Host.isExecutable_installedAt_iff.mp hserver)

/-- **The walk leads to the nearest place that has a server**: by induction on the place, from its
last name upwards. -/
theorem installedServer?_eq_some_iff :
    installedServer? h place = some path ↔
      ∃ root, Nearest h.HasServer place root ∧ path = installedAt root := by
  have hhere {place : Place} (hserver : h.HasServer place) :
      installedServer? h place = some path ↔
        ∃ root, Nearest h.HasServer place root ∧ path = installedAt root := by
    rw [installedServer?_of_hasServer hserver, Option.some_inj]
    constructor
    · rintro rfl
      exact ⟨place, nearest_self hserver, rfl⟩
    · rintro ⟨root, hnear, rfl⟩
      rw [hnear.unique (nearest_self hserver)]
  induction place using List.reverseRecOn with
  | nil =>
    by_cases hserver : h.HasServer []
    · exact hhere hserver
    · rw [installedServer?_nil hserver]
      refine iff_of_false (Option.some_ne_none path).symm ?_
      rintro ⟨root, hnear, -⟩
      exact hserver (List.prefix_nil.mp hnear.above ▸ hnear.holds)
  | append_singleton place name ih =>
    by_cases hserver : h.HasServer (place ++ [name])
    · exact hhere hserver
    · simp only [installedServer?_concat hserver, ih, nearest_concat hserver]

/-- **The walk leads nowhere exactly if no place on it has a server.** -/
theorem installedServer?_eq_none_iff :
    installedServer? h place = none ↔ ∀ above, above <+: place → ¬ h.HasServer above := by
  simp only [installedServer?, List.find?_eq_none, List.mem_map, forall_exists_index, and_imp,
    forall_apply_eq_imp_iff₂, mem_ancestors, Host.isExecutable_installedAt_iff]

/-- A file that may not be run is passed by, and the root of the tree counts. -/
example :
    installedServer? { files := ⟨[(["node_modules"], .directory),
      (["node_modules", ".bin"], .directory),
      (["node_modules", ".bin", serverProgram], .file [97] 1 true), (["w"], .directory),
      (["w", "node_modules"], .directory), (["w", "node_modules", ".bin"], .directory),
      (["w", "node_modules", ".bin", serverProgram], .file [97] 1 false)]⟩ } ["w", "a"] =
        some (Path.ofString "/node_modules/.bin/tailwindcss-language-server") := by decide +kernel

/-! ### The three places -/

/-- A directory that cannot be told is no missing server. -/
theorem Host.startPlace_ne_serverNotFound :
    h.startPlace start ≠ .error (.serverNotFound : Fault τ) := by
  unfold startPlace
  split
  · simp
  · simp
  · split_ifs
    · simp
    · split
      · split_ifs <;> simp
      · simp [Fault.circularLinks]

theorem serverSource_of_given {command : List String} (hcommand : command ≠ []) :
    serverSource (τ := τ) h (some command) start = .ok (.given command) := by
  cases command with
  | nil => exact absurd rfl hcommand
  | cons word words => rfl

/-- Without a command the machine is searched. -/
theorem serverSource_of_not_given (hgiven : given.getD [] = []) :
    serverSource (τ := τ) h given start =
      match h.startPlace start with
      | .error fault => .error fault
      | .ok place =>
        match installedServer? h place with
        | some path => .ok (.installed path)
        | none =>
          match onSearchPath? h "tailwindcss-language-server" with
          | some program => .ok (.onPath program)
          | none => .error .serverNotFound := by
  cases given with
  | none => rfl
  | some command =>
    obtain rfl : command = [] := hgiven
    rfl

/-- What launches the server is one of the cases. -/
theorem resolves_serverSource (h : Host) (given : Option (List String)) (start : Option String) :
    h.Resolves start given ((serverSource (τ := τ) h given start).map ServerSource.command) := by
  by_cases hgiven : given.getD [] = []
  · rw [serverSource_of_not_given hgiven]
    cases hplace : h.startPlace (τ := τ) start with
    | error fault => exact .astray hgiven hplace
    | ok place =>
      cases hinstalled : installedServer? h place with
      | some path =>
        obtain ⟨root, hnear, rfl⟩ := installedServer?_eq_some_iff.mp hinstalled
        simp only [hinstalled]
        exact .installed hgiven hplace hnear
      | none =>
        have hnone := installedServer?_eq_none_iff.mp hinstalled
        simp only [hinstalled]
        cases hprogram : onSearchPath? h "tailwindcss-language-server" with
        | some program => exact .onPath hgiven hplace hnone hprogram
        | none => exact .missing hgiven hplace hnone hprogram
  · cases given with
    | none => exact absurd rfl hgiven
    | some command =>
      have hcommand : command ≠ [] := hgiven
      rw [serverSource_of_given hcommand]
      exact .given hcommand

/-- The cases exclude one another. -/
theorem Host.Resolves.eq_serverSource (hresolves : h.Resolves start given outcome) :
    (serverSource h given start).map ServerSource.command = outcome := by
  cases hresolves with
  | given hcommand =>
    rw [serverSource_of_given hcommand]
    rfl
  | astray hgiven hplace =>
    rw [serverSource_of_not_given hgiven, hplace]
    rfl
  | installed hgiven hplace hnear =>
    rw [serverSource_of_not_given hgiven, hplace]
    simp only [installedServer?_eq_some_iff.mpr ⟨_, hnear, rfl⟩]
    rfl
  | onPath hgiven hplace hnone hprogram =>
    rw [serverSource_of_not_given hgiven, hplace]
    simp only [installedServer?_eq_none_iff.mpr hnone, hprogram]
    rfl
  | missing hgiven hplace hnone hprogram =>
    rw [serverSource_of_not_given hgiven, hplace]
    simp only [installedServer?_eq_none_iff.mpr hnone, hprogram]
    rfl

/-- **The command is the given one, else that of the nearest server, else the one on the search
path.**  A command that has a word is taken as it is.  Without one, the server that is installed
with the nearest project is launched, at or above the directory to start from and up to the root of
the file tree, and if there is none the program that the search path leads to.  A server is missing
exactly if there is none of the three. -/
theorem serverSource_resolves_nearest (h : Host) (given : Option (List String))
    (start : Option String) :
    (∀ outcome : Except (Fault τ) (List String),
      (serverSource h given start).map ServerSource.command = outcome ↔
        h.Resolves start given outcome) ∧
      (serverSource (τ := τ) h given start = .error .serverNotFound ↔
        given.getD [] = [] ∧ ∃ place, h.startPlace (τ := τ) start = .ok place ∧
          (∀ above, above <+: place → ¬ h.HasServer above) ∧
            onSearchPath? h "tailwindcss-language-server" = none) := by
  have hiff (outcome : Except (Fault τ) (List String)) :
      (serverSource h given start).map ServerSource.command = outcome ↔
        h.Resolves start given outcome :=
    ⟨fun heq => heq ▸ resolves_serverSource h given start, Host.Resolves.eq_serverSource⟩
  refine ⟨hiff, ?_⟩
  -- taking the command of a source changes no fault
  have hmap : serverSource (τ := τ) h given start = .error .serverNotFound ↔
      (serverSource h given start).map ServerSource.command =
        .error (.serverNotFound : Fault τ) := by
    cases serverSource (τ := τ) h given start <;> simp [Except.map]
  rw [hmap, hiff]
  constructor
  · intro hresolves
    cases hresolves with
    | astray hgiven hplace => exact absurd hplace Host.startPlace_ne_serverNotFound
    | missing hgiven hplace hnone hprogram => exact ⟨hgiven, _, hplace, hnone, hprogram⟩
  · rintro ⟨hgiven, place, hplace, hnone, hprogram⟩
    exact .missing hgiven hplace hnone hprogram

end ClassOrder
