import ClassOrder.Proofs.Session.Complete
import ClassOrder.Proofs.Session.Lasting

/-!
# Where a server lives

A server is launched in the workspace, and the workspace is only forgotten when there is no server
left.  So a session with a server has a workspace, whatever has happened to it; and the workspace is
a directory with a name of its own right in another one.

## Main definitions

* `Session.Housed` — a session with a server has a workspace.
* `Session.Reached` — a session that has come about in a run.

## Main results

* `Housed.take` — every turn leaves a session housed.
* `Reached.housed`, `Reached.formerEnded` — **a session that has come about is housed, and its
  servers of before have ended.**
-/

namespace ClassOrder

open ClassOrder.Action (Keeps Leaves Triple)

variable {τ α : Type}

namespace Session

/-- A session with a server has a workspace, which is right in another directory. -/
structure Housed (s : Session τ) : Prop where
  placed : ∀ directory, s.staging = some directory →
    ∃ (above : Path) (name : String), name ≠ ".." ∧ directory = above.child name
  lodged : s.attached.isSome = true → s.staging.isSome = true

variable {s t u : Session τ}

theorem Housed.of_attached_none (h : s.Housed) (hstaging : t.staging = s.staging)
    (hnone : t.attached = none) : t.Housed where
  placed := hstaging ▸ h.placed
  lodged ha := by
    rw [hnone] at ha
    cases ha

/-! ### The workspace -/

/-- The name of a new workspace does not lead upwards. -/
theorem stagingName_ne_up (s : Session τ) : s.stagingName ≠ ".." := by
  intro h
  have hlength : "tailwind_sorter_".length ≤ s.stagingName.length := by
    simp only [stagingName, String.length_append]
    omega
  rw [h] at hlength
  exact absurd hlength (by decide)

theorem withFiles_leaves_staging (change : FileTree → Place → Except SystemFault FileTree) :
    (withFiles change : Action (Session τ) τ Unit).Leaves (·.staging) := by
  refine Leaves.of_apply fun s => ?_
  rw [withFiles, Action.apply_ofFun]
  dsimp only
  split <;> rfl

theorem Outward.leaves_staging {a : Action (Session τ) τ α} (h : Outward a) :
    a.Leaves (·.staging) := Leaves.map h Premises.staging

theorem copyProject_leaves_staging (directory config : Path) (stylesheet : Option Path)
    (time : Int) :
    (copyProject directory config stylesheet time : Action (Session τ) τ Unit).Leaves
      (·.staging) := by
  have hend : (do
      let content ← readText config
      modify fun s => { s with snapshot := some ⟨config, time, content⟩ }
      dropResults : Action (Session τ) τ Unit).Leaves (·.staging) :=
    Leaves.bind (outward_readText config).leaves_staging fun _ =>
      Leaves.bind (Leaves.modify fun _ => rfl) fun _ => Leaves.modify fun _ => rfl
  refine Leaves.bind (Leaves.modify fun _ => rfl) fun _ =>
    Leaves.bind (withFiles_leaves_staging _) fun _ => ?_
  cases stylesheet with
  | none => exact hend
  | some sheet =>
    exact Leaves.get_bind fun _ =>
      Leaves.ite (Leaves.bind (withFiles_leaves_staging _) fun _ => hend) hend

/-- Making the workspace ready keeps what is known of its directory, if it is known of every new
one. -/
theorem prepareWorkspace_keeps {I : Option Path → Prop}
    (hnew : ∀ (above : Path) name, name ≠ ".." → I (some (above.child name))) :
    (prepareWorkspace : Action (Session τ) τ Unit).Keeps fun s => I s.staging := by
  have hsame {β : Type} {a : Action (Session τ) τ β} (ha : a.Leaves (·.staging)) :
      a.Keeps fun s => I s.staging := ha.keeps fun _ _ heq hs => heq ▸ hs
  have hcreate : (createStaging : Action (Session τ) τ Path).Keeps fun s => I s.staging :=
    Keeps.get_bind fun s => Keeps.bind (hsame (withFiles_leaves_staging _)) fun _ =>
      Keeps.bind (Keeps.modify fun _ _ => hnew _ _ (stagingName_ne_up s)) fun _ =>
        Keeps.bind (hsame (Leaves.modify fun _ => rfl)) fun _ => Keeps.pure _
  have hdirectory : (stageDirectory : Action (Session τ) τ Path).Keeps fun s => I s.staging := by
    refine Keeps.get_bind fun s => ?_
    split
    · exact Keeps.ite (Keeps.pure _) hcreate
    · exact hcreate
  refine Keeps.bind hdirectory fun directory => Keeps.bind ?_ fun _ => Keeps.get_bind fun s => ?_
  · exact Keeps.get_bind fun _ => Keeps.ite (hsame (withFiles_leaves_staging _)) (Keeps.pure _)
  · dsimp only
    split
    · exact hsame (Leaves.bind (outward_configTime _).leaves_staging fun _ =>
        Leaves.get_bind fun _ => Leaves.ite
          (Leaves.bind (copyProject_leaves_staging _ _ _ _) fun _ => Leaves.modify fun _ => rfl)
          (Leaves.modify fun _ => rfl))
    · exact hsame (Leaves.get_bind fun _ => Leaves.ite
        (Leaves.bind (Leaves.modify fun _ => rfl) fun _ =>
          Leaves.bind (withFiles_leaves_staging _) fun _ =>
            Leaves.bind (withFiles_leaves_staging _) fun _ => Leaves.modify fun _ => rfl)
        (Leaves.modify fun _ => rfl))

theorem prepareWorkspace_housed : (prepareWorkspace : Action (Session τ) τ Unit).Keeps Housed := by
  refine Keeps.of_apply fun s hs => ?_
  have hattached : (prepareWorkspace.apply s).2.attached = s.attached :=
    congrArg Holdings.attached (quiet_prepareWorkspace.apply s)
  obtain ⟨hplaced, hlodged⟩ := (prepareWorkspace_keeps (I := fun staging =>
      (∀ directory, staging = some directory →
        ∃ (above : Path) (name : String), name ≠ ".." ∧ directory = above.child name) ∧
      (s.attached.isSome = true → staging.isSome = true))
    fun above name hname => ⟨fun _ h => ⟨above, name, hname, (Option.some_inj.mp h).symm⟩,
      fun _ => rfl⟩).apply (s := s) ⟨hs.placed, hs.lodged⟩
  exact ⟨hplaced, hattached ▸ hlodged⟩

/-! ### What goes on with the server that there is -/

theorem Housed.later (h : s.Housed) (hlater : Later s t) (hstaging : t.staging = s.staging) :
    t.Housed where
  placed := hstaging ▸ h.placed
  lodged ha := by
    obtain ⟨b, hb⟩ := Option.isSome_iff_exists.mp ha
    obtain ⟨a, ha, -⟩ := hlater.attached b hb
    rw [hstaging]
    exact h.lodged (by rw [ha]; rfl)

theorem housed_of_later {a : Action (Session τ) τ α} (hlater : ∀ s, a.Keeps (Later s))
    (hstaging : a.Leaves (·.staging)) : a.Keeps Housed :=
  Keeps.of_apply fun s hs => hs.later ((hlater s).apply (.refl s)) (hstaging.apply s)

variable [Timeline τ]

theorem abandon_housed : (abandon : Action (Session τ) τ Unit).Keeps Housed :=
  housed_of_later (teardown_later false) outward_abandon.leaves_staging

theorem stop_housed : (stop : Action (Session τ) τ Unit).Keeps Housed :=
  housed_of_later stop_later outward_stop.leaves_staging

theorem kept?_housed (classes : String) :
    (kept? classes : Action (Session τ) τ (Option String)).Keeps Housed :=
  housed_of_later (quiet_kept? classes).later
    (Leaves.map (kept?_leaves_quarters classes) Quarters.staging)

/-! ### Starts -/

/-- A server is launched in the workspace. -/
theorem launch_housed : (launch : Action (Session τ) τ Unit).Keeps Housed := by
  refine Keeps.bind (housed_of_later quiet_serverCommand.later
    outward_serverCommand.leaves_staging) fun _ => Keeps.bind (Keeps.modify fun s hs => ?_)
      fun _ => Triple.get_bind fun s hs => ?_
  · exact ⟨hs.placed, hs.lodged⟩
  refine Triple.bind (S := fun directory t => t = s ∧ s.staging = some directory) ?_
    fun directory => ?_
  · cases hstaging : s.staging with
    | none => exact Triple.throw fun t ht => ht ▸ hs
    | some directory => exact Triple.pure fun t ht => ⟨ht, rfl⟩
  · rintro t ⟨rfl, hstaging⟩
    rw [launchWith, Action.apply_ofFun]
    cases t.world.launches t.world.launched with
    | error fault => exact ⟨hs.placed, hs.lodged⟩
    | ok conduct => exact ⟨hs.placed, fun _ => Option.isSome_of_mem hstaging⟩

theorem ensureStarted_housed : (ensureStarted : Action (Session τ) τ Unit).Keeps Housed := by
  have hstartup : (startup : Action (Session τ) τ Unit).Keeps Housed := by
    have hrest : (do prepareWorkspace; launch : Action (Session τ) τ Unit).Keeps Housed :=
      Keeps.bind prepareWorkspace_housed fun _ => launch_housed
    exact Keeps.get_bind fun _ => Keeps.ite (Keeps.bind
      (Keeps.modify fun _ hs => ⟨hs.placed, hs.lodged⟩) fun _ => Keeps.bind abandon_housed
        fun _ => hrest) hrest
  have hhandshake : (handshake : Action (Session τ) τ Unit).Keeps Housed :=
    Keeps.tryCatch (housed_of_later openConversation_later
      outward_openConversation.leaves_staging) fun _ =>
        Keeps.ite (Keeps.bind abandon_housed fun _ => Keeps.throw _) (Keeps.throw _)
  refine Keeps.of_apply fun u hu => ?_
  have hstarted := hstartup.apply hu
  rw [apply_ensureStarted]
  split_ifs
  · exact hu
  · generalize startup.apply u = started at hstarted
    obtain ⟨fault | ⟨⟩, s⟩ := started
    · exact hstarted
    · exact hhandshake.apply hstarted

/-! ### Cleaning up -/

/-- The workspace is forgotten once there is no server. -/
theorem cleanup_housed : (cleanup : Action (Session τ) τ Unit).Keeps Housed := by
  have habandon : Triple Housed (abandon : Action (Session τ) τ Unit)
      (fun _ s => s.Housed ∧ s.attached = none) (fun _ => Housed) := by
    intro s hs
    have hafter := abandon_housed.apply hs
    split
    · next heq =>
      rw [heq] at hafter
      exact ⟨hafter, attached_of_teardown_ok heq⟩
    · next heq => rwa [heq] at hafter
  have hremove : (removeWorkspace : Action (Session τ) τ Unit).Keeps
      fun s => s.Housed ∧ s.attached = none := by
    have hfiles (change : FileTree → Place → Except SystemFault FileTree) :
        (withFiles change : Action (Session τ) τ Unit).Keeps
          fun s => s.Housed ∧ s.attached = none := by
      refine Keeps.of_apply fun s hs => ?_
      have hnone := (congrArg Holdings.attached ((quiet_withFiles change).apply s)).trans hs.2
      exact ⟨hs.1.of_attached_none ((withFiles_leaves_staging change).apply s) hnone, hnone⟩
    refine Keeps.get_bind fun s => ?_
    split
    · exact Keeps.ite (hfiles _) (Keeps.pure _)
    · exact Keeps.pure _
  -- without a server, no directory has to be there
  refine Keeps.bind stop_housed fun _ => Triple.bind habandon fun _ =>
    Triple.bind (hremove.post (fun _ _ h => h) fun _ _ h => h.1) fun _ => ?_
  refine Triple.bind (S := fun _ => Housed) (Triple.modify fun s hs => ?_) fun _ =>
    Triple.modify fun _ hs => ⟨hs.placed, hs.lodged⟩
  refine ⟨nofun, fun ha => ?_⟩
  have hsome : s.attached.isSome = true := ha
  rw [hs.2] at hsome
  cases hsome

/-! ### Turns and runs -/

/-- Every turn leaves a session housed. -/
theorem Housed.take (h : s.Housed) (turn : Turn τ) : (turn.take s).2.Housed := by
  have horder (classes : String) : (order classes : Action (Session τ) τ String).Keeps Housed :=
    housed_of_later (order_later classes)
      (Leaves.map (order_leaves_quarters classes) Quarters.staging)
  have hproject : (askProject : Action (Session τ) τ Json).Keeps Housed :=
    housed_of_later askProject_later outward_askProject.leaves_staging
  cases hstarts : turn.startsFrom s with
  | some u =>
    have hu : u.Housed := Turn.keeps_startsFrom kept?_housed hstarts h
    exact Turn.take_of_start horder hproject stop_housed hstarts (ensureStarted_housed.apply hu)
  | none =>
    cases turn with
    | call c =>
      exact Call.perform_of_none kept?_housed stop_housed abandon_housed (fun _ => cleanup_housed)
        (fun _ => prepareWorkspace_housed) hstarts h
    | pass time => exact ⟨h.placed, h.lodged⟩
    | edit change => exact ⟨h.placed, h.lodged⟩
    | act deeds => exact h.later (Turn.take_later hstarts) rfl
    | breakInput fault => exact h.later (Turn.take_later hstarts) rfl

theorem Housed.run (h : s.Housed) (turns : List (Turn τ)) : (s.run turns).Housed := by
  induction turns generalizing s with
  | nil => exact h
  | cons turn turns ih => exact ih (h.take turn)

/-- The session has come about in a run of one that was just made. -/
def Reached (s : Session τ) : Prop :=
  ∃ settings project world turns, s = (ofProject settings project world).run turns

namespace Reached

theorem run (h : s.Reached) (turns : List (Turn τ)) : (s.run turns).Reached := by
  obtain ⟨settings, project, world, earlier, rfl⟩ := h
  exact ⟨settings, project, world, earlier ++ turns, (run_append _ _ _).symm⟩

theorem housed (h : s.Reached) : s.Housed := by
  obtain ⟨settings, project, world, turns, rfl⟩ := h
  exact Housed.run ⟨fun _ h => (by cases h), fun h => (by cases h)⟩ turns

theorem formerEnded (h : s.Reached) : s.FormerEnded := by
  obtain ⟨settings, project, world, turns, rfl⟩ := h
  exact formerEnded_ofProject settings project world turns

end Reached

end Session

end ClassOrder
