import ClassOrder.Proofs.Files.Removal
import ClassOrder.Proofs.Session.Growth
import ClassOrder.Proofs.Session.Yielding

/-!
# What a cleanup leaves

A cleanup stops the server, abandons what is left of it, takes the workspace away and forgets it,
one after the other, and the first of these that fails ends it.  So it leaves nothing behind if the
server is let go of, and everything of the workspace if it is not.

## Main definitions

* `Session.Clean` — nothing is left of what there was.

## Main results

* `cleanup_isOk_iff` — **when a cleanup succeeds.**
* `cleanup_clean` — a cleanup that succeeds leaves nothing.
* `cleanup_of_not_yields` — one that fails leaves the workspace as it was.
* `clean_cleanup_iff` — **when a cleanup leaves nothing.**
-/

namespace ClassOrder.Session

open ClassOrder.Action (Keeps Triple)

variable {τ : Type} {s t u : Session τ}

/-- Nothing is left of what the session `s` had: no server is held and the one that there was has
ended, the workspace is not there any more and nothing is remembered of it, and no result is
kept. -/
structure Clean (s t : Session τ) : Prop where
  attached : t.attached = none
  exited : ∀ a, s.attached = some a → ∃ v ∈ t.former, a.server.Onward v
  ended : ∀ v ∈ t.former, v.isAlive = false
  directory : ∀ directory, s.staging = some directory → t.world.isDirectory directory = false
  staging : t.staging = none
  activeConfig : t.activeConfig = none
  activeStylesheet : t.activeStylesheet = none
  snapshot : t.snapshot = none
  cache : t.cache.entries = []

theorem staging_of_premises (h : t.premises = s.premises) : t.staging = s.staging :=
  congrArg Premises.staging h

/-! ### Taking the workspace away -/

theorem apply_removeWorkspace (s : Session τ) :
    removeWorkspace.apply s = match s.staging with
      | some directory =>
        if s.world.isDirectory directory then
          (withFiles fun files cwd => files.removeTree cwd directory).apply s
        else (.ok (), s)
      | none => (.ok (), s) := by
  rw [removeWorkspace, Action.apply_bind, Action.apply_get]
  dsimp only
  cases s.staging with
  | none => rfl
  | some directory =>
    dsimp only
    split <;> rfl

/-- How taking the workspace away ends is told by the premises. -/
theorem removeWorkspace_congr (h : t.premises = s.premises) :
    (removeWorkspace.apply t).1 = (removeWorkspace.apply s).1 := by
  have hstaging : t.staging = s.staging := staging_of_premises h
  have hhost : t.world.host = s.world.host := congrArg Premises.host h
  have hthere (p : Path) : t.world.isDirectory p = s.world.isDirectory p := by
    rw [World.isDirectory, World.isDirectory, hhost]
  rw [apply_removeWorkspace, apply_removeWorkspace, hstaging]
  split
  · next directory _ =>
    rw [hthere]
    split
    · rw [withFiles, Action.apply_ofFun, Action.apply_ofFun, hhost]
      dsimp only
      cases s.world.host.files.removeTree s.world.host.cwd directory <;> rfl
    · rfl
  · rfl

/-- A workspace that was taken away is not there. -/
theorem removeWorkspace_ok (hs : s.Housed) (hrun : removeWorkspace.apply s = (.ok (), t)) :
    ∀ directory, s.staging = some directory → t.world.isDirectory directory = false := by
  intro directory hstaging
  obtain ⟨above, name, hname, rfl⟩ := hs.placed directory hstaging
  rw [apply_removeWorkspace, hstaging] at hrun
  dsimp only at hrun
  split at hrun
  · next hthere =>
    rw [withFiles, Action.apply_ofFun] at hrun
    dsimp only at hrun
    split at hrun
    · cases hrun
    · next files hremove =>
      cases hrun
      exact FileTree.isDirectory_removeTree hname hthere hremove
  · next hgone =>
    cases hrun
    exact Bool.eq_false_iff.mpr hgone

/-! ### The parts of a cleanup -/

variable [Timeline τ]

/-- Whether the server is let go of shows in the server beforehand. -/
theorem yields_iff (s : Session τ) : s.Yields ↔ (stop.apply s).1.isOk = true ∧
    (abandon.apply (stop.apply s).2).1.isOk = true := by
  rw [abandon_isOk_iff]
  constructor
  · intro h
    have hstop := (stop_isOk_iff s).mpr fun hrunning a ha => ⟨h.takes hrunning a ha, h.mild a ha⟩
    refine ⟨hstop, ?_⟩
    rcases attached_of_stop_ok (Action.apply_of_isOk hstop) with hnone | ⟨-, hsame⟩
    · intro a ha
      rw [hnone] at ha
      cases ha
    · rw [hsame]
      exact h.mild
  · rintro ⟨hstop, habandon⟩
    have hrunning := (stop_isOk_iff s).mp hstop
    refine ⟨fun a ha => ?_, fun h a ha => (hrunning h a ha).1⟩
    rcases attached_of_stop_ok (Action.apply_of_isOk hstop) with hnone | ⟨-, hsame⟩
    · -- a server that was stopped was there to be talked to
      cases h : s.isRunning with
      | true => exact (hrunning h a ha).2
      | false =>
        have hidle : stop.apply s = (.ok (), s) := by rw [apply_stop, h]; rfl
        rw [hidle] at hnone
        rw [hnone] at ha
        cases ha
    · rw [hsame] at habandon
      exact habandon a ha

/-- **When a cleanup succeeds**, if the workspace can be taken away. -/
theorem cleanup_isOk_iff (hremove : (removeWorkspace.apply s).1.isOk = true) :
    (cleanup.apply s).1.isOk = true ↔ s.Yields := by
  rw [yields_iff, cleanup, Action.isOk_bind, Action.isOk_bind, Action.isOk_bind]
  have hpremises : (abandon.apply (stop.apply s).2).2.premises = s.premises :=
    (outward_abandon.apply _).trans (outward_stop.apply s)
  rw [removeWorkspace_congr hpremises]
  exact ⟨fun h => ⟨h.1, h.2.1⟩, fun h => ⟨h.1, h.2, hremove, rfl⟩⟩

/-- **A cleanup that succeeds leaves nothing.** -/
theorem cleanup_clean (hs : s.Housed) (hformer : s.FormerEnded)
    (hrun : cleanup.apply s = (.ok (), t)) : Clean s t := by
  have hgrows := ((lasting_grows s).cleanup).apply (Grows.refl s)
  have hended := ((cleanup_later s).apply (Later.refl s)).former hformer
  rw [hrun] at hgrows hended
  obtain ⟨⟨⟩, t₁, hstop, hrun⟩ := Action.apply_bind_eq_ok.mp hrun
  obtain ⟨⟨⟩, t₂, habandon, hrun⟩ := Action.apply_bind_eq_ok.mp hrun
  obtain ⟨⟨⟩, t₃, hremove, hrun⟩ := Action.apply_bind_eq_ok.mp hrun
  have hhoused : t₂.Housed := by
    have h := abandon_housed.apply (stop_housed.apply hs)
    rwa [hstop, habandon] at h
  have hstaging : t₂.staging = s.staging := by
    have h := (outward_abandon.apply _).trans (outward_stop.apply s)
    rw [hstop, habandon] at h
    exact staging_of_premises h
  have hnone : t₃.attached = none := by
    have h := quiet_removeWorkspace.apply t₂
    rw [hremove] at h
    exact (congrArg Holdings.attached h).trans (attached_of_teardown_ok habandon)
  cases hrun
  refine ⟨hnone, fun a ha => ?_, hended, fun directory h => ?_, rfl, rfl, rfl, rfl, rfl⟩
  · obtain ⟨v, honward, ⟨-, hattached⟩ | hjoined⟩ := hgrows.attached a ha
    · rw [show _ = none from hnone] at hattached
      cases hattached
    · exact ⟨v, hjoined.subset (by simp), honward⟩
  · exact removeWorkspace_ok hhoused hremove directory (hstaging.trans h)

/-- After a stop that fails the server is not to be talked to. -/
theorem isRunning_of_stop_error {fault : Fault τ} (hrun : stop.apply s = (.error fault, t)) :
    t.isRunning = false := by
  rw [apply_stop] at hrun
  split at hrun
  · rw [Action.apply_andThen] at hrun
    have hrunning := isRunning_teardown true
      (farewellOrGone.apply (s.note ⟨.debug, "Stopping language server"⟩)).2
    split at hrun <;> next heq =>
      rw [heq] at hrunning
      exact (Prod.mk.inj hrun).2 ▸ hrunning
  · cases hrun

/-- A cleanup that does not let go of the server leaves the workspace as it was, and no server to
talk to. -/
theorem cleanup_of_not_yields (hs : ¬ s.Yields) :
    (cleanup.apply s).2.premises = s.premises ∧ (cleanup.apply s).2.isRunning = false := by
  rw [yields_iff, not_and] at hs
  have hpremises := outward_stop.apply s
  rw [cleanup, Action.apply_bind]
  rcases hstop : stop.apply s with ⟨fault | ⟨⟩, t⟩
  · rw [hstop] at hpremises
    exact ⟨hpremises, isRunning_of_stop_error hstop⟩
  · rw [hstop] at hpremises hs
    have habandon := hs rfl
    have hpremises' := outward_abandon.apply t
    have hrunning := isRunning_teardown false t
    dsimp only
    rw [Action.apply_bind]
    rw [abandon] at habandon hpremises' ⊢
    rcases heq : (teardown false).apply t with ⟨fault | ⟨⟩, u⟩
    · rw [heq] at hpremises' hrunning
      exact ⟨hpremises'.trans hpremises, hrunning⟩
    · rw [heq] at habandon
      exact absurd rfl habandon

/-- A cleanup of a session that has come about leaves nothing exactly if the server is let go of. -/
theorem clean_cleanup_iff (hs : s.Reached) (hremove : (removeWorkspace.apply s).1.isOk = true) :
    Clean s (cleanup.apply s).2 ↔ s.Yields := by
  refine ⟨fun hclean => ?_, fun hyields => ?_⟩
  · by_contra hyields
    -- a workspace that is forgotten was forgotten before, and then there was no server
    have hstaging : s.staging = none :=
      (staging_of_premises (cleanup_of_not_yields hyields).1).symm.trans hclean.staging
    have hnone : s.attached = none := by
      rw [← Option.not_isSome_iff_eq_none]
      intro hattached
      have hhoused := hs.housed.lodged hattached
      rw [hstaging] at hhoused
      cases hhoused
    exact hyields (yields_of_attached_none hnone)
  · have hok := (cleanup_isOk_iff hremove).mpr hyields
    exact cleanup_clean hs.housed hs.formerEnded (Action.apply_of_isOk hok)

end ClassOrder.Session
