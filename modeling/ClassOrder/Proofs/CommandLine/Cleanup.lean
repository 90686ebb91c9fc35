import ClassOrder.CommandLine.Run
import ClassOrder.Proofs.Session.Numbers
import ClassOrder.Proofs.Session.Remains

/-!
# What a run of a command line leaves

A run of a command line that comes as far as making a session serves with it what was asked for, and
cleans up afterwards whatever came of that.  What it leaves is what the cleanup leaves; and a
cleanup leaves nothing, unless it cannot let go of the server.  Then it ends there, and the
directory of the workspace is left on the machine.

## Main results

* `runCommand_session` — the session of a run was cleaned up.
* `cleanup_leaves_nothing_iff` — **when nothing is left.**
-/

namespace ClassOrder

open ClassOrder.Action (Keeps)
open ClassOrder.Session (Clean Reached Yields cleanup removeWorkspace)

/-! ### Serving -/

section

variable {s : Session Amount} {α : Type}

/-- An operation of the session that is a turn of it leads to what may come about in a run. -/
theorem Printing.onSession_reached {a : Action (Session Amount) Amount α}
    (ha : ∀ t, ∃ turn : Turn Amount, (a.apply t).2 = (turn.take t).2) :
    (onSession a).Keeps fun p : Printing => p.session.Reached := by
  refine Keeps.of_apply fun p hp => ?_
  obtain ⟨turn, hturn⟩ := ha p.session
  exact (congrArg Reached hturn).mpr (hp.run [turn])

/-- Serving is done in turns of the session. -/
theorem Printing.serve_reached (hs : s.Reached) (i : Invocation) :
    ((Printing.serve i).apply ⟨s, ""⟩).2.session.Reached := by
  have hproject : (onSession Session.getProject).Keeps fun p : Printing => p.session.Reached :=
    onSession_reached fun t => ⟨.call .project, rfl⟩
  have hsort (classes : String) :
      (onSession (Session.sortClasses classes)).Keeps fun p : Printing => p.session.Reached :=
    onSession_reached fun t => ⟨.call (.sort classes), (Action.snd_apply_bind_pure _ _ t).symm⟩
  have hprint (line : String) : (print line).Keeps fun p : Printing => p.session.Reached :=
    Keeps.modify fun _ hp => hp
  have hclasses : (do
      if !i.classes.isEmpty then
        print (← onSession (Session.sortClasses (" ".intercalate i.classes)))
      : Action Printing Amount Unit).Keeps fun p : Printing => p.session.Reached :=
    Keeps.ite (Keeps.bind (hsort _) fun _ => hprint _) (Keeps.pure _)
  refine Keeps.apply (I := fun p : Printing => p.session.Reached) ?_ hs
  exact Keeps.ite (Keeps.bind hproject fun _ => Keeps.bind (hprint _) fun _ => hclasses) hclasses

/-- What is served is cleaned up afterwards. -/
theorem serveInvocation_session (s : Session Amount) (i : Invocation) (r : RunResult) :
    let served := ((Printing.serve i).apply ⟨s, ""⟩).2.session
    (serveInvocation s i r).session = some (cleanup.apply served).2 ∧
      (serveInvocation s i r).host = (cleanup.apply served).2.world.host := by
  rw [serveInvocation]
  dsimp only
  generalize cleanup.apply ((Printing.serve i).apply ⟨s, ""⟩).2.session = done
  obtain ⟨fault | ⟨⟩, t⟩ := done <;> exact ⟨rfl, rfl⟩

end

/-! ### Running -/

theorem sessionFor_reached {w : World Amount} {i : Invocation} {server : Option (List String)}
    {s : Session Amount} (h : sessionFor w i server = .ok s) : s.Reached := by
  simp only [sessionFor, bind, Except.bind] at h
  split at h
  · cases h
  · split at h
    · cases h
    · rw [Session.ofSettings] at h
      split at h
      · cases h
      · split at h
        · cases h
        · cases h
          exact ⟨_, _, _, [], rfl⟩

/-- A run of an invocation makes no session, or it serves the invocation with one. -/
theorem runInvocation_cases (i : Invocation) (input : String) (w : World Amount) :
    (runInvocation i input w).session = none ∨
      ∃ (s : Session Amount) (i' : Invocation) (r : RunResult), s.Reached ∧
        runInvocation i input w = serveInvocation s i' r := by
  rw [runInvocation]
  split
  · exact .inl rfl
  · dsimp only
    split
    · exact .inl rfl
    · split
      · exact .inl rfl
      · split
        · exact .inl rfl
        · split
          · left
            rw [RunResult.failed]
            split <;> rfl
          · next s hsession =>
            exact .inr ⟨s, _, _, sessionFor_reached hsession, rfl⟩

/-- The session of a run was cleaned up, and the machine is left as it was then. -/
theorem runCommand_session {arguments : List String} {input : String} {w : World Amount}
    {t : Session Amount} (h : (runCommand arguments input w).session = some t) :
    ∃ s : Session Amount, s.Reached ∧ t = (cleanup.apply s).2 ∧
      (runCommand arguments input w).host = t.world.host := by
  rw [runCommand] at h ⊢
  split at h
  · cases h
  · next i hread =>
    rcases runInvocation_cases i input w with hnone | ⟨s, i', r, hs, hrun⟩
    · rw [hnone] at h
      cases h
    · obtain ⟨hsession, hhost⟩ := serveInvocation_session s i' r
      rw [hrun, hsession, Option.some_inj] at h
      subst h
      exact ⟨_, Printing.serve_reached hs i', rfl, hrun ▸ hhost⟩

/-! ### What is left -/

variable {τ : Type} [Timeline τ]

/-- **When nothing is left.**  Let a session have come about in whatever way, and let its workspace
be there for the taking.  A cleanup leaves nothing of it exactly if the cleanup succeeds, and that
is exactly if nothing stands in the way of letting go of the server: sending the last words to a
server that is there to be talked to does not fail, save in a way that is taken for a lost
connection, and closing its streams does not fail, save with a fault that is passed over.  Otherwise
the cleanup ends with the fault, and all that the session has besides the server is left as it was:
the directory of the workspace, what is remembered of it, and the kept results.  A run of a command
line that has made a session leaves what such a cleanup leaves. -/
theorem cleanup_leaves_nothing_iff :
    (∀ s : Session τ, s.Reached → (removeWorkspace.apply s).1.isOk = true →
      let done := cleanup.apply s
      (Clean s done.2 ↔ s.Yields) ∧ (done.1.isOk = true ↔ s.Yields) ∧
        (¬ s.Yields → done.2.premises = s.premises ∧ done.2.isRunning = false)) ∧
      ∀ (arguments : List String) (input : String) (w : World Amount) (t : Session Amount),
        (runCommand arguments input w).session = some t →
          ∃ s : Session Amount, s.Reached ∧ t = (cleanup.apply s).2 ∧
            (runCommand arguments input w).host = t.world.host ∧
              ((removeWorkspace.apply s).1.isOk = true → (Clean s t ↔ s.Yields)) := by
  refine ⟨fun s hs hremove => ⟨Session.clean_cleanup_iff hs hremove,
    Session.cleanup_isOk_iff hremove, Session.cleanup_of_not_yields⟩,
    fun arguments input w t hrun => ?_⟩
  obtain ⟨s, hs, rfl, hhost⟩ := runCommand_session hrun
  exact ⟨s, hs, rfl, hhost, Session.clean_cleanup_iff hs⟩

/-- A session whose servers answer the handshake and nothing else. -/
def silentSession : Session ℚ :=
  sampleSession {} {} { batches := [(Method.handshake, [[.answer (.object [])]])] }

/-- A server may still break its input between the last words, and the second one fails. -/
example :
    let s := (sampleSession {} {}
      { batches :=
          [(Method.handshake, [[.answer (.object [])]]),
            (Method.documentClosed,
              [[.plain (.breakInput none (some (.system .inputOutput)))]])] }).run [.call .start]
    (cleanup.apply s).1.isOk = false ∧ (cleanup.apply s).2.staging.isSome = true ∧
      (cleanup.apply silentSession).1.isOk = true := by decide +kernel

/-- A session with a server that is there to be talked to, and an input that has broken in an
unforeseen way. -/
def brokenSession : Session ℚ :=
  silentSession.run [.call .start, .breakInput (some (.system .inputOutput))]

/-- A machine on which closing the input of a server fails in an unforeseen way. -/
def stuckWorld : World Amount where
  clock := .whole 0
  host := {}
  temporary := Path.ofString "/"
  processId := 1
  suffix := fun _ => ""
  launches := fun _ => .ok (Rules.conduct
    { batches := [(Method.handshake, [[.answer (.object [])]])]
      closeFault := some (.raised .other "stuck") })
  credit := 1000

theorem cleanup_leaves_nothing_iff_brokenSession :
    (brokenSession.Reached ∧ (removeWorkspace.apply brokenSession).1.isOk = true ∧
      ¬ brokenSession.Yields ∧ ¬ Clean brokenSession (cleanup.apply brokenSession).2 ∧
        (cleanup.apply brokenSession).2.staging = brokenSession.staging ∧
          brokenSession.staging.isSome = true) ∧
      ∃ s t, (runCommand ["--project", "--server", "server"] "" stuckWorld).session = some t ∧
        t.staging.isSome = true ∧ s.Reached ∧ t = (cleanup.apply s).2 ∧
          ((removeWorkspace.apply s).1.isOk = true → ¬ s.Yields) := by
  refine ⟨?_, ?_⟩
  · have hsilent : silentSession.Reached := ⟨_, _, _, [], rfl⟩
    have hreached : brokenSession.Reached := hsilent.run _
    have hends : (removeWorkspace.apply brokenSession).1.isOk = true ∧
        (cleanup.apply brokenSession).1.isOk = false ∧ brokenSession.staging.isSome = true := by
      decide +kernel
    obtain ⟨hremove, hfails, hstaging⟩ := hends
    obtain ⟨hclean, hok, hleft⟩ := cleanup_leaves_nothing_iff.1 brokenSession hreached hremove
    have hyields : ¬ brokenSession.Yields := by
      rw [← hok, hfails]
      exact Bool.false_ne_true
    exact ⟨hreached, hremove, hyields, mt hclean.mp hyields,
      Session.staging_of_premises (hleft hyields).1, hstaging⟩
  · have hrun : (runCommand ["--project", "--server", "server"] "" stuckWorld).session.any
        (·.staging.isSome) = true := by decide +kernel
    obtain ⟨t, ht, hstaging⟩ := (Option.any_eq_true _ _).mp hrun
    obtain ⟨s, hs, hcleaned, -, hleft⟩ :=
      (@cleanup_leaves_nothing_iff Amount _).2 _ _ _ t ht
    refine ⟨s, t, ht, hstaging, hs, hcleaned, fun hremove hyields => ?_⟩
    rw [((hleft hremove).mpr hyields).staging] at hstaging
    cases hstaging

end ClassOrder
