import ClassOrder.Proofs.Session.Later
import ClassOrder.Proofs.Session.Unrefused

/-!
# What a start leaves

A start first takes down a server that is not to be talked to, makes the workspace ready and
launches a server.  Up to there a failure leaves no server, save one whose input could not be
closed.  Then comes the conversation.  A fault of the session's own takes the server down; any
other fault leaves it, and the session has a server that was never told all that it is told first.

## Main definitions

* `Session.startup` — what comes before the conversation.
* `Session.Talks` — what the steps of a conversation make of what is known.
* `Session.BreaksOff` — the conversation ended with a fault that is not one of the session's own.

## Main results

* `apply_ensureStarted` — a start is a startup and a handshake.
* `startup_spec`, `Talks.openConversation` — what comes of the two, told by what comes of their
  steps.
* `ensureStarted_ok` — a start that succeeds has had its conversation.
* `ensureStarted_error` — **what a failed start leaves**: a server exactly if the conversation broke
  off or the server's input could not be closed.
-/

namespace ClassOrder.Session

open ClassOrder.Action (Keeps Triple)

variable {τ α : Type} [Timeline τ] {s t u : Session τ}

/-- What comes before the conversation with a server. -/
def startup : Action (Session τ) τ Unit := do
  if (← get).attached.isSome then
    log "Discarding dead language server session"
    abandon
  prepareWorkspace
  launch

/-- The conversation with a server just launched ended with a fault that is not one of the
session's own. -/
def BreaksOff (u : Session τ) (fault : Fault τ) (t : Session τ) : Prop :=
  fault.kind.isOwn = false ∧
    ∃ s, startup.apply u = (.ok (), s) ∧ openConversation.apply s = (.error fault, t)

/-- What a failed start may leave: no server to talk to, and none that has not ended unless
closing its input failed. -/
structure Failed (fault : Fault τ) (s : Session τ) : Prop where
  former : s.FormerEnded
  isRunning : s.isRunning = false
  ended : s.serverAlive = false ∨ s.Refuses fault

/-- A server has been launched, and nothing has passed between it and the session. -/
structure Launched (s : Session τ) : Prop where
  former : s.FormerEnded
  attached : ∃ a, s.attached = some a ∧ a.server.transcript = []

omit [Timeline τ] in
theorem Failed.of_attached_none {fault : Fault τ} (hformer : s.FormerEnded)
    (h : s.attached = none) : Failed fault s where
  former := hformer
  isRunning := isRunning_of_attached_none h
  ended := .inl (by rw [serverAlive, h])

/-- A start is a startup and a handshake. -/
theorem apply_ensureStarted (u : Session τ) :
    ensureStarted.apply u =
      if u.isRunning then (.ok (), u)
      else match startup.apply u with
        | (.ok (), s) => handshake.apply s
        | (.error fault, s) => (.error fault, s) := by
  cases hrun : u.isRunning with
  | true => simp [ensureStarted, Action.apply_bind, hrun]
  | false =>
    -- the two differ in how the steps are bracketed, so a step that fails ends both alike
    cases hsome : u.attached.isSome with
    | true =>
      simp only [ensureStarted, startup, Action.apply_bind, Action.apply_get, hrun, hsome,
        Bool.not_false, Bool.false_eq_true, ↓reduceIte]
      rcases (log "Discarding dead language server session").apply u with ⟨_ | ⟨⟩, s₁⟩
      · rfl
      dsimp only
      rcases abandon.apply s₁ with ⟨_ | ⟨⟩, s₂⟩
      · rfl
      dsimp only
      rcases prepareWorkspace.apply s₂ with ⟨_ | ⟨⟩, s₃⟩
      · rfl
      dsimp only
      rcases launch.apply s₃ with ⟨_ | ⟨⟩, s₄⟩ <;> rfl
    | false =>
      simp only [ensureStarted, startup, Action.apply_bind, Action.apply_get, hrun, hsome,
        Bool.not_false, Bool.false_eq_true, ↓reduceIte]
      rcases prepareWorkspace.apply u with ⟨_ | ⟨⟩, s₁⟩
      · rfl
      dsimp only
      rcases launch.apply s₁ with ⟨_ | ⟨⟩, s₂⟩ <;> rfl

/-! ### The startup -/

/-- There is no server, and every one of before has ended. -/
def Bare (s : Session τ) : Prop := s.FormerEnded ∧ s.attached = none

omit [Timeline τ] in
theorem Bare.failed (h : s.Bare) (fault : Fault τ) : Failed fault s :=
  Failed.of_attached_none h.1 h.2

theorem teardown_bare (graceful : Bool) :
    Triple FormerEnded (teardown graceful : Action (Session τ) τ Unit) (fun _ => Bare) Failed := by
  intro s hs
  cases ha : s.attached with
  | none =>
    rw [teardown_of_attached_none graceful ha]
    exact ⟨hs, ha⟩
  | some a =>
    have hrun := teardown_triple a s.former graceful s ⟨ha, rfl⟩
    split at hrun
    · exact ⟨(hrun.later rfl).former hs, hrun.1⟩
    · exact ⟨(hrun.1.later ha).former hs, hrun.1.isRunning, hrun.2⟩

theorem launched_attach (c : Conduct τ) (hs : s.FormerEnded) : (s.attach c).Launched where
  former := hs
  attached := ⟨_, rfl, by simp [Server.launch]⟩

theorem launchWith_triple (command : List String) (directory : Path) :
    Triple Bare (launchWith command directory : Action (Session τ) τ Unit)
      (fun _ => Launched) Failed := by
  intro s hs
  rw [launchWith, Action.apply_ofFun]
  cases s.world.launches s.world.launched with
  | error fault => exact Failed.of_attached_none hs.1 hs.2
  | ok conduct => exact launched_attach conduct hs.1

/-- What comes of a startup, told by what comes of its two parts that have to do with servers:
taking down the one that there is, and launching another one.  What fails in between is no error of
a server. -/
theorem startup_spec {A B C : Session τ → Prop} {E : Fault τ → Session τ → Prop}
    (hlog : ∀ s t, t.holdings = s.holdings → A s → A t)
    (hnone : ∀ s, A s → s.attached = none → B s)
    (hclear : Triple A (abandon : Action (Session τ) τ Unit) (fun _ => B) E)
    (hquiet : ∀ s t, t.holdings = s.holdings → B s → B t)
    (hfailed : ∀ fault s, fault.kind ≠ .domain → B s → E fault s)
    (hlaunch : ∀ command directory,
      Triple B (launchWith command directory : Action (Session τ) τ Unit) (fun _ => C) E) :
    Triple A (startup : Action (Session τ) τ Unit) (fun _ => C) E := by
  -- in between, the servers are left alone and no fault is an error of one
  have hbare {β : Type} {a : Action (Session τ) τ β} (ha : Quiet a) (hu : Unrefused a) :
      Triple B a (fun _ => B) E :=
    (Triple.and (ha.keeps hquiet) hu).conseq (fun _ hs => ⟨hs, trivial⟩) (fun _ _ hs => hs.1)
      fun fault s hs => hfailed fault s hs.2 hs.1
  have hrest : Triple B (do prepareWorkspace; launch : Action (Session τ) τ Unit)
      (fun _ => C) E := by
    refine Triple.bind (hbare quiet_prepareWorkspace unrefused_prepareWorkspace) fun _ => ?_
    refine Triple.bind (hbare quiet_serverCommand unrefused_serverCommand) fun _ => ?_
    refine Triple.bind (hbare (quiet_log _) (unrefused_log _)) fun _ => ?_
    refine Triple.get_bind fun s hs => ?_
    refine Triple.bind ((hbare (quiet_present _) (unrefused_present _)).pre fun t ht => ht ▸ hs)
      fun _ => ?_
    exact hlaunch _ _
  refine Triple.get_bind fun s hs => Triple.ite (fun _ => ?_) (fun hsome => ?_)
  · refine Triple.bind (S := fun _ => A) (Triple.modify fun t ht => ?_) fun _ =>
      Triple.bind hclear fun _ => hrest
    exact hlog s _ (ht ▸ rfl) hs
  · exact hrest.pre fun t ht => ht ▸ hnone s hs (by simpa using hsome)

/-- What comes of a startup: a server just launched, or a failure. -/
theorem startup_triple :
    Triple FormerEnded (startup : Action (Session τ) τ Unit) (fun _ => Launched) Failed :=
  startup_spec (B := Bare) (fun s _ h hs => ((Later.refl s).of_holdings h).former hs)
    (fun _ hs hnone => ⟨hs, hnone⟩) (teardown_bare false)
    (fun s _ h hs => ⟨((Later.refl s).of_holdings h).former hs.1,
      (congrArg Holdings.attached h).trans hs.2⟩)
    (fun fault _ _ hs => hs.failed fault) launchWith_triple

/-! ### The conversation -/

/-- What a server is told after the handshake, about a workspace with a stylesheet or without. -/
def announcements (stylesheet : Bool) : List String :=
  [Method.ready, Method.settingsChanged, Method.documentOpened] ++
    (if stylesheet then [Method.documentOpened] else []) ++ [Method.documentOpened]

/-- What the steps of a conversation make of what is known: `A` holds until the handshake is
answered, `B` then holds of what the server has been told since, and `E` once a step has failed. -/
structure Talks (A : Session τ → Prop) (B : List String → Session τ → Prop)
    (E : Fault τ → Session τ → Prop) : Prop where
  quiet_before : ∀ s t, t.holdings = s.holdings → A s → A t
  quiet_after : ∀ methods s t, t.holdings = s.holdings → B methods s → B methods t
  failed_before : ∀ fault s, A s → E fault s
  failed_after : ∀ methods fault s, B methods s → E fault s
  ask : ∀ params, Triple A (request Method.handshake params) (fun _ => B []) E
  announce : ∀ methods method params,
    Triple (B methods) (notify method params) (fun _ => B (methods ++ [method])) E
  drain : ∀ methods timeout, Triple (B methods) (drain timeout) (fun _ => B methods) E

section Talks

variable {A : Session τ → Prop} {B : List String → Session τ → Prop}
  {E : Fault τ → Session τ → Prop}

theorem Talks.before (h : Talks A B E) {a : Action (Session τ) τ α} (ha : Quiet a) :
    Triple A a (fun _ => A) E :=
  (ha.keeps h.quiet_before).post (fun _ _ hs => hs) h.failed_before

theorem Talks.after (h : Talks A B E) {methods : List String} {a : Action (Session τ) τ α}
    (ha : Quiet a) : Triple (B methods) a (fun _ => B methods) E :=
  (ha.keeps (h.quiet_after methods)).post (fun _ _ hs => hs) (h.failed_after methods)

theorem Talks.openDocument (h : Talks A B E) (methods : List String) (p : Path) :
    Triple (B methods) (Session.openDocument p)
      (fun _ => B (methods ++ [Method.documentOpened])) E :=
  Triple.bind (h.after (quiet_uriOf p)) fun _ => Triple.bind (h.after (quiet_readText p)) fun _ =>
    h.announce _ _ _

theorem Talks.openDocuments (h : Talks A B E) :
    Triple (B [Method.ready, Method.settingsChanged]) Session.openDocuments
      (fun _ s => ∃ stylesheet, B (announcements stylesheet) s) E := by
  refine Triple.get_bind fun s hs => ?_
  refine Triple.bind ((h.after (quiet_present _)).pre fun t ht => ht ▸ hs) fun config => ?_
  refine Triple.bind (h.openDocument _ config) fun _ => ?_
  -- the document comes last, after the stylesheet if there is one
  have hlast (methods : List String) (stylesheet : Bool)
      (heq : methods ++ [Method.documentOpened] = announcements stylesheet) :
      Triple (B methods)
        (do Session.openDocument (← present s.document?) : Action (Session τ) τ Unit)
        (fun _ s => ∃ stylesheet, B (announcements stylesheet) s) E := by
    refine Triple.bind (h.after (quiet_present _)) fun document => ?_
    refine (h.openDocument methods document).post (fun _ t ht => ⟨stylesheet, ?_⟩) fun _ _ ht => ht
    rwa [← heq]
  cases s.activeStylesheet with
  | none => exact hlast _ false rfl
  | some stylesheet => exact Triple.bind (h.openDocument _ stylesheet) fun _ => hlast _ true rfl

/-- **What a conversation that comes to its end has made of what was known.** -/
theorem Talks.openConversation (h : Talks A B E) :
    Triple A Session.openConversation
      (fun _ s => ∃ stylesheet, B (announcements stylesheet) s) E := by
  have hdrained (timeout : τ) : Triple (fun s => ∃ stylesheet, B (announcements stylesheet) s)
      (do
        let handled ← Session.drain timeout
        log ("Handshake complete, answered " ++ toString handled ++ " server messages"))
      (fun _ s => ∃ stylesheet, B (announcements stylesheet) s) E := by
    rintro s ⟨stylesheet, hs⟩
    have hend := Triple.bind (h.drain (announcements stylesheet) timeout) fun handled =>
      h.after (quiet_log
        ("Handshake complete, answered " ++ toString handled ++ " server messages"))
    exact (hend.post (fun _ _ ht => ⟨stylesheet, ht⟩) fun _ _ ht => ht) s hs
  refine Triple.get_bind fun s hs => ?_
  refine Triple.bind ((h.before (quiet_present _)).pre fun t ht => ht ▸ hs) fun _ => ?_
  refine Triple.bind (h.before (quiet_uriOf _)) fun _ => Triple.bind (h.ask _) fun answer => ?_
  refine Triple.bind (h.after (quiet_noteVersion answer)) fun _ => ?_
  refine Triple.bind (h.announce _ _ _) fun _ => Triple.bind (h.announce _ _ _) fun _ => ?_
  refine Triple.bind h.openDocuments fun _ => Triple.bind (Triple.modify ?_) fun _ => hdrained _
  exact fun t ⟨stylesheet, ht⟩ => ⟨stylesheet, h.quiet_after _ t _ rfl ht⟩

end Talks

/-- A conversation goes on with the server that was launched for it. -/
theorem openConversation_later (s : Session τ) :
    (openConversation : Action (Session τ) τ Unit).Keeps (Later s) := by
  have htalks : Talks (Later s) (fun _ => Later s) (fun _ => Later s) :=
    { quiet_before := fun _ _ hholdings ht => ht.of_holdings hholdings
      quiet_after := fun _ _ _ hholdings ht => ht.of_holdings hholdings
      failed_before := fun _ _ ht => ht
      failed_after := fun _ _ _ ht => ht
      ask := fun params => request_later _ params s
      announce := fun _ method params => notify_later method params s
      drain := fun _ timeout => drain_later timeout s }
  exact htalks.openConversation.post (fun _ _ ht => ht.choose_spec) fun _ _ ht => ht

theorem handshake_ok (hrun : handshake.apply s = (.ok (), t)) :
    openConversation.apply s = (.ok (), t) := by
  rw [handshake, Action.apply_tryCatch] at hrun
  cases htalk : openConversation.apply s with
  | mk r w =>
    rw [htalk] at hrun
    cases r with
    | ok x => exact hrun
    | error fault =>
      -- what handles a fault ends by throwing one
      dsimp only at hrun
      split at hrun
      · rw [Action.apply_bind] at hrun
        split at hrun <;> cases hrun
      · cases hrun

/-- How a handshake fails: the server is taken down, unless the conversation broke off. -/
theorem handshake_error {fault : Fault τ} (hs : s.FormerEnded)
    (hrun : handshake.apply s = (.error fault, t)) :
    Failed fault t ∨ fault.kind.isOwn = false ∧ openConversation.apply s = (.error fault, t) := by
  rw [handshake, Action.apply_tryCatch] at hrun
  cases htalk : openConversation.apply s with
  | mk r w =>
    have hw : w.FormerEnded := by
      have hlater := (openConversation_later s).apply (Later.refl s)
      rw [htalk] at hlater
      exact hlater.former hs
    rw [htalk] at hrun
    cases r with
    | ok x => cases hrun
    | error f =>
      dsimp only at hrun
      split at hrun
      · -- a fault of the session's own: what is left is what the teardown leaves
        left
        have htear := teardown_bare false w hw
        rw [Action.apply_bind] at hrun
        split at htear
        · next heq =>
          rw [abandon, heq] at hrun
          cases hrun
          exact htear.failed _
        · next heq =>
          rw [abandon, heq] at hrun
          cases hrun
          exact htear
      · next hown =>
        cases hrun
        exact .inr ⟨by simpa using hown, rfl⟩

/-! ### The start -/

/-- A start that succeeds has had its conversation, unless there was a server to talk to. -/
theorem ensureStarted_ok (hrun : ensureStarted.apply u = (.ok (), t)) :
    u.isRunning = true ∧ t = u ∨
      u.isRunning = false ∧
        ∃ s, startup.apply u = (.ok (), s) ∧ openConversation.apply s = (.ok (), t) := by
  rw [apply_ensureStarted] at hrun
  split at hrun
  · next h =>
    cases hrun
    exact .inl ⟨h, rfl⟩
  · next h =>
    split at hrun
    · next s heq => exact .inr ⟨by simpa using h, s, heq, handshake_ok hrun⟩
    · cases hrun

theorem ensureStarted_failed {fault : Fault τ} (hu : u.FormerEnded)
    (hrun : ensureStarted.apply u = (.error fault, t)) :
    Failed fault t ∨ u.BreaksOff fault t ∧ t.FormerEnded := by
  rw [apply_ensureStarted] at hrun
  split at hrun
  · cases hrun
  · split at hrun
    · next s heq =>
      have hs := startup_triple.of_ok hu heq
      rcases handshake_error hs.former hrun with hfailed | ⟨hown, htalk⟩
      · exact .inl hfailed
      · have hlater := (openConversation_later s).apply (Later.refl s)
        rw [htalk] at hlater
        exact .inr ⟨⟨hown, s, heq, htalk⟩, hlater.former hs.former⟩
    · next f s heq =>
      cases hrun
      exact .inl (startup_triple.of_error hu heq)

omit [Timeline τ] in
/-- If every server of before has ended, only the one that there is may still be there. -/
theorem FormerEnded.exists_alive_iff (h : t.FormerEnded) :
    (∃ v ∈ t.servers, v.isAlive = true) ↔ t.serverAlive = true := by
  constructor
  · rintro ⟨v, hv, halive⟩
    rcases List.mem_append.mp hv with hformer | hattached
    · rw [h v hformer] at halive
      cases halive
    · cases ha : t.attached with
      | none => simp [ha] at hattached
      | some a =>
        simp only [ha, Option.map_some, Option.toList_some, List.mem_singleton] at hattached
        rw [hattached] at halive
        rw [serverAlive, ha]
        exact halive
  · intro halive
    cases ha : t.attached with
    | none => simp [serverAlive, ha] at halive
    | some a =>
      rw [serverAlive, ha] at halive
      exact ⟨a.server, by simp [servers, ha], halive⟩

/-- **What a failed start leaves.**  If every server of before has ended, a server is left exactly
if the last one has not ended by itself and either the conversation with it broke off or its input
could not be closed. -/
theorem ensureStarted_error {fault : Fault τ} (hu : u.FormerEnded)
    (hrun : ensureStarted.apply u = (.error fault, t)) :
    (t.isRunning = true ∨ ∃ v ∈ t.servers, v.isAlive = true) ↔
      t.serverAlive = true ∧ (u.BreaksOff fault t ∨ t.Refuses fault) := by
  have hcases := ensureStarted_failed hu hrun
  have hformer : t.FormerEnded := hcases.elim (·.former) (·.2)
  rw [hformer.exists_alive_iff]
  constructor
  · intro hleft
    have halive : t.serverAlive = true := hleft.elim serverAlive_of_isRunning id
    refine ⟨halive, ?_⟩
    rcases hcases with hfailed | hbroke
    · rcases hfailed.ended with hended | hrefuses
      · rw [hended] at halive
        cases halive
      · exact .inr hrefuses
    · exact .inl hbroke.1
  · rintro ⟨halive, -⟩
    exact .inr halive

end ClassOrder.Session
