import ClassOrder.Proofs.Session.History
import ClassOrder.Proofs.Session.Tidy

/-!
# One request at a time

A session keeps to one open request a server as long as every call that gives up waiting ends the
server, which it does for faults of the connection and for time running out.  Any other fault
leaves the server with the request open, and the next call sends another one.

## Main definitions

* `FaultKind.endsServer` — the kinds of fault after which a call ends the server.
* `Session.Excused` — what a call that failed may leave.
* `Turn.LeavesOpen` — a call that gives up waiting and leaves the server with an open request.

## Main results

* `Call.perform_triple` — every call leaves a tidy session, or is excused.
* `one_request_at_a_time_iff` — **in which runs there is one open request at most**.
-/

namespace ClassOrder

open ClassOrder.Action (Keeps Triple)

variable {τ α : Type}

/-- The kinds of fault after which a call ends the server. -/
def FaultKind.endsServer (kind : FaultKind) : Bool := kind.isProtocol || kind = .timeout

theorem FaultKind.isOwn_of_endsServer {kind : FaultKind} (h : kind.endsServer = true) :
    kind.isOwn = true := by
  cases kind <;> first | rfl | cases h

namespace Session

variable {s t u : Session τ} {P Q : List Passage → Prop}

/-- What a call that failed may leave: a tidy session, unless the fault is of a kind after which a
call does not end the server. -/
structure Excused (fault : Fault τ) (s : Session τ) : Prop where
  loose : s.Loose
  none_open : fault.kind.endsServer = true → s.isRunning = true →
    s.OnTranscript (openRequests · = [])

theorem Tidy.excused (hs : s.Tidy) (fault : Fault τ) : Excused fault s :=
  ⟨hs.loose, fun _ => hs.none_open⟩

theorem Quiet.inOrder_excused {a : Action (Session τ) τ α} (h : Quiet a) :
    Triple (InOrder Idle) a (fun _ => InOrder Idle) Excused :=
  h.inOrder.post (fun _ _ hs => hs) fun fault _ hs => hs.tidy.excused fault

/-- Talking to the server that there is leaves those of before alone. -/
theorem onWire_inOrder {talk : Exchange τ → Wire τ → Except (Fault τ) α × Exchange τ × Wire τ}
    {Q : α → List Passage → Prop} {E : Fault τ → List Passage → Prop}
    (h : Triple (OnTranscript P) (onWire talk : Action (Session τ) τ α)
      (fun r => OnTranscript (Q r)) (fun fault => OnTranscript (E fault))) :
    Triple (InOrder P) (onWire talk : Action (Session τ) τ α)
      (fun r => InOrder (Q r)) (fun fault => InOrder (E fault)) := by
  have hformer : (onWire talk : Action (Session τ) τ α).Keeps
      fun s => ∀ v ∈ s.former, OneAtATime v.transcript := by
    refine Keeps.of_apply fun s hs => ?_
    cases ha : s.attached with
    | none => rwa [onWire_of_attached_none talk ha]
    | some a =>
      obtain ⟨-, -, hsame⟩ := onWire_apply talk ha
      rwa [hsame]
  exact Triple.and hformer h

variable [Timeline τ]

/-! ### The parts of a call -/

theorem request_inOrder (method : String) (params : Json) :
    Triple (InOrder Idle) (request method params : Action (Session τ) τ Json)
      (fun _ => InOrder Idle) (fun _ => InOrder OneAtATime) := by
  have h := request_transcript (τ := τ) (B := Idle)
    (D := Idle) (I := WaitsFor) (fun id t ht => ht.request id method params)
    (fun id t rid result ht => ht.reply rid result) (fun id t m ht hm => ht.read hm)
    (fun id t m ht hm => ht.answered hm)
  refine (onWire_inOrder h).post (fun _ _ hs => hs) fun _ _ hs => hs.mono fun t ht => ?_
  -- whether the response came, the request waits or was never sent
  rcases ht with ht | ⟨id, ht⟩ | ht
  · exact ht.inOrder
  · exact ht.inOrder
  · exact ht.inOrder

theorem notify_inOrder (method : String) (params : Json) :
    (notify method params : Action (Session τ) τ Unit).Keeps (InOrder Idle) := by
  have h : (notify method params : Action (Session τ) τ Unit).Keeps (OnTranscript Idle) :=
    notify_transcript fun _ ht => ht.sent rfl
  exact onWire_inOrder h

theorem drain_inOrder (timeout : τ) :
    (drain timeout : Action (Session τ) τ Nat).Keeps (InOrder Idle) := by
  have h : (drain timeout : Action (Session τ) τ Nat).Keeps (OnTranscript Idle) :=
    drain_transcript timeout (fun _ _ _ ht => ht.sent rfl) fun _ m ht => ht.read m
  exact onWire_inOrder h

/-- A notification is no request, whatever is open. -/
theorem notify_loose (method : String) (params : Json) :
    (notify method params : Action (Session τ) τ Unit).Keeps Loose := by
  have h : (notify method params : Action (Session τ) τ Unit).Keeps (OnTranscript OneAtATime) :=
    notify_transcript fun t ht => ht.append fun hreq => by cases hreq
  refine Keeps.of_apply fun s hs => ?_
  cases ha : s.attached with
  | none =>
    rw [notify, onWire_of_attached_none _ ha]
    exact hs
  | some a =>
    rw [Loose, transcripts_of_attached ha] at hs
    have hinOrder : s.InOrder OneAtATime := by
      refine ⟨fun v hv => hs _ ?_, a, ha, hs _ ?_⟩
      · exact List.mem_append_left _ (List.mem_map_of_mem hv)
      · exact List.mem_append_right _ (List.mem_singleton_self _)
    exact InOrder.loose (Keeps.apply (onWire_inOrder h) hinOrder)

/-! ### Starting -/

theorem openConversation_inOrder :
    Triple (InOrder Idle) (openConversation : Action (Session τ) τ Unit)
      (fun _ => InOrder Idle) (fun _ => Loose) := by
  have htalks : Talks (τ := τ) (InOrder Idle) (fun _ => InOrder Idle) (fun _ => Loose) :=
    { quiet_before := fun _ _ hholdings hs => hs.of_holdings hholdings
      quiet_after := fun _ _ _ hholdings hs => hs.of_holdings hholdings
      failed_before := fun _ _ hs => hs.tidy.loose
      failed_after := fun _ _ _ hs => hs.tidy.loose
      ask := fun params => (request_inOrder _ params).post (fun _ _ hs => hs) fun _ _ hs => hs.loose
      announce := fun _ method params =>
        (notify_inOrder method params).post (fun _ _ hs => hs) fun _ _ hs => hs.tidy.loose
      drain := fun _ timeout =>
        (drain_inOrder timeout).post (fun _ _ hs => hs) fun _ _ hs => hs.tidy.loose }
  exact htalks.openConversation.post (fun _ _ hs => hs.choose_spec) fun _ _ hs => hs

theorem handshake_inOrder :
    Triple (InOrder Idle) (handshake : Action (Session τ) τ Unit)
      (fun _ => InOrder Idle) Excused := by
  refine Triple.tryCatch openConversation_inOrder fun fault =>
    Triple.ite (fun _ => ?_) fun hown => ?_
  · exact Triple.bind ((teardown_tidy false).post (fun _ _ hs => hs) fun f _ hs => hs.excused f)
      fun _ => Triple.throw fun _ hs => hs.excused _
  · -- the faults that would end the server in a call are among the session's own
    refine Triple.throw fun s hs => ⟨hs, fun hends => ?_⟩
    exact absurd (FaultKind.isOwn_of_endsServer hends) hown

theorem launchWith_inOrder (command : List String) (directory : Path) :
    Triple Tidy (launchWith command directory : Action (Session τ) τ Unit)
      (fun _ => InOrder Idle) Excused := by
  intro s hs
  rw [launchWith, Action.apply_ofFun]
  cases s.world.launches s.world.launched with
  | error fault => exact ⟨hs.loose, fun _ => hs.none_open⟩
  | ok conduct =>
    refine ⟨fun v hv => hs.loose _ ?_, _, rfl, ?_⟩
    · exact List.mem_map_of_mem (List.mem_append_left _ hv)
    · simpa [Server.launch] using idle_nil

omit [Timeline τ] in
theorem Quiet.tidy_excused {a : Action (Session τ) τ α} (h : Quiet a) :
    Triple Tidy a (fun _ => Tidy) Excused :=
  h.tidy.post (fun _ _ hs => hs) fun fault _ hs => hs.excused fault

theorem startup_inOrder :
    Triple Tidy (startup : Action (Session τ) τ Unit) (fun _ => InOrder Idle) Excused :=
  startup_spec (B := Tidy) (fun _ _ h hs => hs.of_holdings h) (fun _ hs _ => hs)
    ((teardown_tidy false).conseq (fun _ hs => hs.loose) (fun _ _ hs => hs)
      fun fault _ hs => hs.excused fault)
    (fun _ _ h hs => hs.of_holdings h) (fun fault _ _ hs => hs.excused fault) launchWith_inOrder

/-- A start leaves no request open, unless it fails with a fault after which a call does not end
the server. -/
theorem ensureStarted_inOrder :
    Triple Tidy (ensureStarted : Action (Session τ) τ Unit) (fun _ => InOrder Idle) Excused := by
  intro s hs
  rw [apply_ensureStarted]
  cases hrunning : s.isRunning with
  | true => exact hs.inOrder hrunning
  | false =>
    have hstart := startup_inOrder s hs
    simp only [Bool.false_eq_true, if_false]
    split at hstart
    · next heq =>
      rw [heq]
      exact handshake_inOrder _ hstart
    · next heq =>
      rw [heq]
      exact hstart

/-! ### Calls -/

theorem call_inOrder (method : String) (params : Json) :
    Triple (InOrder Idle) (call method params : Action (Session τ) τ Json)
      (fun _ => InOrder Idle) Excused := by
  refine Triple.tryCatch (request_inOrder method params) fun fault =>
    Triple.ite (fun _ => ?_) fun hgives => Triple.throw fun s hs => ⟨hs.loose, fun hends => ?_⟩
  · exact Triple.bind ((teardown_tidy false).conseq (fun _ hs => hs.loose) (fun _ _ hs => hs)
      fun f _ hs => hs.excused f) fun _ => Triple.throw fun _ hs => hs.excused _
  · exact absurd hends hgives

theorem changeDocument_inOrder (classes : String) :
    Triple (InOrder Idle) (changeDocument classes : Action (Session τ) τ Unit)
      (fun _ => InOrder Idle) Excused := by
  refine Triple.bind (S := fun _ => InOrder Idle) (Triple.modify fun s hs => hs) fun _ => ?_
  refine Triple.get_bind fun s hs => ?_
  refine Triple.tryCatch ((notify_inOrder _ _).pre fun t ht => ht ▸ hs) fun fault =>
    Triple.ite (fun _ => ?_) fun _ => Triple.throw fun t ht => ht.tidy.excused _
  exact Triple.bind ((teardown_tidy false).conseq (fun _ ht => ht.tidy.loose) (fun _ _ ht => ht)
    fun f _ ht => ht.excused f) fun _ => Triple.throw fun _ ht => ht.excused _

theorem askForOrder_inOrder (classes : String) :
    Triple Tidy (askForOrder classes : Action (Session τ) τ String)
      (fun _ => InOrder Idle) Excused := by
  refine Triple.bind ensureStarted_inOrder fun _ => ?_
  refine Triple.bind (changeDocument_inOrder classes) fun _ => Triple.get_bind fun s hs => ?_
  refine Triple.bind ((call_inOrder _ _).pre fun t ht => ht ▸ hs) fun result => ?_
  refine Triple.bind (Triple.ofExcept (fun _ _ ht => ht) fun fault _ ht => ht.tidy.excused fault)
    fun list => ?_
  cases list with
  | none => exact Triple.bind (quiet_log _).inOrder_excused fun _ => Triple.pure fun _ ht => ht
  | some sorted =>
    exact Triple.bind (quiet_keep _ _).inOrder_excused fun _ => Triple.pure fun _ ht => ht

theorem sortClasses_tidy (classes : String) :
    Triple Tidy (sortClasses classes : Action (Session τ) τ String) (fun _ => Tidy) Excused := by
  refine Triple.bind (quiet_kept? classes).tidy_excused fun list => ?_
  cases list with
  | none => exact (askForOrder_inOrder classes).post (fun _ _ hs => hs.tidy) fun _ _ hs => hs
  | some result => exact Triple.pure fun _ hs => hs

theorem getProject_tidy :
    Triple Tidy (getProject : Action (Session τ) τ Json) (fun _ => Tidy) Excused := by
  refine Triple.bind ensureStarted_inOrder fun _ => Triple.get_bind fun s hs => ?_
  refine Triple.bind ((quiet_present _).inOrder_excused.pre fun t ht => ht ▸ hs) fun _ => ?_
  refine Triple.bind (quiet_uriOf _).inOrder_excused fun _ => ?_
  refine Triple.bind (call_inOrder _ _) fun result => ?_
  cases heldError? result with
  | some error => exact Triple.throw fun t ht => ht.tidy.excused _
  | none =>
    refine Triple.ite (fun _ => ?_) fun _ => Triple.pure fun t ht => ht.tidy
    exact Triple.bind (S := fun _ => InOrder Idle) (Triple.modify fun t ht => ht) fun _ =>
      Triple.pure fun t ht => ht.tidy

/-- Stopping leaves a tidy session, whatever was open before. -/
theorem stop_tidy :
    Triple Loose (stop : Action (Session τ) τ Unit) (fun _ => Tidy) (fun _ => Tidy) := by
  have hfarewell : (farewell : Action (Session τ) τ Unit).Keeps Loose :=
    Keeps.get_bind fun _ => Keeps.bind (notify_loose _ _) fun _ => notify_loose _ _
  have hgone : (farewellOrGone : Action (Session τ) τ Unit).Keeps Loose :=
    Keeps.tryCatch hfarewell fun _ => Keeps.ite (Keeps.modify fun _ hs => hs) (Keeps.throw _)
  refine Triple.get_bind fun s hs => Triple.ite (fun _ => ?_) fun hrunning => ?_
  · -- the last words may be said while a request is open, but they are no requests
    refine Triple.bind (S := fun _ => Loose) (Triple.modify fun t ht => ht ▸ hs) fun _ => ?_
    exact Triple.andThen hgone (fun _ => teardown_tidy true) fun _ => teardown_tidy true
  · refine Triple.pure fun t ht => ?_
    subst ht
    exact .of_not_running hs (by simpa using hrunning)

theorem cleanup_tidy :
    Triple Loose (cleanup : Action (Session τ) τ Unit) (fun _ => Tidy) (fun _ => Tidy) :=
  Triple.bind stop_tidy fun _ => Triple.bind ((teardown_tidy false).pre fun _ hs => hs.loose)
    fun _ => Triple.bind quiet_removeWorkspace.tidy fun _ => quiet_forgetWorkspace.tidy

end Session

variable [Timeline τ] {s : Session τ}

/-- Every call leaves a tidy session, or is excused. -/
theorem Call.perform_triple (c : Call) :
    Triple Session.Tidy (c.perform : Action (Session τ) τ Json)
      (fun _ => Session.Tidy) Session.Excused := by
  have hnull {a : Action (Session τ) τ Unit}
      (ha : Triple Session.Loose a (fun _ => Session.Tidy) fun _ => Session.Tidy) :
      Triple Session.Tidy (do a; return .null : Action (Session τ) τ Json)
        (fun _ => Session.Tidy) Session.Excused :=
    Triple.bind (ha.conseq (fun _ hs => hs.loose) (fun _ _ hs => hs) fun f _ hs => hs.excused f)
      fun _ => Triple.pure fun _ hs => hs
  cases c with
  | start =>
    exact Triple.bind Session.ensureStarted_inOrder fun _ => Triple.pure fun _ hs => hs.tidy
  | stop => exact hnull Session.stop_tidy
  | abandon => exact hnull (Session.teardown_tidy false)
  | cleanup => exact hnull Session.cleanup_tidy
  | prepare =>
    exact Triple.bind Session.quiet_prepareWorkspace.tidy_excused fun _ =>
      Triple.pure fun _ hs => hs
  | sort classes =>
    exact Triple.bind (Session.sortClasses_tidy classes) fun _ => Triple.pure fun _ hs => hs
  | sortOnce classes =>
    refine Triple.bind (Triple.andThen (Session.sortClasses_tidy classes) (fun _ => ?_) fun f => ?_)
      fun _ => Triple.pure fun _ hs => hs
    · exact Session.stop_tidy.conseq (fun _ hs => hs.loose) (fun _ _ hs => hs)
        fun f _ hs => hs.excused f
    · exact Session.stop_tidy.conseq (fun _ hs => hs.loose) (fun _ _ hs => hs.excused f)
        fun f _ hs => hs.excused f
  | project => exact Session.getProject_tidy

/-! ### Runs -/

/-- A call that gives up waiting, with a fault after which a call does not end the server, and
leaves the server to be talked to with a request open. -/
def Turn.LeavesOpen (s : Session τ) (turn : Turn τ) : Prop :=
  ∃ fault, (turn.take s).1 = .error fault ∧ fault.kind.endsServer = false ∧
    (turn.take s).2.isRunning = true ∧ ¬ (turn.take s).2.OnTranscript (openRequests · = [])

omit [Timeline τ] in
theorem Session.Tidy.onServer (hs : s.Tidy) {change : τ → Server τ → Server τ}
    (honward : ∀ now w, Server.Onward w (change now w))
    (h : ∀ now w, (change now w).transcript = w.transcript) : (s.onServer change).Tidy where
  loose := by
    rw [Session.Loose, Session.transcripts_onServer h]
    exact hs.loose
  none_open hrunning := by
    have hbefore := ((Session.Later.refl s).onServer honward).isRunning hrunning
    obtain ⟨a, ha, hopen⟩ := hs.none_open hbefore
    refine ⟨⟨change s.world.clock a.server, a.exchange⟩, by simp [Session.onServer, ha], ?_⟩
    rw [h]
    exact hopen

/-- A turn keeps a session tidy unless it leaves a request open. -/
theorem Turn.take_tidy {turn : Turn τ} (hs : s.Tidy) (h : ¬ turn.LeavesOpen s) :
    (turn.take s).2.Tidy := by
  cases turn with
  | pass time => exact hs.of_holdings rfl
  | edit change => exact hs.of_holdings rfl
  | act deeds =>
    exact hs.onServer (fun now w => Server.onward_performAll now deeds w)
      fun now w => Server.transcript_performAll now deeds w
  | breakInput fault => exact hs.onServer (fun _ w => onward_breakInput fault none w) fun _ _ => rfl
  | call c =>
    have hcall := c.perform_triple s hs
    rcases hrun : c.perform.apply s with ⟨fault | x, t⟩
    · rw [hrun] at hcall
      have hafter : Turn.take s (.call c) = (.error fault, t) := hrun
      rw [hafter]
      refine ⟨hcall.loose, fun hrunning => ?_⟩
      -- the kind of the fault excuses the open request, or the turn leaves it open
      cases hends : fault.kind.endsServer with
      | true => exact hcall.none_open hends hrunning
      | false =>
        refine Classical.byContradiction fun hopen => ?_
        exact h ⟨fault, by rw [hafter], hends, by rwa [hafter], by rwa [hafter]⟩
    · rw [hrun] at hcall
      have hafter : Turn.take s (.call c) = (.ok x, t) := hrun
      rw [hafter]
      exact hcall

theorem Session.run_tidy {turns : List (Turn τ)} (hs : s.Tidy)
    (h : ∀ earlier turn, earlier ++ [turn] <+: turns → ¬ turn.LeavesOpen (s.run earlier)) :
    (s.run turns).Tidy := by
  induction turns generalizing s with
  | nil => exact hs
  | cons turn turns ih =>
    refine ih (Turn.take_tidy hs (h [] turn ⟨turns, rfl⟩)) fun earlier next hearlier => ?_
    exact h (turn :: earlier) next ((List.prefix_cons_inj turn).mpr hearlier)

/-- **In which runs there is one open request at most.**  All through a run, every request is sent
to a server after the responses to all requests before it have been read, and no request is left
open on a server to talk to, exactly if no call that gives up waiting, with a fault neither of the
connection nor of time running out, leaves the server as it is. -/
theorem one_request_at_a_time_iff (settings : Settings τ) (project : Project) (world : World τ)
    (turns : List (Turn τ)) :
    let s := Session.ofProject settings project world
    (∀ earlier, earlier <+: turns →
        (∀ v ∈ (s.run earlier).servers, OneAtATime v.transcript) ∧
          ((s.run earlier).isRunning = true →
            (s.run earlier).OnTranscript (openRequests · = []))) ↔
      ∀ earlier turn, earlier ++ [turn] <+: turns → ¬ turn.LeavesOpen (s.run earlier) := by
  intro s
  constructor
  · rintro hopen earlier turn hearlier ⟨fault, -, -, hrunning, hleft⟩
    have hafter := (hopen (earlier ++ [turn]) hearlier).2
    rw [Session.run_append] at hafter
    exact hleft (hafter hrunning)
  · intro hleaves earlier hearlier
    have hfresh : s.Tidy := ⟨fun t ht => (by cases ht), fun hrunning => (by cases hrunning)⟩
    have htidy := Session.run_tidy hfresh fun e turn he => hleaves e turn (he.trans hearlier)
    exact ⟨fun v hv => htidy.loose _ (List.mem_map_of_mem hv), htidy.none_open⟩

/-- A server that asks for settings in a way that has no answer, and sorts nothing. -/
def puzzledSession : Session ℚ :=
  sampleSession {} {}
    { batches :=
        [(Method.handshake, [[.answer (.object [])]]),
          (Method.sortSelection, [[.say (.object
            [("id", .int 1), ("method", .string Method.configuration),
              ("params", .object [("items", .int 5)])])]])] }

example : (puzzledSession.run [.call (.sort "a"), .call (.sort "b")]).transcripts.map openRequests =
    [[.number 2, .number 3]] := by decide +kernel

end ClassOrder
