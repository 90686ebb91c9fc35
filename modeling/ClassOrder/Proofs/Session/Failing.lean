import ClassOrder.Proofs.Session.Asking
import ClassOrder.Proofs.Session.Foreign
import ClassOrder.Proofs.Session.Requests
import ClassOrder.Proofs.Session.Unrefused

/-!
# What a failed call leaves

A call that fails with one of the session's own faults leaves one of two things.  If the server has
answered with an error, the call has kept the server, and the session is in step with it: the last
thing that was read is the answer, and what comes next on the stream is what the server says next.
With any other fault the server has been taken down, if there was one.

## Main definitions

* `Session.Cleared` — a failure that left no server.
* `Session.Keeping` — one session as another that has gone on talking with its server.
* `Attached.InStep` — a server whose answer to a request was the last thing read.
* `Session.FailedOn` — what a failed call leaves of the session that it ran on.

## Main results

* `ensureStarted_cleared` — a failed start leaves no server.
* `call_triple` — what a request leaves, whether it gives a result or fails.
* `order_failed`, `askProject_failed` — **what the two calls leave when they fail.**
-/

namespace ClassOrder

open ClassOrder.Action (Keeps Triple)

variable {τ α β : Type}

/-- The response says that the request failed: it holds an error, or a result with one in it. -/
def Message.tellsFailure : Message → Bool
  | .response _ _ (some _) => true
  | .response _ result none => (heldError? result).isSome
  | .request .. | .notification .. => false

/-- The exchange has made one more request, and the last thing of all was that its response `m` was
read off the stream, and nothing after it. -/
structure Attached.InStep (a b : Attached τ) (m : Message) : Prop where
  exchange : b.exchange = { a.exchange with lastId := a.exchange.lastId + 1, state := .completed }
  responds : m.responds (.number b.exchange.lastId) = true
  read : ∃ v : Server τ, a.server.Onward v ∧
    b.server.transcript = v.transcript ++ [.read m] ∧
    v.channel.intake.Consumes m b.server.channel.intake

namespace Session

variable {s t : Session τ} {a b : Attached τ}

/-- A fault of the session's own that is no error of the server has left no server. -/
def Cleared (fault : Fault τ) (s : Session τ) : Prop :=
  fault.kind.isOwn = true → fault.kind ≠ .domain ∧ s.attached = none

theorem Cleared.of_isForeign {fault : Fault τ} (h : fault.IsForeign) (s : Session τ) :
    Cleared fault s := by
  intro hown
  rw [h] at hown
  cases hown

/-- There is a server with open streams, and whatever it fails with is foreign. -/
structure Ready (s : Session τ) : Prop where
  foreign : s.Foreign
  attached : ∃ a, s.attached = some a ∧ a.server.isConnected = true

theorem Ready.of_holdings (h : s.Ready) (hholdings : t.holdings = s.holdings) : t.Ready where
  foreign := h.foreign.of_holdings hholdings
  attached := by
    rw [show t.attached = s.attached from congrArg Holdings.attached hholdings]
    exact h.attached

theorem Ready.of_isRunning (hs : s.Foreign) (h : s.isRunning = true) : s.Ready := by
  refine ⟨hs, ?_⟩
  rw [isRunning] at h
  cases ha : s.attached with
  | none =>
    rw [ha] at h
    cases h
  | some a =>
    rw [ha] at h
    exact ⟨a, rfl, (Bool.and_eq_true_iff.mp h).1⟩

/-- The session `t` has gone on talking with the server that `s` has, which was `a` and is now `b`.
Nothing else has been done to a server, and the streams of this one are open. -/
structure Keeping (s : Session τ) (a b : Attached τ) (t : Session τ) : Prop where
  attached : t.attached = some b
  onward : a.server.Onward b.server
  isConnected : b.server.isConnected = true
  former : t.former = s.former
  events : t.world.events = s.world.events

/-- The session `t` has gone on with the server of `s`, up to the response to a request. -/
def Heard (s : Session τ) (m : Message) (t : Session τ) : Prop :=
  ∃ a b, s.attached = some a ∧ Keeping s a b t ∧ a.InStep b m

/-- What a call that failed leaves of the session that it ran on: no server, unless the server has
answered with an error. -/
def FailedOn (s : Session τ) (fault : Fault τ) (t : Session τ) : Prop :=
  fault.kind.isOwn = true →
    if fault.kind = .domain then ∃ m, m.tellsFailure = true ∧ s.Heard m t else t.attached = none

theorem FailedOn.of_heard {fault : Fault τ} {m : Message} (h : s.Heard m t)
    (hm : m.tellsFailure = true) (hdomain : fault.kind = .domain) : s.FailedOn fault t := by
  intro _
  rw [if_pos hdomain]
  exact ⟨m, hm, h⟩

theorem Cleared.failedOn {fault : Fault τ} (h : Cleared fault t) (s : Session τ) :
    s.FailedOn fault t := by
  intro hown
  obtain ⟨hkind, hnone⟩ := h hown
  rwa [if_neg hkind]

/-- The session has only announced things to its server since `s`. -/
structure Holding (s t : Session τ) : Prop where
  foreign : t.Foreign
  keeping : ∃ a b, s.attached = some a ∧ Keeping s a b t ∧ b.exchange = a.exchange

theorem Ready.holding (h : s.Ready) : Holding s s where
  foreign := h.foreign
  keeping := by
    obtain ⟨a, ha, hconnected⟩ := h.attached
    exact ⟨a, a, ha, ⟨ha, .refl _, hconnected, rfl, rfl⟩, rfl⟩

/-- Talking goes on with the server, if it leads it onward and leaves its streams open. -/
theorem Keeping.talked (h : Keeping s a b t)
    (talk : Exchange τ → Wire τ → Except (Fault τ) α × Exchange τ × Wire τ)
    (htalk : ∀ x (w : Wire τ), w.server.Onward (talk x w).2.2.server ∧
      (talk x w).2.2.server.isConnected = w.server.isConnected) :
    let talked := talk b.exchange ⟨b.server, t.world.clock, t.world.log⟩
    Keeping s a ⟨talked.2.2.server, talked.2.1⟩ ((onWire talk).apply t).2 := by
  obtain ⟨-, hattached, hformer⟩ := onWire_apply talk h.attached
  obtain ⟨honward, hconnected⟩ := htalk b.exchange ⟨b.server, t.world.clock, t.world.log⟩
  refine ⟨hattached, h.onward.trans honward, hconnected.trans h.isConnected,
    hformer.trans h.former, ?_⟩
  rw [← h.events, onWire, Action.apply_ofFun]
  simp only [h.attached]

variable [Timeline τ]

/-! ### Starting -/

theorem teardown_cleared (graceful : Bool) :
    Triple Foreign (teardown graceful : Action (Session τ) τ Unit)
      (fun _ s => s.Foreign ∧ s.attached = none) Cleared := by
  intro s hs
  have hrun := teardown_foreign graceful s hs
  split at hrun
  · next heq => exact ⟨hrun, attached_of_teardown_ok heq⟩
  · exact .of_isForeign hrun.2 _

theorem attach_ready {c : Conduct τ} (hs : s.world.Foreign) (hc : c.Foreign) :
    (s.attach c).Ready where
  foreign := ⟨hs, fun a ha => by cases ha; exact Server.Foreign.launch hc _ _ _ _⟩
  attached := by
    refine ⟨_, rfl, ?_⟩
    dsimp only
    rw [Server.launch, Server.isConnected_performAll]
    rfl

theorem launchWith_ready (command : List String) (directory : Path) :
    Triple (fun s => s.Foreign ∧ s.attached = none)
      (launchWith command directory : Action (Session τ) τ Unit) (fun _ => Ready) Cleared := by
  rintro s ⟨hs, hnone⟩
  have hlaunch := hs.world s.world.launched
  rw [launchWith, Action.apply_ofFun]
  cases houtcome : s.world.launches s.world.launched with
  | error fault =>
    rw [houtcome] at hlaunch
    dsimp only [launchFault]
    split
    · exact fun _ => ⟨by simp [Fault.kind], hnone⟩
    · exact .of_isForeign hlaunch _
  | ok conduct =>
    rw [houtcome] at hlaunch
    exact attach_ready hs.world hlaunch

theorem startup_cleared :
    Triple Foreign (startup : Action (Session τ) τ Unit) (fun _ => Ready) Cleared :=
  startup_spec (fun _ _ h hs => hs.of_holdings h) (fun _ hs hnone => ⟨hs, hnone⟩)
    (teardown_cleared false)
    (fun _ _ h hs => ⟨hs.1.of_holdings h, (congrArg Holdings.attached h).trans hs.2⟩)
    (fun _ _ hkind hs _ => ⟨hkind, hs.2⟩) launchWith_ready

/-- Talking neither opens nor closes a stream. -/
theorem serves_isConnected (connected : Bool) :
    (Wire.link : Link (Wire τ) τ).Serves fun w => w.server.isConnected = connected where
  note _ _ h := h
  reply _ _ := Keeps.of_apply fun w hw => (w.server.isConnected_send _ _).trans hw
  receive _ := Keeps.of_apply fun w hw => (w.server.isConnected_receive _ _).trans hw

omit [Timeline τ] in
theorem ready_of_onWire {talk : Exchange τ → Wire τ → Except (Fault τ) α × Exchange τ × Wire τ}
    (hforeign : (onWire talk : Action (Session τ) τ α).Keeps Foreign)
    (htalk : ∀ x (w : Wire τ), (talk x w).2.2.server.isConnected = w.server.isConnected) :
    (onWire talk : Action (Session τ) τ α).Keeps Ready := by
  refine Keeps.of_apply fun s ⟨hs, a, ha, hconnected⟩ => ⟨hforeign.apply hs, ?_⟩
  obtain ⟨-, hattached, -⟩ := onWire_apply talk ha
  exact ⟨_, hattached, (htalk _ _).trans hconnected⟩

theorem openConversation_ready :
    Triple Ready (openConversation : Action (Session τ) τ Unit)
      (fun _ => Ready) (fun _ => Foreign) := by
  have hask (params : Json) :
      (request Method.handshake params : Action (Session τ) τ Json).Keeps Ready :=
    ready_of_onWire (enduring_foreign.request _ params) fun x w =>
      x.request_keeps (serves_isConnected w.server.isConnected)
        (fun _ => Keeps.of_apply fun v hv => (v.server.isConnected_send _ _).trans hv) none rfl
  have hannounce (method : String) (params : Json) :
      (notify method params : Action (Session τ) τ Unit).Keeps Ready :=
    ready_of_onWire (enduring_foreign.notify method params) fun _ w =>
      w.server.isConnected_send _ _
  have hdrain (timeout : τ) : (drain timeout : Action (Session τ) τ Nat).Keeps Ready :=
    ready_of_onWire (enduring_foreign.drain timeout) fun x w =>
      x.drain_keeps (serves_isConnected w.server.isConnected) timeout rfl
  have htalks : Talks (τ := τ) Ready (fun _ => Ready) (fun _ => Foreign) :=
    { quiet_before := fun _ _ h hs => hs.of_holdings h
      quiet_after := fun _ _ _ h hs => hs.of_holdings h
      failed_before := fun _ _ hs => hs.foreign
      failed_after := fun _ _ _ hs => hs.foreign
      ask := fun params => (hask params).post (fun _ _ hs => hs) fun _ _ hs => hs.foreign
      announce := fun _ method params =>
        (hannounce method params).post (fun _ _ hs => hs) fun _ _ hs => hs.foreign
      drain := fun _ timeout => (hdrain timeout).post (fun _ _ hs => hs) fun _ _ hs => hs.foreign }
  exact htalks.openConversation.post (fun _ _ hs => hs.choose_spec) fun _ _ hs => hs

/-- **A failed start leaves no server**, if it fails with a fault of the session's own, and that is
no error of the server. -/
theorem ensureStarted_cleared :
    Triple Foreign (ensureStarted : Action (Session τ) τ Unit) (fun _ => Ready) Cleared := by
  intro s hs
  have hhandshake : Triple Ready (handshake : Action (Session τ) τ Unit)
      (fun _ => Ready) Cleared := by
    refine Triple.tryCatch openConversation_ready fun fault =>
      Triple.ite (fun _ => ?_) fun hown => Triple.throw fun _ _ h => absurd h hown
    exact Triple.bind (teardown_cleared false) fun _ =>
      Triple.throw fun _ ht _ => ⟨by simp [Fault.kind], ht.2⟩
  have hstart := startup_cleared s hs
  rw [apply_ensureStarted]
  split_ifs with hrunning
  · exact .of_isRunning hs hrunning
  · split at hstart
    · next heq =>
      rw [heq]
      exact hhandshake _ hstart
    · next heq =>
      rw [heq]
      exact hstart

/-! ### Talking -/

/-- A notification is heard, or the connection is of no use, unless the fault is foreign. -/
theorem notify_holding (s : Session τ) (method : String) (params : Json) :
    Triple (Holding s) (notify method params : Action (Session τ) τ Unit) (fun _ => Holding s)
      (fun fault t => t.Foreign ∧ (fault.kind.isProtocol = true ∨ fault.IsForeign)) := by
  rintro t ⟨hforeign, a, b, ha, hkeeping, hexchange⟩
  have hafter := (enduring_foreign.notify method params).apply hforeign
  have hkept : Keeping s a _ ((notify method params).apply t).2 := hkeeping.talked _
    fun _ w => ⟨w.server.onward_send _ _, w.server.isConnected_send _ _⟩
  have hresult : ((notify method params).apply t).1 = _ := (onWire_apply _ hkeeping.attached).1
  rcases hrun : (notify method params).apply t with ⟨fault | ⟨⟩, u⟩
  · rw [hrun] at hafter hresult
    exact ⟨hafter, (hforeign.attached b hkeeping.attached).fault_of_send hresult.symm⟩
  · rw [hrun] at hafter hkept
    exact ⟨hafter, a, _, ha, hkept, hexchange⟩

/-- **A request is heard out or fails on the wire**: its result or the server's error comes with the
response, and any other fault is one that the wire may meet. -/
theorem request_heard (s : Session τ) (method : String) (params : Json) :
    Triple (Holding s) (request method params : Action (Session τ) τ Json)
      (fun result t => ∃ id, s.Heard (.response id result none) t)
      (fun fault t => t.Foreign ∧ (fault.OnWire ∨
        fault.kind = .domain ∧ ∃ id result e, s.Heard (.response id result (some e)) t)) := by
  rintro t ⟨hforeign, a, b, ha, hkeeping, hexchange⟩
  have hafter := (enduring_foreign.request method params).apply hforeign
  have hkept := hkeeping.talked (fun x w => x.request Wire.link method params none w) fun x w =>
    ⟨request_onward method params x w, x.request_keeps (serves_isConnected w.server.isConnected)
      (fun _ => Keeps.of_apply fun v hv => (v.server.isConnected_send _ _).trans hv) none rfl⟩
  obtain ⟨hresult, -, -⟩ := onWire_apply (fun x w => x.request Wire.link method params none w)
    hkeeping.attached
  rw [← request] at hkept hresult
  rcases hrun : (request method params).apply t with ⟨r, u⟩
  rw [hrun] at hafter hkept hresult
  generalize htalk : b.exchange.request Wire.link method params none
    ⟨b.server, t.world.clock, t.world.log⟩ = talked at hkept hresult
  obtain ⟨r', y, w⟩ := talked
  obtain rfl : r = r' := hresult
  rcases Exchange.request_ends (Wire.failsBy_talking a.server)
    ⟨hforeign.attached b hkeeping.attached, hkeeping.onward⟩ htalk with
    ⟨v, result, error, ⟨-, honward⟩, hreads, rfl, rfl⟩ | ⟨fault, rfl, hfault⟩
  · -- the response is the last thing that was read
    obtain ⟨htranscript, hconsumes⟩ := Wire.of_reads hreads
    have hheard : s.Heard (.response (some (.number (b.exchange.lastId + 1))) result error) u := by
      refine ⟨a, _, ha, hkept, ?_, by simp [Message.responds], v.server, honward, htranscript,
        hconsumes⟩
      rw [hexchange]
    cases error with
    | none => exact ⟨_, hheard⟩
    | some e => exact ⟨hafter, .inr ⟨rfl, _, _, _, hheard⟩⟩
  · refine ⟨hafter, .inl ?_⟩
    rcases hfault with hwire | rfl | rfl | hover
    · exact hwire
    · exact .inr (.inr rfl)
    · exact .inr (.inr rfl)
    · exact .inr (.inl hover)

/-! ### Calls -/

/-- What ends the server after some faults leaves no server after them. -/
theorem orAbandon_triple {P : Session τ → Prop} {Q : α → Session τ → Prop}
    {E F : Fault τ → Session τ → Prop} {gives : FaultKind → Bool} {a : Action (Session τ) τ α}
    (ha : Triple P a Q F) (hgives : ∀ kind, gives kind = true → kind ≠ .domain)
    (hforeign : ∀ fault t, F fault t → t.Foreign)
    (hcleared : ∀ fault t, Cleared fault t → E fault t)
    (hkept : ∀ fault t, F fault t → gives fault.kind = false → E fault t) :
    Triple P (orAbandon gives a) Q E := by
  refine Triple.tryCatch ha fun fault => Triple.ite (fun hgave => ?_) fun hgave =>
    Triple.throw fun t ht => hkept fault t ht (by simpa using hgave)
  exact Triple.bind ((teardown_cleared false).conseq (hforeign fault) (fun _ _ ht => ht) hcleared)
    fun _ => Triple.throw fun t ht => hcleared fault t fun _ => ⟨hgives _ hgave, ht.2⟩

theorem changeDocument_holding {s : Session τ} (classes : String) :
    Triple (Holding s) (changeDocument classes : Action (Session τ) τ Unit)
      (fun _ => Holding s) (FailedOn s) := by
  have hcount : Triple (Holding s)
      (modify fun t => { t with documentVersion := t.documentVersion + 1 }
        : Action (Session τ) τ Unit) (fun _ => Holding s) (FailedOn s) :=
    Triple.modify fun t ⟨hforeign, a, b, ha, hkeeping, hexchange⟩ =>
      ⟨hforeign.of_holdings rfl, a, b, ha, ⟨hkeeping.attached, hkeeping.onward,
        hkeeping.isConnected, hkeeping.former, hkeeping.events⟩, hexchange⟩
  refine Triple.bind hcount fun _ => Triple.get_bind fun t ht => ?_
  refine orAbandon_triple ((notify_holding s _ _).pre fun u hu => hu ▸ ht) (fun kind h => ?_)
    (fun _ _ h => h.1) (fun _ _ h => h.failedOn s) fun fault u hu hkept => ?_
  · rintro rfl
    cases h
  · rcases hu.2 with hlost | hforeign
    · rw [hlost] at hkept
      cases hkept
    · exact (Cleared.of_isForeign hforeign u).failedOn s

/-- **What a request leaves**: its response with a result, or what a failed call leaves. -/
theorem call_triple {s : Session τ} (method : String) (params : Json) :
    Triple (Holding s) (call method params : Action (Session τ) τ Json)
      (fun result t => ∃ id, s.Heard (.response id result none) t) (FailedOn s) := by
  refine orAbandon_triple (request_heard s method params) (fun kind h => ?_) (fun _ _ h => h.1)
    (fun _ _ h => h.failedOn s) fun fault t ht hkept hown => ?_
  · rintro rfl
    cases h
  · rcases ht.2 with hwire | ⟨hdomain, id, result, e, hheard⟩
    · -- faults of the wire that are the session's own are the ones after which a server is ended
      have hends : fault.kind.endsServer = true := by
        rcases hwire.isOwn hown with hlost | hover
        · rw [FaultKind.endsServer, hlost, Bool.true_or]
        · rw [FaultKind.endsServer, hover]
          rfl
      rw [FaultKind.endsServer, hkept] at hends
      cases hends
    · exact FailedOn.of_heard hheard rfl hdomain hown

omit [Timeline τ] in
/-- What an answer about a class list fails with: an error that it holds, or a fault that is none of
the session's own. -/
theorem sortedClasses_eq_error {result : Json} {fault : Fault τ}
    (h : sortedClasses result = .error fault) (hown : fault.kind.isOwn = true) :
    fault.kind = .domain ∧ (heldError? result).isSome = true := by
  unfold sortedClasses at h
  split at h
  · next heq =>
    cases h
    exact ⟨rfl, by rw [heq]; rfl⟩
  · split at h
    · next heq =>
      cases h
      unfold firstList? at heq
      split at heq
      · split at heq <;> cases heq <;> cases hown
      · cases heq
    · cases h

/-- **What asking for an order leaves when it fails.** -/
theorem order_failed {s : Session τ} (classes : String) :
    Triple (Holding s) (order classes : Action (Session τ) τ String)
      (fun _ _ => True) (FailedOn s) := by
  refine Triple.bind (changeDocument_holding classes) fun _ => Triple.get_bind fun t ht => ?_
  refine Triple.bind ((call_triple _ _).pre fun u hu => hu ▸ ht) fun result => ?_
  have hsorted : Triple (fun u => ∃ id, s.Heard (.response id result none) u)
      (Action.ofExcept (sortedClasses result) : Action (Session τ) τ (Option String))
      (fun _ _ => True) (FailedOn s) := by
    rintro u ⟨id, hu⟩
    rw [Action.apply_ofExcept]
    cases hlist : (sortedClasses result : Except (Fault τ) (Option String)) with
    | ok list => trivial
    | error fault =>
      intro hown
      obtain ⟨hdomain, hheld⟩ := sortedClasses_eq_error hlist hown
      exact FailedOn.of_heard hu hheld hdomain hown
  -- what is done with an answer fails with nothing
  refine Triple.bind hsorted fun list => ?_
  cases list with
  | none =>
    exact Triple.bind (S := fun _ _ => True) (Triple.modify fun _ _ => trivial)
      fun _ => Triple.pure fun _ _ => trivial
  | some sorted =>
    exact Triple.bind (S := fun _ _ => True) (Triple.modify fun _ _ => trivial)
      fun _ => Triple.pure fun _ _ => trivial

/-- **What asking for the project leaves when it fails.** -/
theorem askProject_failed {s : Session τ} :
    Triple (Holding s) (askProject : Action (Session τ) τ Json)
      (fun _ _ => True) (FailedOn s) := by
  have hpresent (x : Option Path) : Triple (Holding s)
      (present x : Action (Session τ) τ Path) (fun _ => Holding s) (FailedOn s) := by
    cases x with
    | some p => exact Triple.pure fun _ hs => hs
    | none => exact Triple.throw fun _ _ => Cleared.failedOn (by rintro ⟨⟩) s
  have huri (p : Path) : Triple (Holding s) (uriOf p : Action (Session τ) τ String)
      (fun _ => Holding s) (FailedOn s) := by
    unfold uriOf
    split
    · exact Triple.pure fun _ hs => hs
    · exact Triple.throw fun _ _ => Cleared.failedOn (by rintro ⟨⟩) s
  refine Triple.get_bind fun t ht => Triple.bind ((hpresent _).pre fun u hu => hu ▸ ht) fun p => ?_
  refine Triple.bind (huri p) fun uri => Triple.bind (call_triple _ _) fun result => ?_
  cases hheld : heldError? result with
  | some error =>
    exact Triple.throw fun u ⟨id, hu⟩ =>
      FailedOn.of_heard hu (by rw [Message.tellsFailure, hheld]; rfl) rfl
  | none =>
    exact Triple.ite (fun _ => Triple.bind (S := fun _ _ => True) (Triple.modify fun _ _ => trivial)
      fun _ => Triple.pure fun _ _ => trivial) fun _ => Triple.pure fun _ _ => trivial

end Session

end ClassOrder
