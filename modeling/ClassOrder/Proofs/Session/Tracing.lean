import ClassOrder.Proofs.Exchange.Tracing
import ClassOrder.Session.Run
import Mathlib.Data.List.Forall2

/-!
# Tracing changes nothing but the log

A session may be told to log every message.  Apart from the log nothing comes of it: whatever is
called for and whatever happens in between, a session that logs every message and one that does not
come to the same, turn by turn.  They give the same results and fail with the same faults, write the
same bytes at the same times, close the same streams, and keep the same server, exchange, workspace
and results.

## Main definitions

* `Session.untraced` — a session without all that tracing may change.
* `Session.Alike` — two sessions that differ in that alone.
* `Session.trail` — what every turn of a run comes to, with the session after it.
* `Session.SameTrail` — two runs of the same turns that come to the same, turn by turn.

## Main results

* `Call.blind_perform` — no operation sees whether messages are traced.
* `Turn.take_alike` — no turn does.
* `Session.Alike.observed` — what alike sessions have in common.
* `Session.Alike.sameTrail` — alike sessions come to the same and stay alike.
* `tracing_changes_log_only` — **tracing changes nothing but the log.**
-/

namespace ClassOrder

open ClassOrder.Action (Blind)

variable {τ α : Type}

namespace Session

/-- The session without its log. -/
def unlogged (s : Session τ) : Session τ := { s with world := { s.world with log := [] } }

/-- The session without its log, with tracing off and servers that are not traced. -/
def untraced (s : Session τ) : Session τ :=
  { s with
    settings := { s.settings with debug := false }
    world := { s.world with log := [] }
    attached := s.attached.map fun a => { a with server := a.server.untraced }
    former := s.former.map Server.untraced }

/-! ### What does not change -/

section

variable (s : Session τ)

@[simp] theorem host_untraced : s.untraced.world.host = s.world.host := rfl

@[simp] theorem clock_untraced : s.untraced.world.clock = s.world.clock := rfl

@[simp] theorem launches_untraced : s.untraced.world.launches = s.world.launches := rfl

@[simp] theorem launched_untraced : s.untraced.world.launched = s.world.launched := rfl

@[simp] theorem settings_untraced :
    s.untraced.settings = { s.settings with debug := false } := rfl

@[simp] theorem isSome_attached_untraced :
    s.untraced.attached.isSome = s.attached.isSome := Option.isSome_map

@[simp] theorem isRunning_untraced : s.untraced.isRunning = s.isRunning := by
  unfold isRunning untraced
  cases s.attached <;> rfl

@[simp] theorem serverAlive_untraced : s.untraced.serverAlive = s.serverAlive := by
  unfold serverAlive untraced
  cases s.attached <;> rfl

@[simp] theorem lastRequest_untraced : s.untraced.lastRequest = s.lastRequest := by
  unfold lastRequest untraced
  cases s.attached <;> rfl

theorem servers_untraced :
    s.untraced.servers = s.servers.map Server.untraced := by
  unfold servers untraced
  cases s.attached <;> simp

end

/-! ### Steps -/

theorem blind_of_apply {a : Action (Session τ) τ α}
    (h : ∀ s, (a.apply s).1 = (a.apply s.untraced).1 ∧
      (a.apply s).2.untraced = (a.apply s.untraced).2.unlogged) : Blind untraced a :=
  Blind.of_forget unlogged h

theorem blind_modify {f : Session τ → Session τ}
    (h : ∀ s, (f s).untraced = (f s.untraced).unlogged) :
    Blind untraced (modify f : Action (Session τ) τ Unit) := Blind.modify unlogged h

theorem blind_log (text : String) : Blind untraced (log text : Action (Session τ) τ Unit) :=
  blind_modify fun _ => rfl

theorem blind_present (x : Option α) : Blind untraced (present x : Action (Session τ) τ α) := by
  cases x with
  | some a => exact .pure a
  | none => exact .throw _

theorem blind_uriOf (p : Path) : Blind untraced (uriOf p : Action (Session τ) τ String) := by
  unfold uriOf
  split
  · exact .pure _
  · exact .throw _

/-! ### The workspace -/

theorem blind_withFiles (change : FileTree → Place → Except SystemFault FileTree) :
    Blind untraced (withFiles change : Action (Session τ) τ Unit) :=
  blind_of_apply fun s => by
    simp only [withFiles, Action.apply_ofFun, host_untraced]
    cases change s.world.host.files s.world.host.cwd <;> exact ⟨rfl, rfl⟩

theorem blind_readText (p : Path) : Blind untraced (readText p : Action (Session τ) τ String) :=
  blind_of_apply fun s => by
    simp only [readText, Action.apply_ofFun, host_untraced]
    split
    · exact ⟨rfl, rfl⟩
    · split <;> exact ⟨rfl, rfl⟩

theorem blind_configTime (config : Path) :
    Blind untraced (configTime config : Action (Session τ) τ Int) :=
  blind_of_apply fun s => by
    simp only [configTime, Action.apply_ofFun, host_untraced]
    split <;> exact ⟨rfl, rfl⟩

theorem blind_dropResults : Blind untraced (dropResults : Action (Session τ) τ Unit) :=
  blind_modify fun _ => rfl

theorem blind_createStaging : Blind untraced (createStaging : Action (Session τ) τ Path) :=
  Blind.get_bind (fun _ => rfl) fun _ => Blind.bind (blind_withFiles _) fun _ =>
    Blind.bind (blind_modify fun _ => rfl) fun _ => Blind.bind (blind_log _) fun _ => .pure _

theorem blind_stageDirectory : Blind untraced (stageDirectory : Action (Session τ) τ Path) := by
  refine Blind.get_bind (fun _ => rfl) fun s => ?_
  split
  · exact Blind.ite (.pure _) blind_createStaging
  · exact blind_createStaging

theorem blind_stageDocument (directory : Path) :
    Blind untraced (stageDocument directory : Action (Session τ) τ Unit) :=
  Blind.get_bind (fun _ => rfl) fun _ => Blind.ite (blind_withFiles _) (.pure _)

theorem blind_copyProject (directory config : Path) (stylesheet : Option Path) (time : Int) :
    Blind untraced (copyProject directory config stylesheet time : Action (Session τ) τ Unit) := by
  have hrest : Blind untraced (do
      let content ← readText config
      modify fun s => { s with snapshot := some ⟨config, time, content⟩ }
      dropResults : Action (Session τ) τ Unit) :=
    Blind.bind (blind_readText _) fun _ => Blind.bind (blind_modify fun _ => rfl) fun _ =>
      blind_dropResults
  refine Blind.bind (blind_log _) fun _ => Blind.bind (blind_withFiles _) fun _ => ?_
  cases stylesheet with
  | some sheet =>
    exact Blind.get_bind (fun _ => rfl) fun _ =>
      Blind.ite (Blind.bind (blind_withFiles _) fun _ => hrest) hrest
  | none => exact hrest

theorem blind_stageProject (directory config : Path) (stylesheet : Option Path) :
    Blind untraced (stageProject directory config stylesheet : Action (Session τ) τ Unit) :=
  Blind.bind (blind_configTime _) fun _ => Blind.get_bind (fun _ => rfl) fun _ =>
    Blind.ite
      (Blind.bind (blind_copyProject _ _ _ _) fun _ => blind_modify fun _ => rfl)
      (blind_modify fun _ => rfl)

theorem blind_stageStandard (directory : Path) :
    Blind untraced (stageStandard directory : Action (Session τ) τ Unit) :=
  Blind.get_bind (fun _ => rfl) fun _ =>
    Blind.ite
      (Blind.bind (blind_log _) fun _ => Blind.bind (blind_withFiles _) fun _ =>
        Blind.bind (blind_withFiles _) fun _ => blind_modify fun _ => rfl)
      (blind_modify fun _ => rfl)

theorem blind_prepareWorkspace :
    Blind untraced (prepareWorkspace : Action (Session τ) τ Unit) := by
  refine Blind.bind blind_stageDirectory fun directory =>
    Blind.bind (blind_stageDocument directory) fun _ => Blind.get_bind (fun _ => rfl) fun s => ?_
  dsimp only
  split
  · exact blind_stageProject _ _ _
  · exact blind_stageStandard _

theorem blind_removeWorkspace : Blind untraced (removeWorkspace : Action (Session τ) τ Unit) := by
  refine Blind.get_bind (fun _ => rfl) fun s => ?_
  split
  · exact Blind.ite (blind_withFiles _) (.pure _)
  · exact .pure _

theorem blind_forgetWorkspace : Blind untraced (forgetWorkspace : Action (Session τ) τ Unit) :=
  Blind.bind (blind_modify fun _ => rfl) fun _ => blind_dropResults

/-! ### Talking to the server -/

/-- Talk that does not see whether the wire is traced is blind to it. -/
theorem blind_onWire {talk : Exchange τ → Wire τ → Except (Fault τ) α × Exchange τ × Wire τ}
    (h : ∀ x v w, Wire.untraced v = Wire.untraced w → (talk x v).1 = (talk x w).1 ∧
      (talk x v).2.1 = (talk x w).2.1 ∧ (talk x v).2.2.untraced = (talk x w).2.2.untraced) :
    Blind untraced (onWire talk) := by
  -- what talking makes of the server is the same only up to whether it is traced
  refine Blind.of_forget (fun s => { s.unlogged with
    attached := s.attached.map fun a => { a with server := a.server.untraced } }) fun s => ?_
  cases ha : s.attached with
  | none =>
    have hnone : s.untraced.attached = none := congrArg (Option.map _) ha
    rw [onWire, Action.apply_ofFun, Action.apply_ofFun, ha, hnone]
    refine ⟨rfl, ?_⟩
    simp [untraced, unlogged, ha]
  | some a =>
    have hsome : s.untraced.attached = some { a with server := a.server.untraced } :=
      congrArg (Option.map _) ha
    obtain ⟨houtcome, hexchange, hwire⟩ := h a.exchange ⟨a.server, s.world.clock, s.world.log⟩
      ⟨a.server.untraced, s.world.clock, []⟩ rfl
    rw [onWire, Action.apply_ofFun, Action.apply_ofFun, ha, hsome]
    refine ⟨houtcome, ?_⟩
    exact congrArg₂ (fun (x : Exchange τ) (w : Wire τ) => { s.untraced with
      attached := some ⟨w.server, x⟩
      world := { s.world with clock := w.clock, log := [] } }) hexchange hwire

/-- What is done to a server by itself, traced or not, is done to one in a session. -/
theorem onServer_untraced {change : τ → Server τ → Server τ}
    (h : ∀ now v, change now v.untraced = (change now v).untraced) (s : Session τ) :
    s.untraced.onServer change = (s.onServer change).untraced := by
  unfold onServer untraced
  cases s.attached with
  | none => rfl
  | some a =>
    simp only [Option.map_some]
    rw [h]

theorem blind_onServer {change : τ → Server τ → Server τ}
    (h : ∀ now v, change now v.untraced = (change now v).untraced)
    (after : Session τ → Session τ)
    (hafter : ∀ s, (after s).untraced = (after s.untraced).unlogged) :
    Blind untraced (modify fun s => after (s.onServer change) : Action (Session τ) τ Unit) :=
  blind_modify fun s => by rw [hafter, onServer_untraced h]

theorem blind_closeStream {close : τ → Server τ → Except (Fault τ) Unit × Server τ}
    (h : ∀ now v, close now v.untraced = ((close now v).1, (close now v).2.untraced))
    (e : ServerEvent τ) : Blind untraced (closeStream close e) := by
  refine blind_of_apply fun s => ?_
  cases ha : s.attached with
  | none =>
    have hnone : s.untraced.attached = none := congrArg (Option.map _) ha
    rw [closeStream, Action.apply_ofFun, Action.apply_ofFun, ha, hnone]
    exact ⟨rfl, rfl⟩
  | some a =>
    have hsome : s.untraced.attached = some { a with server := a.server.untraced } :=
      congrArg (Option.map _) ha
    rw [closeStream, Action.apply_ofFun, Action.apply_ofFun, ha, hsome]
    dsimp only
    rw [clock_untraced, h]
    rcases close s.world.clock a.server with ⟨fault | ⟨⟩, v⟩
    · dsimp only
      split <;> exact ⟨rfl, rfl⟩
    · exact ⟨rfl, rfl⟩

theorem blind_closeOutputs : Blind untraced (closeOutputs : Action (Session τ) τ Unit) :=
  Blind.bind (blind_closeStream (fun _ _ => rfl) _) fun _ => blind_closeStream (fun _ _ => rfl) _

theorem blind_detach : Blind untraced (detach : Action (Session τ) τ Unit) :=
  -- only the servers of before are new, and they are those that there were
  blind_modify fun s =>
    congrArg (fun vs => { s.untraced with attached := none, former := vs }) s.servers_untraced.symm

variable [Timeline τ]

theorem blind_request (method : String) (params : Json) :
    Blind untraced (request method params : Action (Session τ) τ Json) :=
  blind_onWire fun x _ _ h => Wire.blind.request method params none x h

theorem blind_notify (method : String) (params : Json) :
    Blind untraced (notify method params : Action (Session τ) τ Unit) :=
  blind_onWire fun _ v w h => by
    obtain ⟨houtcome, hwire⟩ := Wire.blind.send (.notification method params) v w h
    exact ⟨houtcome, rfl, hwire⟩

theorem blind_drain (timeout : τ) : Blind untraced (drain timeout : Action (Session τ) τ Nat) :=
  blind_onWire fun x _ _ h => by
    obtain ⟨houtcome, hwire⟩ := Wire.blind.drain timeout x h
    exact ⟨houtcome, rfl, hwire⟩

/-! ### Taking a server down -/

theorem blind_awaitEnd (timeout : τ) :
    Blind untraced (awaitEnd timeout : Action (Session τ) τ Bool) :=
  Blind.bind (blind_onServer (fun now v => v.elapse_untraced now timeout)
      (happen (.waited (some timeout))) fun _ => rfl) fun _ =>
    Blind.get_bind (fun s => by rw [serverAlive_untraced]) fun _ => .pure _

theorem blind_terminate : Blind untraced (terminate : Action (Session τ) τ Unit) :=
  Blind.bind (blind_onServer (fun now v => v.nudge_untraced now .terminated) (happen .terminated)
      fun _ => rfl) fun _ =>
    Blind.get_bind (fun _ => rfl) fun _ => Blind.bind (blind_awaitEnd _) fun _ =>
      Blind.ite
        (Blind.bind (blind_modify fun _ => rfl) fun _ =>
          blind_onServer (fun now v => v.kill_untraced now)
            (fun s => (s.happen .killed).happen (.waited none)) fun _ => rfl)
        (.pure _)

theorem blind_teardown (graceful : Bool) :
    Blind untraced (teardown graceful : Action (Session τ) τ Unit) := by
  -- the parts from the last one back, each with what comes after it
  have hout : Blind untraced (do closeOutputs; detach : Action (Session τ) τ Unit) :=
    Blind.bind blind_closeOutputs fun _ => blind_detach
  have hend : Blind untraced (do
      if (← get).serverAlive then terminate
      closeOutputs
      detach : Action (Session τ) τ Unit) :=
    Blind.get_bind (fun s => by rw [serverAlive_untraced]) fun _ =>
      Blind.ite (Blind.bind blind_terminate fun _ => hout) hout
  have hleave : Blind untraced (awaitLeave : Action (Session τ) τ Unit) :=
    Blind.get_bind (fun _ => rfl) fun _ => Blind.bind (blind_awaitEnd _) fun _ =>
      Blind.ite (blind_log _) (.pure _)
  have hlast (s : Session τ) : ({ s with lastId := s.lastRequest }).untraced =
      ({ s.untraced with lastId := s.untraced.lastRequest }).unlogged := by
    rw [lastRequest_untraced]
    rfl
  refine Blind.get_bind (fun s => by rw [isSome_attached_untraced]) fun _ =>
    Blind.ite (Blind.bind (blind_modify hlast) fun _ => Blind.bind ?_ fun _ => ?_) (.pure _)
  · exact blind_closeStream (fun now v => v.closeInput_untraced now) _
  · exact Blind.ite (Blind.bind hleave fun _ => hend) hend

/-! ### Starting and stopping -/

omit [Timeline τ] in
theorem blind_serverCommand :
    Blind untraced (serverCommand : Action (Session τ) τ (List String)) :=
  blind_of_apply fun s => by
    simp only [serverCommand, Action.apply_ofFun, host_untraced, settings_untraced]
    split <;> exact ⟨rfl, rfl⟩

omit [Timeline τ] in
theorem blind_noteVersion (answer : Json) :
    Blind untraced (noteVersion answer : Action (Session τ) τ Unit) :=
  blind_of_apply fun s => by
    simp only [noteVersion, Action.apply_ofFun, settings_untraced]
    split <;> exact ⟨rfl, rfl⟩

/-- A server that is launched to be traced is launched all the same. -/
theorem attach_untraced (c : Conduct τ) (s : Session τ) :
    (s.attach c).untraced = (s.untraced.attach c).unlogged := by
  have hlaunch := Server.launch_untraced s.world.clock s.settings.readTimeout s.settings.debug
    s.world.credit c
  exact congrArg (fun v => { s.untraced with
    attached := some ⟨v, { lastId := s.lastId, requestTimeout := s.settings.requestTimeout
                           readTimeout := s.settings.readTimeout, preferences := .standard }⟩
    world := { s.untraced.world with
      complaints := s.world.complaints ++ complaintRecords c.complaints } }) hlaunch

theorem blind_launchWith (command : List String) (directory : Path) :
    Blind untraced (launchWith command directory : Action (Session τ) τ Unit) :=
  blind_of_apply fun s => by
    simp only [launchWith, Action.apply_ofFun, launches_untraced, launched_untraced]
    cases s.world.launches s.world.launched with
    | error fault => exact ⟨rfl, rfl⟩
    | ok conduct => exact ⟨rfl, attach_untraced conduct _⟩

theorem blind_launch : Blind untraced (launch : Action (Session τ) τ Unit) :=
  Blind.bind blind_serverCommand fun _ => Blind.bind (blind_log _) fun _ =>
    Blind.get_bind (fun _ => rfl) fun _ => Blind.bind (blind_present _) fun _ =>
      blind_launchWith _ _

theorem blind_openDocument (p : Path) :
    Blind untraced (openDocument p : Action (Session τ) τ Unit) :=
  Blind.bind (blind_uriOf p) fun _ => Blind.bind (blind_readText p) fun _ => blind_notify _ _

theorem blind_openDocuments : Blind untraced (openDocuments : Action (Session τ) τ Unit) := by
  refine Blind.get_bind (fun _ => rfl) fun s => Blind.bind (blind_present _) fun _ =>
    Blind.bind (blind_openDocument _) fun _ => ?_
  have hdocument : Blind untraced (do openDocument (← present s.document?) :
      Action (Session τ) τ Unit) :=
    Blind.bind (blind_present _) fun _ => blind_openDocument _
  split
  · exact Blind.bind (blind_openDocument _) fun _ => hdocument
  · exact hdocument

theorem blind_openConversation :
    Blind untraced (openConversation : Action (Session τ) τ Unit) :=
  Blind.get_bind (fun _ => rfl) fun _ => Blind.bind (blind_present _) fun _ =>
    Blind.bind (blind_uriOf _) fun _ => Blind.bind (blind_request _ _) fun _ =>
    Blind.bind (blind_noteVersion _) fun _ => Blind.bind (blind_notify _ _) fun _ =>
    Blind.bind (blind_notify _ _) fun _ => Blind.bind blind_openDocuments fun _ =>
    Blind.bind (blind_modify fun _ => rfl) fun _ => Blind.bind (blind_drain _) fun _ =>
    blind_log _

theorem blind_handshake : Blind untraced (handshake : Action (Session τ) τ Unit) :=
  Blind.tryCatch blind_openConversation fun _ =>
    Blind.ite (Blind.bind (blind_teardown false) fun _ => .throw _) (.throw _)

theorem blind_ensureStarted : Blind untraced (ensureStarted : Action (Session τ) τ Unit) := by
  -- the same start follows, whether a dead server is done away with first or not
  have hstart : Blind untraced (do prepareWorkspace; launch; handshake :
      Action (Session τ) τ Unit) :=
    Blind.bind blind_prepareWorkspace fun _ => Blind.bind blind_launch fun _ => blind_handshake
  refine Blind.get_bind (fun s => ?_) fun _ => Blind.ite (Blind.ite ?_ hstart) (.pure _)
  · rw [isRunning_untraced, isSome_attached_untraced]
  · exact Blind.bind (blind_log _) fun _ => Blind.bind (blind_teardown false) fun _ => hstart

theorem blind_stop : Blind untraced (stop : Action (Session τ) τ Unit) := by
  have hfarewell : Blind untraced (farewell : Action (Session τ) τ Unit) :=
    Blind.get_bind (fun _ => rfl) fun _ => Blind.bind (blind_notify _ _) fun _ => blind_notify _ _
  have hgone : Blind untraced (farewellOrGone : Action (Session τ) τ Unit) :=
    Blind.tryCatch hfarewell fun _ => Blind.ite (blind_log _) (.throw _)
  exact Blind.get_bind (fun s => by rw [isRunning_untraced]) fun _ =>
    Blind.ite (Blind.bind (blind_log _) fun _ => hgone.andThen (blind_teardown true)) (.pure _)

theorem blind_cleanup : Blind untraced (cleanup : Action (Session τ) τ Unit) :=
  Blind.bind blind_stop fun _ => Blind.bind (blind_teardown false) fun _ =>
    Blind.bind blind_removeWorkspace fun _ => blind_forgetWorkspace

/-! ### Calls -/

theorem blind_orAbandon (gives : FaultKind → Bool) {a : Action (Session τ) τ α}
    (ha : Blind untraced a) : Blind untraced (orAbandon gives a) :=
  Blind.tryCatch ha fun _ =>
    Blind.ite (Blind.bind (blind_teardown false) fun _ => .throw _) (.throw _)

theorem blind_call (method : String) (params : Json) :
    Blind untraced (call method params : Action (Session τ) τ Json) :=
  blind_orAbandon _ (blind_request method params)

theorem blind_changeDocument (classes : String) :
    Blind untraced (changeDocument classes : Action (Session τ) τ Unit) :=
  Blind.bind (blind_modify fun _ => rfl) fun _ => Blind.get_bind (fun _ => rfl) fun _ =>
    blind_orAbandon _ (blind_notify _ _)

theorem blind_kept? (classes : String) :
    Blind untraced (kept? classes : Action (Session τ) τ (Option String)) :=
  blind_of_apply fun s => by
    have hfound (r : Option String) (cache : Cache τ) :
        (if r.isSome then note (cacheHitRecord classes) { s with cache }
          else { s with cache }).untraced =
        (if r.isSome then note (cacheHitRecord classes) { s.untraced with cache }
          else { s.untraced with cache }).unlogged := by
      split <;> rfl
    exact ⟨rfl, hfound _ _⟩

theorem blind_askForOrder (classes : String) :
    Blind untraced (askForOrder classes : Action (Session τ) τ String) := by
  refine Blind.bind blind_ensureStarted fun _ => Blind.bind (blind_changeDocument _) fun _ =>
    Blind.get_bind (fun _ => rfl) fun _ => Blind.bind (blind_call _ _) fun _ =>
    Blind.bind (.ofExcept _) fun sorted => ?_
  cases sorted with
  | some sorted => exact Blind.bind (blind_modify fun _ => rfl) fun _ => .pure _
  | none => exact Blind.bind (blind_log _) fun _ => .pure _

theorem blind_sortClasses (classes : String) :
    Blind untraced (sortClasses classes : Action (Session τ) τ String) := by
  refine Blind.bind (blind_kept? classes) fun kept => ?_
  cases kept with
  | some result => exact .pure _
  | none => exact blind_askForOrder classes

theorem blind_getProject : Blind untraced (getProject : Action (Session τ) τ Json) := by
  refine Blind.bind blind_ensureStarted fun _ => Blind.get_bind (fun _ => rfl) fun _ =>
    Blind.bind (blind_present _) fun _ => Blind.bind (blind_uriOf _) fun _ =>
    Blind.bind (blind_call _ _) fun result => ?_
  split
  · exact .throw _
  · exact Blind.ite (Blind.bind (blind_modify fun _ => rfl) fun _ => .pure _) (.pure _)

end Session

/-- **No operation sees whether messages are traced.** -/
theorem Call.blind_perform [Timeline τ] (c : Call) :
    Blind Session.untraced (c.perform : Action (Session τ) τ Json) := by
  cases c with
  | start => exact Blind.bind Session.blind_ensureStarted fun _ => .pure _
  | stop => exact Blind.bind Session.blind_stop fun _ => .pure _
  | abandon => exact Blind.bind (Session.blind_teardown false) fun _ => .pure _
  | cleanup => exact Blind.bind Session.blind_cleanup fun _ => .pure _
  | prepare => exact Blind.bind Session.blind_prepareWorkspace fun _ => .pure _
  | sort classes => exact Blind.bind (Session.blind_sortClasses classes) fun _ => .pure _
  | sortOnce classes =>
    exact Blind.bind ((Session.blind_sortClasses classes).andThen Session.blind_stop) fun _ =>
      .pure _
  | project => exact Session.blind_getProject

/-! ### Runs -/

namespace Session

/-- Two sessions that differ at most in the log and in what is traced. -/
def Alike (s t : Session τ) : Prop := s.untraced = t.untraced

/-- In alike sessions the time is the same, the same was done to servers, the same results are kept,
the exchange is the same, and to each server the same bytes were written. -/
theorem Alike.observed {s t : Session τ} (h : s.Alike t) :
    s.world.clock = t.world.clock ∧ s.world.events = t.world.events ∧ s.cache = t.cache ∧
      s.attached.map (·.exchange) = t.attached.map (·.exchange) ∧
      s.servers.map (·.channel.outlet) = t.servers.map (·.channel.outlet) := by
  have hexchange (s : Session τ) :
      s.untraced.attached.map (·.exchange) = s.attached.map (·.exchange) := by
    simp [untraced, Function.comp_def]
  have houtlets (s : Session τ) :
      s.untraced.servers.map (·.channel.outlet) = s.servers.map (·.channel.outlet) := by
    rw [servers_untraced, List.map_map]
    rfl
  refine ⟨congrArg (·.world.clock) h, congrArg (·.world.events) h, congrArg (·.cache) h, ?_, ?_⟩
  · rw [← hexchange s, h, hexchange t]
  · rw [← houtlets s, h, houtlets t]

/-- Sessions are made alike, whether they are to log every message or not. -/
theorem alike_ofProject (settings : Settings τ) (project : Project) (world : World τ)
    (d d' : Bool) : (ofProject { settings with debug := d } project world).Alike
      (ofProject { settings with debug := d' } project world) := by
  unfold Alike
  rfl

variable [Timeline τ]

/-- What every turn of a run comes to, with the session after it. -/
def trail (s : Session τ) : List (Turn τ) → List (Except (Fault τ) Json × Session τ)
  | [] => []
  | turn :: turns => turn.take s :: (turn.take s).2.trail turns

/-- Two sessions in which each of the turns comes to the same and leads to alike sessions. -/
def SameTrail (turns : List (Turn τ)) (s t : Session τ) : Prop :=
  List.Forall₂ (fun x y => x.1 = y.1 ∧ x.2.Alike y.2) (s.trail turns) (t.trail turns)

end Session

theorem Server.breakInput_untraced (v : Server τ) (writing flushing : Option (Fault τ)) :
    v.untraced.breakInput writing flushing = (v.breakInput writing flushing).untraced := rfl

variable [Timeline τ]

/-- No turn sees whether messages are traced. -/
theorem Turn.take_alike (turn : Turn τ) {s t : Session τ} (h : s.Alike t) :
    (turn.take s).1 = (turn.take t).1 ∧ (turn.take s).2.Alike (turn.take t).2 := by
  cases turn with
  | call c => exact c.blind_perform s t h
  | pass time =>
    exact ⟨rfl, (Session.blind_modify (f := fun s =>
      { s with world := { s.world with clock := s.world.clock + time } }) (fun _ => rfl) s t h).2⟩
  | edit change =>
    exact ⟨rfl, (Session.blind_modify (f := fun s =>
      { s with world := { s.world with
        host := { s.world.host with files := change s.world.host.files } } })
      (fun _ => rfl) s t h).2⟩
  | act deeds =>
    exact ⟨rfl, (Session.blind_onServer (fun now v => v.performAll_untraced now deeds) id
      (fun _ => rfl) s t h).2⟩
  | breakInput fault =>
    exact ⟨rfl, (Session.blind_onServer (fun _ v => v.breakInput_untraced fault none) id
      (fun _ => rfl) s t h).2⟩

/-- Alike sessions come to the same and stay alike: by induction on the turns. -/
theorem Session.Alike.sameTrail {s t : Session τ} (h : s.Alike t) (turns : List (Turn τ)) :
    SameTrail turns s t := by
  induction turns generalizing s t with
  | nil => exact .nil
  | cons turn turns ih => exact .cons (turn.take_alike h) (ih (turn.take_alike h).2)

/-- **Tracing changes nothing but the log.**  Of two sessions with the same settings for the same
project, let one log every message and the other not.  Then whatever the turns are, each of them
comes to the same result or fails with the same fault, and leaves the two alike.  If the project is
looked for first, either neither session can be made, for the same reason, or the same holds. -/
theorem tracing_changes_log_only (settings : Settings τ) (world : World τ)
    (turns : List (Turn τ)) :
    (∀ project, Session.SameTrail turns
      (.ofProject { settings with debug := true } project world)
      (.ofProject { settings with debug := false } project world)) ∧
    ∀ patterns,
      (∃ fault, Session.ofSettings patterns { settings with debug := true } world = .error fault ∧
        Session.ofSettings patterns { settings with debug := false } world = .error fault) ∨
      ∃ s t, Session.ofSettings patterns { settings with debug := true } world = .ok s ∧
        Session.ofSettings patterns { settings with debug := false } world = .ok t ∧
        Session.SameTrail turns s t := by
  have hmade (project : Project) (world : World τ) : Session.SameTrail turns
      (.ofProject { settings with debug := true } project world)
      (.ofProject { settings with debug := false } project world) :=
    (Session.alike_ofProject settings project world true false).sameTrail turns
  refine ⟨fun project => hmade project world, fun patterns => ?_⟩
  simp only [Session.ofSettings]
  cases world.host.startPlace settings.startDir with
  | error fault => exact .inl ⟨fault, rfl, rfl⟩
  | ok place =>
    dsimp only
    cases locateProject world.host patterns place with
    | error fault => exact .inl ⟨_, rfl, rfl⟩
    | ok project => exact .inr ⟨_, _, rfl, rfl, hmade _ _⟩

end ClassOrder
