import ClassOrder.Proofs.Session.Start

/-!
# What a session starts from

A session starts servers from its settings, the project, the machine and the workspace as it was
last made ready, and it keeps results.  Dealing with a server has nothing to do with that: a server
is launched, talked to and taken down with the premises left as they are.  Such actions are
*outward*.  They are the counterpart of the quiet ones, which leave servers alone.

## Main definitions

* `Session.Premises`, `Session.premises` — the part of a session that is not about servers.
* `Session.Outward` — an action that leaves it alone.

## Main results

* `outward_teardown`, `outward_launch`, `outward_handshake`, `outward_stop` — dealing with a server
  is outward.
-/

namespace ClassOrder.Session

open ClassOrder.Action (Keeps Leaves Triple)

variable {τ α β : Type}

/-- The part of a session that is not about servers. -/
structure Premises (τ : Type) where
  settings : Settings τ
  project : Project
  host : Host
  temporary : Path
  cache : Cache τ
  staging : Option Path
  snapshot : Option Snapshot
  activeConfig : Option Path
  activeStylesheet : Option Path

def premises (s : Session τ) : Premises τ where
  settings := s.settings
  project := s.project
  host := s.world.host
  temporary := s.world.temporary
  cache := s.cache
  staging := s.staging
  snapshot := s.snapshot
  activeConfig := s.activeConfig
  activeStylesheet := s.activeStylesheet

/-- An action that leaves the premises alone. -/
def Outward (a : Action (Session τ) τ α) : Prop := a.Leaves premises

namespace Outward

variable {a : Action (Session τ) τ α} {s t : Session τ}

theorem apply (h : Outward a) (s : Session τ) : (a.apply s).2.premises = s.premises :=
  Leaves.apply h s

theorem cache (h : Outward a) (s : Session τ) : (a.apply s).2.cache = s.cache :=
  congrArg Premises.cache (h.apply s)

end Outward

theorem outward_log (text : String) : Outward (log text : Action (Session τ) τ Unit) :=
  Leaves.modify fun _ => rfl

theorem outward_uriOf (p : Path) : Outward (uriOf p : Action (Session τ) τ String) := by
  unfold uriOf
  split
  · exact Leaves.pure _
  · exact Leaves.throw _

theorem outward_present (x : Option α) : Outward (present x : Action (Session τ) τ α) := by
  cases x with
  | some a => exact Leaves.pure a
  | none => exact Leaves.throw _

theorem outward_readText (p : Path) : Outward (readText p : Action (Session τ) τ String) := by
  refine Leaves.of_apply fun s => ?_
  rw [readText, Action.apply_ofFun]
  split
  · rfl
  · split <;> rfl

theorem outward_configTime (p : Path) : Outward (configTime p : Action (Session τ) τ Int) := by
  refine Leaves.of_apply fun s => ?_
  rw [configTime, Action.apply_ofFun]
  split <;> rfl

theorem outward_serverCommand : Outward (serverCommand : Action (Session τ) τ (List String)) := by
  refine Leaves.of_apply fun s => ?_
  rw [serverCommand, Action.apply_ofFun]
  split <;> rfl

theorem outward_noteVersion (answer : Json) :
    Outward (noteVersion answer : Action (Session τ) τ Unit) := by
  refine Leaves.of_apply fun s => ?_
  rw [noteVersion, Action.apply_ofFun]
  split <;> rfl

/-! ### Talking -/

theorem outward_onWire (talk : Exchange τ → Wire τ → Except (Fault τ) α × Exchange τ × Wire τ) :
    Outward (onWire talk : Action (Session τ) τ α) := by
  refine Leaves.of_apply fun s => ?_
  cases ha : s.attached with
  | none => rw [onWire_of_attached_none talk ha]
  | some a => simp [onWire, ha, premises]

variable [Timeline τ]

theorem outward_request (method : String) (params : Json) :
    Outward (request method params : Action (Session τ) τ Json) := outward_onWire _

theorem outward_notify (method : String) (params : Json) :
    Outward (notify method params : Action (Session τ) τ Unit) := outward_onWire _

theorem outward_drain (timeout : τ) : Outward (drain timeout : Action (Session τ) τ Nat) :=
  outward_onWire _

/-! ### Taking a server down -/

/-- Taking a server down is outward. -/
theorem outward_teardown (graceful : Bool) :
    Outward (teardown graceful : Action (Session τ) τ Unit) := by
  intro p
  have hbears : Bears (τ := τ) (fun _ _ => True) (·.premises = p) :=
    ⟨fun _ h => h, fun _ h => h, fun _ h => h⟩
  exact hbears.keeps_teardown Server.undergoes_any (fun _ h => h) (fun _ _ => trivial)
    (fun _ h => h) graceful

theorem outward_abandon : Outward (abandon : Action (Session τ) τ Unit) := outward_teardown false

theorem outward_orAbandon {gives : FaultKind → Bool} {a : Action (Session τ) τ α}
    (ha : Outward a) : Outward (orAbandon gives a) :=
  Leaves.tryCatch ha fun _ =>
    Leaves.ite (Leaves.bind outward_abandon fun _ => Leaves.throw _) (Leaves.throw _)

theorem outward_stop : Outward (stop : Action (Session τ) τ Unit) := by
  have hfarewell : Outward (farewell : Action (Session τ) τ Unit) :=
    Leaves.get_bind fun _ => Leaves.bind (outward_notify _ _) fun _ => outward_notify _ _
  have hgone : Outward (farewellOrGone : Action (Session τ) τ Unit) :=
    Leaves.tryCatch hfarewell fun _ => Leaves.ite (outward_log _) (Leaves.throw _)
  refine Leaves.get_bind fun _ => Leaves.ite ?_ (Leaves.pure _)
  exact Leaves.bind (outward_log _) fun _ => Leaves.andThen hgone (outward_teardown true)

/-! ### Launching a server and talking to it first -/

theorem outward_launch : Outward (launch : Action (Session τ) τ Unit) := by
  refine Leaves.bind outward_serverCommand fun _ => Leaves.bind (outward_log _) fun _ =>
    Leaves.get_bind fun _ => Leaves.bind (outward_present _) fun _ => Leaves.of_apply fun s => ?_
  rw [launchWith, Action.apply_ofFun]
  dsimp only
  split <;> rfl

theorem outward_openDocument (p : Path) :
    Outward (openDocument p : Action (Session τ) τ Unit) :=
  Leaves.bind (outward_uriOf p) fun _ => Leaves.bind (outward_readText p) fun _ =>
    outward_notify _ _

theorem outward_openDocuments : Outward (openDocuments : Action (Session τ) τ Unit) := by
  have hlast (s : Session τ) :
      Outward (do openDocument (← present s.document?) : Action (Session τ) τ Unit) :=
    Leaves.bind (outward_present _) fun _ => outward_openDocument _
  refine Leaves.get_bind fun s => Leaves.bind (outward_present _) fun _ =>
    Leaves.bind (outward_openDocument _) fun _ => ?_
  split
  · exact Leaves.bind (outward_openDocument _) fun _ => hlast s
  · exact hlast s

theorem outward_openConversation : Outward (openConversation : Action (Session τ) τ Unit) :=
  Leaves.get_bind fun _ => Leaves.bind (outward_present _) fun _ =>
    Leaves.bind (outward_uriOf _) fun _ => Leaves.bind (outward_request _ _) fun _ =>
      Leaves.bind (outward_noteVersion _) fun _ => Leaves.bind (outward_notify _ _) fun _ =>
        Leaves.bind (outward_notify _ _) fun _ => Leaves.bind outward_openDocuments fun _ =>
          Leaves.bind (Leaves.modify fun _ => rfl) fun _ => Leaves.bind (outward_drain _) fun _ =>
            outward_log _

theorem outward_handshake : Outward (handshake : Action (Session τ) τ Unit) :=
  Leaves.tryCatch outward_openConversation fun _ =>
    Leaves.ite (Leaves.bind outward_abandon fun _ => Leaves.throw _) (Leaves.throw _)

/-! ### Asking a server -/

theorem outward_call (method : String) (params : Json) :
    Outward (call method params : Action (Session τ) τ Json) :=
  outward_orAbandon (outward_request method params)

theorem outward_changeDocument (classes : String) :
    Outward (changeDocument classes : Action (Session τ) τ Unit) :=
  Leaves.bind (Leaves.modify fun _ => rfl) fun _ => Leaves.get_bind fun _ =>
    outward_orAbandon (outward_notify _ _)

end ClassOrder.Session
