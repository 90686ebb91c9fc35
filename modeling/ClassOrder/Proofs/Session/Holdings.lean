import ClassOrder.Proofs.Action.Triple
import ClassOrder.Session.Run

/-!
# What a session holds

A session holds a server with its exchange, the servers of before, those that it may launch and the
number of the last request.  Most of what it does has nothing to do with them: it makes the
workspace ready, reads settings, keeps results and logs.  Such actions are *quiet*, and whatever is
known of the holdings before one is known after it.

## Main definitions

* `Session.Holdings`, `Session.holdings` — the part of a session that is about servers.
* `Session.Quiet` — an action that leaves it alone.

## Main results

* `quiet_prepareWorkspace` — making the workspace ready is quiet.
* `Quiet.keeps` — a quiet action keeps what is known of the holdings.
-/

namespace ClassOrder.Session

open ClassOrder.Action (Keeps Triple)

variable {τ α β : Type}

/-- The part of a session that is about servers. -/
structure Holdings (τ : Type) where
  attached : Option (Attached τ)
  former : List (Server τ)
  lastId : Int
  launches : Nat → Except (Fault τ) (Conduct τ)

def holdings (s : Session τ) : Holdings τ := ⟨s.attached, s.former, s.lastId, s.world.launches⟩

/-- An action that leaves the holdings alone. -/
def Quiet (a : Action (Session τ) τ α) : Prop := ∀ h : Holdings τ, a.Keeps (·.holdings = h)

namespace Quiet

theorem apply {a : Action (Session τ) τ α} (h : Quiet a) (s : Session τ) :
    (a.apply s).2.holdings = s.holdings := (h s.holdings).apply rfl

/-- A quiet action keeps what is known of the holdings. -/
theorem keeps {a : Action (Session τ) τ α} (h : Quiet a) {I : Session τ → Prop}
    (hI : ∀ s t, t.holdings = s.holdings → I s → I t) : a.Keeps I :=
  Keeps.of_apply fun s hs => hI s _ (h.apply s) hs

theorem of_apply {a : Action (Session τ) τ α} (h : ∀ s, (a.apply s).2.holdings = s.holdings) :
    Quiet a := fun _ => Keeps.of_apply fun s hs => (h s).trans hs

protected theorem pure (x : α) : Quiet (pure x : Action (Session τ) τ α) := fun _ => Keeps.pure x

protected theorem throw (fault : Fault τ) : Quiet (throw fault : Action (Session τ) τ α) :=
  fun _ => Keeps.throw fault

protected theorem modify {f : Session τ → Session τ} (h : ∀ s, (f s).holdings = s.holdings) :
    Quiet (modify f : Action (Session τ) τ Unit) := of_apply h

protected theorem bind {a : Action (Session τ) τ α} {f : α → Action (Session τ) τ β}
    (ha : Quiet a) (hf : ∀ x, Quiet (f x)) : Quiet (a >>= f) :=
  fun h => (ha h).bind fun x => hf x h

theorem get_bind {f : Session τ → Action (Session τ) τ β} (hf : ∀ s, Quiet (f s)) :
    Quiet (get >>= f) := fun h => Keeps.get_bind fun s => hf s h

theorem ite {c : Prop} [Decidable c] {a b : Action (Session τ) τ α} (ha : Quiet a)
    (hb : Quiet b) : Quiet (if c then a else b) := fun h => (ha h).ite (hb h)

end Quiet

theorem quiet_log (text : String) : Quiet (log text : Action (Session τ) τ Unit) :=
  Quiet.modify fun _ => rfl

theorem quiet_uriOf (p : Path) : Quiet (uriOf p : Action (Session τ) τ String) := by
  unfold uriOf
  split
  · exact Quiet.pure _
  · exact Quiet.throw _

theorem quiet_present (x : Option α) : Quiet (present x : Action (Session τ) τ α) := by
  cases x with
  | some a => exact Quiet.pure a
  | none => exact Quiet.throw _

theorem quiet_serverCommand : Quiet (serverCommand : Action (Session τ) τ (List String)) := by
  refine Quiet.of_apply fun s => ?_
  rw [serverCommand, Action.apply_ofFun]
  split <;> rfl

/-! ### The workspace -/

theorem quiet_withFiles (change : FileTree → Place → Except SystemFault FileTree) :
    Quiet (withFiles change : Action (Session τ) τ Unit) := by
  refine Quiet.of_apply fun s => ?_
  rw [withFiles, Action.apply_ofFun]
  dsimp only
  split <;> rfl

theorem quiet_readText (p : Path) : Quiet (readText p : Action (Session τ) τ String) := by
  refine Quiet.of_apply fun s => ?_
  rw [readText, Action.apply_ofFun]
  split
  · rfl
  · split <;> rfl

theorem quiet_configTime (p : Path) : Quiet (configTime p : Action (Session τ) τ Int) := by
  refine Quiet.of_apply fun s => ?_
  rw [configTime, Action.apply_ofFun]
  split <;> rfl

theorem quiet_createStaging : Quiet (createStaging : Action (Session τ) τ Path) :=
  Quiet.get_bind fun _ => Quiet.bind (quiet_withFiles _) fun _ =>
    Quiet.bind (Quiet.modify fun _ => rfl) fun _ =>
      Quiet.bind (quiet_log _) fun _ => Quiet.pure _

theorem quiet_stageDirectory : Quiet (stageDirectory : Action (Session τ) τ Path) := by
  refine Quiet.get_bind fun s => ?_
  split
  · exact Quiet.ite (Quiet.pure _) quiet_createStaging
  · exact quiet_createStaging

theorem quiet_stageDocument (p : Path) : Quiet (stageDocument p : Action (Session τ) τ Unit) :=
  Quiet.get_bind fun _ => Quiet.ite (quiet_withFiles _) (Quiet.pure _)

theorem quiet_dropResults : Quiet (dropResults : Action (Session τ) τ Unit) :=
  Quiet.modify fun _ => rfl

theorem quiet_copyProject (directory config : Path) (stylesheet : Option Path) (time : Int) :
    Quiet (copyProject directory config stylesheet time : Action (Session τ) τ Unit) := by
  have hend : Quiet (do
      let content ← readText config
      modify fun s => { s with snapshot := some ⟨config, time, content⟩ }
      dropResults : Action (Session τ) τ Unit) :=
    Quiet.bind (quiet_readText config) fun _ =>
      Quiet.bind (Quiet.modify fun _ => rfl) fun _ => quiet_dropResults
  refine Quiet.bind (quiet_log _) fun _ => Quiet.bind (quiet_withFiles _) fun _ => ?_
  cases stylesheet with
  | none => exact hend
  | some sheet =>
    exact Quiet.get_bind fun _ => Quiet.ite (Quiet.bind (quiet_withFiles _) fun _ => hend) hend

theorem quiet_stageProject (directory config : Path) (stylesheet : Option Path) :
    Quiet (stageProject directory config stylesheet : Action (Session τ) τ Unit) :=
  Quiet.bind (quiet_configTime config) fun _ => Quiet.get_bind fun _ =>
    Quiet.ite (Quiet.bind (quiet_copyProject _ _ _ _) fun _ => Quiet.modify fun _ => rfl)
      (Quiet.modify fun _ => rfl)

theorem quiet_stageStandard (directory : Path) :
    Quiet (stageStandard directory : Action (Session τ) τ Unit) :=
  Quiet.get_bind fun _ =>
    Quiet.ite
      (Quiet.bind (quiet_log _) fun _ => Quiet.bind (quiet_withFiles _) fun _ =>
        Quiet.bind (quiet_withFiles _) fun _ => Quiet.modify fun _ => rfl)
      (Quiet.modify fun _ => rfl)

/-- Making the workspace ready is quiet. -/
theorem quiet_prepareWorkspace : Quiet (prepareWorkspace : Action (Session τ) τ Unit) := by
  refine Quiet.bind quiet_stageDirectory fun directory =>
    Quiet.bind (quiet_stageDocument directory) fun _ => Quiet.get_bind fun s => ?_
  dsimp only
  split
  · exact quiet_stageProject _ _ _
  · exact quiet_stageStandard _

theorem quiet_removeWorkspace : Quiet (removeWorkspace : Action (Session τ) τ Unit) := by
  refine Quiet.get_bind fun s => ?_
  split
  · exact Quiet.ite (quiet_withFiles _) (Quiet.pure _)
  · exact Quiet.pure _

theorem quiet_forgetWorkspace : Quiet (forgetWorkspace : Action (Session τ) τ Unit) :=
  Quiet.bind (Quiet.modify fun _ => rfl) fun _ => quiet_dropResults

/-! ### Results and versions -/

theorem quiet_noteVersion (answer : Json) :
    Quiet (noteVersion answer : Action (Session τ) τ Unit) := by
  refine Quiet.of_apply fun s => ?_
  rw [noteVersion, Action.apply_ofFun]
  split <;> rfl

theorem quiet_kept? [Timeline τ] (classes : String) :
    Quiet (kept? classes : Action (Session τ) τ (Option String)) := by
  refine Quiet.of_apply fun s => ?_
  rw [kept?, Action.apply_ofFun]
  dsimp only
  split <;> rfl

theorem quiet_keep (classes result : String) :
    Quiet (keep classes result : Action (Session τ) τ Unit) := Quiet.modify fun _ => rfl

end ClassOrder.Session
