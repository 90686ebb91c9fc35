import ClassOrder.Proofs.Action.Triple
import ClassOrder.Session.Start

/-!
# What fails without an answer

An error of the server is something that the server has answered.  What a session does before there
is a server, making the workspace ready and looking for the server's command, fails with faults of
other kinds.

## Main definitions

* `Session.Unrefused` — an action that fails with no error of the server.

## Main results

* `unrefused_prepareWorkspace`, `unrefused_serverCommand` — what comes before a server is
  unrefused.
-/

namespace ClassOrder

open ClassOrder.Action (Triple)

variable {τ α β : Type}

theorem kind_system_ne_domain (refusal : SystemFault) :
    (Fault.system refusal : Fault τ).kind ≠ .domain := by
  cases refusal <;> simp [Fault.kind, SystemFault.kind]

theorem Host.startPlace_ne_domain {h : Host} {start : Option String} {fault : Fault τ}
    (hplace : h.startPlace start = .error fault) : fault.kind ≠ .domain := by
  unfold Host.startPlace at hplace
  split at hplace
  · cases hplace
  · cases hplace
  · split at hplace
    · cases hplace
      simp [Fault.kind]
    · split at hplace
      · split at hplace
        · cases hplace
          exact kind_system_ne_domain _
        · cases hplace
      · cases hplace
        simp [Fault.circularLinks, Fault.kind]

theorem serverSource_ne_domain {h : Host} {given : Option (List String)} {start : Option String}
    {fault : Fault τ} (hsource : serverSource h given start = .error fault) :
    fault.kind ≠ .domain := by
  unfold serverSource at hsource
  split at hsource
  · cases hsource
  · split at hsource
    · next heq =>
      cases hsource
      exact Host.startPlace_ne_domain heq
    · split at hsource
      · cases hsource
      · split at hsource
        · cases hsource
        · cases hsource
          simp [Fault.kind]

namespace Session

/-- Whatever the action fails with is no error of the server. -/
def Unrefused (a : Action (Session τ) τ α) : Prop :=
  Triple (fun _ => True) a (fun _ _ => True) (fun fault _ => fault.kind ≠ .domain)

namespace Unrefused

theorem of_apply {a : Action (Session τ) τ α}
    (h : ∀ s fault, (a.apply s).1 = .error fault → fault.kind ≠ .domain) : Unrefused a := by
  intro s _
  split
  · trivial
  · next fault t heq => exact h s fault (congrArg Prod.fst heq)

protected theorem pure (x : α) : Unrefused (pure x : Action (Session τ) τ α) :=
  Triple.pure fun _ _ => trivial

protected theorem modify (f : Session τ → Session τ) :
    Unrefused (modify f : Action (Session τ) τ Unit) := Triple.modify fun _ _ => trivial

protected theorem bind {a : Action (Session τ) τ α} {f : α → Action (Session τ) τ β}
    (ha : Unrefused a) (hf : ∀ x, Unrefused (f x)) : Unrefused (a >>= f) := Triple.bind ha hf

theorem get_bind {f : Session τ → Action (Session τ) τ β} (hf : ∀ s, Unrefused (f s)) :
    Unrefused (get >>= f) := Triple.get_bind fun s _ => (hf s).pre fun _ _ => trivial

theorem ite {c : Prop} [Decidable c] {a b : Action (Session τ) τ α} (ha : Unrefused a)
    (hb : Unrefused b) : Unrefused (if c then a else b) :=
  Triple.ite (fun _ => ha) (fun _ => hb)

end Unrefused

/-! ### Single steps -/

theorem unrefused_present (x : Option α) :
    Unrefused (present x : Action (Session τ) τ α) := by
  cases x with
  | some a => exact Unrefused.pure a
  | none => exact Triple.throw fun _ _ => by simp [lacking, Fault.kind]

theorem unrefused_withFiles (change : FileTree → Place → Except SystemFault FileTree) :
    Unrefused (withFiles change : Action (Session τ) τ Unit) := by
  refine .of_apply fun s fault h => ?_
  rw [withFiles, Action.apply_ofFun] at h
  dsimp only at h
  split at h
  · cases h
    exact kind_system_ne_domain _
  · cases h

theorem unrefused_readText (p : Path) :
    Unrefused (readText p : Action (Session τ) τ String) := by
  refine .of_apply fun s fault h => ?_
  rw [readText, Action.apply_ofFun] at h
  split at h
  · cases h
    exact kind_system_ne_domain _
  · split at h
    · cases h
    · cases h
      simp [Fault.kind]

theorem unrefused_configTime (p : Path) :
    Unrefused (configTime p : Action (Session τ) τ Int) := by
  refine .of_apply fun s fault h => ?_
  rw [configTime, Action.apply_ofFun] at h
  split at h
  · cases h
  · cases h
    simp [Fault.kind]
  · cases h
    exact kind_system_ne_domain _

theorem unrefused_log (text : String) : Unrefused (log text : Action (Session τ) τ Unit) :=
  Unrefused.modify _

/-! ### The workspace -/

theorem unrefused_createStaging : Unrefused (createStaging : Action (Session τ) τ Path) :=
  Unrefused.get_bind fun _ => Unrefused.bind (unrefused_withFiles _) fun _ =>
    Unrefused.bind (Unrefused.modify _) fun _ =>
      Unrefused.bind (unrefused_log _) fun _ => Unrefused.pure _

theorem unrefused_stageDirectory : Unrefused (stageDirectory : Action (Session τ) τ Path) := by
  refine Unrefused.get_bind fun s => ?_
  split
  · exact Unrefused.ite (Unrefused.pure _) unrefused_createStaging
  · exact unrefused_createStaging

theorem unrefused_stageDocument (p : Path) :
    Unrefused (stageDocument p : Action (Session τ) τ Unit) :=
  Unrefused.get_bind fun _ => Unrefused.ite (unrefused_withFiles _) (Unrefused.pure _)

theorem unrefused_copyProject (directory config : Path) (stylesheet : Option Path) (time : Int) :
    Unrefused (copyProject directory config stylesheet time : Action (Session τ) τ Unit) := by
  have hend : Unrefused (do
      let content ← readText config
      modify fun s => { s with snapshot := some ⟨config, time, content⟩ }
      dropResults : Action (Session τ) τ Unit) :=
    Unrefused.bind (unrefused_readText config) fun _ =>
      Unrefused.bind (Unrefused.modify _) fun _ => Unrefused.modify _
  refine Unrefused.bind (unrefused_log _) fun _ =>
    Unrefused.bind (unrefused_withFiles _) fun _ => ?_
  cases stylesheet with
  | none => exact hend
  | some sheet =>
    exact Unrefused.get_bind fun _ => Unrefused.ite
      (Unrefused.bind (unrefused_withFiles _) fun _ => hend) hend

theorem unrefused_stageProject (directory config : Path) (stylesheet : Option Path) :
    Unrefused (stageProject directory config stylesheet : Action (Session τ) τ Unit) :=
  Unrefused.bind (unrefused_configTime _) fun _ => Unrefused.get_bind fun _ =>
    Unrefused.ite
      (Unrefused.bind (unrefused_copyProject _ _ _ _) fun _ => Unrefused.modify _)
      (Unrefused.modify _)

theorem unrefused_stageStandard (directory : Path) :
    Unrefused (stageStandard directory : Action (Session τ) τ Unit) :=
  Unrefused.get_bind fun _ => Unrefused.ite
    (Unrefused.bind (unrefused_log _) fun _ => Unrefused.bind (unrefused_withFiles _) fun _ =>
      Unrefused.bind (unrefused_withFiles _) fun _ => Unrefused.modify _)
    (Unrefused.modify _)

theorem unrefused_prepareWorkspace :
    Unrefused (prepareWorkspace : Action (Session τ) τ Unit) := by
  refine Unrefused.bind unrefused_stageDirectory fun directory =>
    Unrefused.bind (unrefused_stageDocument directory) fun _ => Unrefused.get_bind fun s => ?_
  dsimp only
  split
  · exact unrefused_stageProject _ _ _
  · exact unrefused_stageStandard _

/-! ### The command of the server -/

theorem unrefused_serverCommand :
    Unrefused (serverCommand : Action (Session τ) τ (List String)) := by
  refine .of_apply fun s fault h => ?_
  rw [serverCommand, Action.apply_ofFun] at h
  split at h
  · next heq =>
    cases h
    exact serverSource_ne_domain heq
  · cases h

end Session

end ClassOrder
