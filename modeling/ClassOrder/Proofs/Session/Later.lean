import ClassOrder.Proofs.Exchange.Waiting
import ClassOrder.Proofs.Session.Teardown

/-!
# What a session goes on with

A session only ever gets a server by launching one.  Everything else that it does goes on with the
server that it has, or lets go of it once it has ended.

## Main definitions

* `Session.FormerEnded` — every server of before has ended.
* `Session.Later` — one session as a later state of another, with no launch in between.

## Main results

* `request_later`, `notify_later`, `drain_later`, `teardown_later`, `stop_later`, `cleanup_later`
  — the operations other than a launch go on with what there is.
-/

namespace ClassOrder

open ClassOrder.Action (Keeps Triple)

variable {τ α : Type}

namespace Session

/-- Every server of before has ended. -/
def FormerEnded (s : Session τ) : Prop := ∀ v ∈ s.former, v.isAlive = false

/-- The second session has a later state of the server of the first, or none, and the servers that
it let go of have ended. -/
structure Later (s t : Session τ) : Prop where
  attached : ∀ b, t.attached = some b → ∃ a, s.attached = some a ∧ a.server.Onward b.server
  former : s.FormerEnded → t.FormerEnded

variable {s t u : Session τ}

namespace Later

theorem refl (s : Session τ) : Later s s := ⟨fun b hb => ⟨b, hb, .refl _⟩, id⟩

theorem trans (h : Later s t) (h' : Later t u) : Later s u := by
  refine ⟨fun c hc => ?_, h'.former ∘ h.former⟩
  obtain ⟨b, hb, hbc⟩ := h'.attached c hc
  obtain ⟨a, ha, hab⟩ := h.attached b hb
  exact ⟨a, ha, hab.trans hbc⟩

theorem of_holdings (h : u.holdings = t.holdings) (hst : Later s t) : Later s u := by
  have hattached : u.attached = t.attached := congrArg Holdings.attached h
  have hformer : u.former = t.former := congrArg Holdings.former h
  exact ⟨fun b hb => hst.attached b (hattached ▸ hb), fun hs v hv => hst.former hs v (hformer ▸ hv)⟩

/-- No operation brings a server back. -/
theorem isRunning (h : Later s t) (ht : t.isRunning = true) : s.isRunning = true := by
  cases hb : t.attached with
  | none => rw [isRunning_of_attached_none hb] at ht; cases ht
  | some b =>
    obtain ⟨a, ha, honward⟩ := h.attached b hb
    simp only [Session.isRunning, hb, Bool.and_eq_true] at ht
    simp only [Session.isRunning, ha, Bool.and_eq_true]
    exact ⟨honward.isConnected ht.1, honward.isAlive ht.2⟩

theorem onServer (hst : Later s t) {change : τ → Server τ → Server τ}
    (hchange : ∀ now w, Server.Onward w (change now w)) : Later s (t.onServer change) := by
  refine hst.trans ⟨fun b hb => ?_, id⟩
  simp only [Session.onServer, Option.map_eq_some_iff] at hb
  obtain ⟨a, ha, rfl⟩ := hb
  exact ⟨a, ha, hchange _ _⟩

theorem keeps_of_apply {a : Action (Session τ) τ α} (h : ∀ t, Later t (a.apply t).2)
    (s : Session τ) : a.Keeps (Later s) :=
  Keeps.of_apply fun t hst => hst.trans (h t)

end Later

theorem Quiet.later {a : Action (Session τ) τ α} (h : Quiet a) (s : Session τ) :
    a.Keeps (Later s) :=
  h.keeps fun _ _ hholdings hst => hst.of_holdings hholdings

/-! ### Talking to the server -/

/-- What talking does to the server that there is. -/
theorem onWire_apply
    (talk : Exchange τ → Wire τ → Except (Fault τ) α × Exchange τ × Wire τ) {a : Attached τ}
    (ha : s.attached = some a) :
    let talked := talk a.exchange ⟨a.server, s.world.clock, s.world.log⟩
    ((onWire talk).apply s).1 = talked.1 ∧
      ((onWire talk).apply s).2.attached = some ⟨talked.2.2.server, talked.2.1⟩ ∧
      ((onWire talk).apply s).2.former = s.former := by
  simp [onWire, ha]

theorem onWire_of_attached_none
    (talk : Exchange τ → Wire τ → Except (Fault τ) α × Exchange τ × Wire τ)
    (ha : s.attached = none) : (onWire talk).apply s = (.error lacking, s) := by
  simp [onWire, ha]

theorem onWire_later {talk : Exchange τ → Wire τ → Except (Fault τ) α × Exchange τ × Wire τ}
    (htalk : ∀ x (w : Wire τ), w.server.Onward (talk x w).2.2.server) (s : Session τ) :
    (onWire talk : Action (Session τ) τ α).Keeps (Later s) := by
  refine Later.keeps_of_apply (fun t => ?_) s
  cases ha : t.attached with
  | none =>
    rw [onWire_of_attached_none talk ha]
    exact .refl t
  | some a =>
    obtain ⟨-, hattached, hformer⟩ := onWire_apply talk ha
    -- the servers of before are not talked to
    refine ⟨fun b hb => ⟨a, ha, ?_⟩, fun hended v hv => hended v (hformer ▸ hv)⟩
    rw [hattached, Option.some_inj] at hb
    rw [← hb]
    exact htalk a.exchange ⟨a.server, t.world.clock, t.world.log⟩

end Session

variable [Timeline τ]

/-- Whatever an exchange does over a wire leads the server onward. -/
theorem Wire.serves_onward (v : Server τ) :
    (Wire.link : Link (Wire τ) τ).Serves fun w => v.Onward w.server where
  note _ _ h := h
  reply _ _ := Keeps.of_apply fun _ h => h.trans (Server.onward_send _ _ _)
  receive _ := Keeps.of_apply fun _ h => h.trans (Server.onward_receive _ _ _)

theorem Wire.send_onward (v : Server τ) (m : Message) :
    (Wire.send m : Action (Wire τ) τ Unit).Keeps fun w => v.Onward w.server :=
  Keeps.of_apply fun _ h => h.trans (Server.onward_send _ _ _)

namespace Session

variable {s t : Session τ}

/-- Waiting for a response leads the server onward, whatever comes of it. -/
theorem request_onward (method : String) (params : Json) (x : Exchange τ) (w : Wire τ) :
    w.server.Onward (x.request Wire.link method params none w).2.2.server :=
  x.request_keeps (Wire.serves_onward w.server) (fun _ => Wire.send_onward w.server _) none
    (Server.Onward.refl w.server)

theorem request_later (method : String) (params : Json) (s : Session τ) :
    (request method params : Action (Session τ) τ Json).Keeps (Later s) :=
  onWire_later (request_onward method params) s

theorem notify_later (method : String) (params : Json) (s : Session τ) :
    (notify method params : Action (Session τ) τ Unit).Keeps (Later s) :=
  onWire_later (fun _ w => (Wire.send_onward w.server _).apply (Server.Onward.refl w.server)) s

theorem drain_later (timeout : τ) (s : Session τ) :
    (drain timeout : Action (Session τ) τ Nat).Keeps (Later s) :=
  onWire_later
    (fun x w => x.drain_keeps (Wire.serves_onward w.server) timeout (Server.Onward.refl w.server)) s

/-! ### Letting go of the server -/

omit [Timeline τ] in
theorem Gone.later {v : Server τ} {former : List (Server τ)} (h : Gone v former t)
    (hformer : s.former = former) : Later s t := by
  obtain ⟨hnone, w, -, hended, heq⟩ := h
  refine ⟨fun b hb => (by rw [hnone] at hb; cases hb), fun hs x hx => ?_⟩
  rw [heq, List.mem_append, List.mem_singleton] at hx
  rcases hx with hx | rfl
  · exact hs x (hformer ▸ hx)
  · exact hended

omit [Timeline τ] in
theorem Cut.later {a : Attached τ} (h : Cut a.server s.former t) (ha : s.attached = some a) :
    Later s t := by
  obtain ⟨b, hb, honward, -⟩ := h.attached
  refine ⟨fun c hc => ⟨a, ha, ?_⟩, fun hs v hv => hs v (h.former_eq ▸ hv)⟩
  rw [hb, Option.some_inj] at hc
  exact hc ▸ honward

theorem teardown_later (graceful : Bool) (s : Session τ) :
    (teardown graceful : Action (Session τ) τ Unit).Keeps (Later s) := by
  refine Later.keeps_of_apply (fun t => ?_) s
  cases ha : t.attached with
  | none =>
    rw [teardown_of_attached_none graceful ha]
    exact .refl t
  | some a =>
    have hrun := teardown_triple a t.former graceful t ⟨ha, rfl⟩
    split at hrun
    · next heq =>
      rw [heq]
      exact hrun.later rfl
    · next heq =>
      rw [heq]
      exact hrun.1.later ha

theorem stop_later (s : Session τ) : (stop : Action (Session τ) τ Unit).Keeps (Later s) := by
  have hfarewell : (farewell : Action (Session τ) τ Unit).Keeps (Later s) :=
    Keeps.get_bind fun _ => Keeps.bind (notify_later _ _ s) fun _ => notify_later _ _ s
  have hgone : (farewellOrGone : Action (Session τ) τ Unit).Keeps (Later s) :=
    Keeps.tryCatch hfarewell fun _ => Keeps.ite ((quiet_log _).later s) (Keeps.throw _)
  refine Keeps.get_bind fun _ => Keeps.ite ?_ (Keeps.pure _)
  exact Keeps.bind ((quiet_log _).later s) fun _ => Keeps.andThen hgone (teardown_later true s)

theorem cleanup_later (s : Session τ) : (cleanup : Action (Session τ) τ Unit).Keeps (Later s) :=
  Keeps.bind (stop_later s) fun _ => Keeps.bind (teardown_later false s) fun _ =>
    Keeps.bind (quiet_removeWorkspace.later s) fun _ => quiet_forgetWorkspace.later s

theorem orAbandon_later {gives : FaultKind → Bool} {a : Action (Session τ) τ α}
    (ha : a.Keeps (Later s)) : (orAbandon gives a).Keeps (Later s) :=
  Keeps.tryCatch ha fun _ =>
    Keeps.ite (Keeps.bind (teardown_later false s) fun _ => Keeps.throw _) (Keeps.throw _)

end Session

end ClassOrder
