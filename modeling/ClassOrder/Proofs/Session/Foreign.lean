import ClassOrder.Proofs.Exchange.Answered
import ClassOrder.Proofs.Server.Foreign
import ClassOrder.Proofs.Session.Lasting

/-!
# Sessions with foreign servers

If whatever the world around a session fails with is foreign, then whatever faults of the session's
own it ever fails with have been made by itself.  A session in such a world stays one, and taking
its server down fails with a foreign fault, if it fails.

## Main definitions

* `World.Foreign`, `Turn.Foreign` — the faults of a world and of what happens in it are foreign.
* `Session.Foreign` — the same of a session's world and its server.

## Main results

* `teardown_foreign` — what taking a server down fails with.
* `enduring_foreign`, `Session.Foreign.run` — **a session in a foreign world stays one.**
-/

namespace ClassOrder

open ClassOrder.Action (Keeps Triple)

variable {τ α : Type}

/-- A launch fails with a foreign fault, or leads to a server that causes foreign faults. -/
def World.Foreign (w : World τ) : Prop :=
  ∀ k, match w.launches k with
    | .ok conduct => conduct.Foreign
    | .error fault => fault.IsForeign

/-- What happens by itself in a turn causes foreign faults at most. -/
def Turn.Foreign : Turn τ → Prop
  | act deeds => ∀ deed ∈ deeds, deed.Foreign
  | breakInput fault => ∀ f ∈ fault, f.IsForeign
  | call _ | pass _ | edit _ => True

/-- Whatever the surroundings of a session fail with is foreign. -/
structure Session.Foreign (s : Session τ) : Prop where
  world : s.world.Foreign
  attached : ∀ a, s.attached = some a → a.server.Foreign

theorem World.Foreign.congr {v w : World τ} (h : v.Foreign) (hlaunches : w.launches = v.launches) :
    w.Foreign := by
  rw [World.Foreign, hlaunches]
  exact h

namespace Session

variable {s t : Session τ}

theorem Foreign.of_attached_none (h : s.world.Foreign) (hnone : s.attached = none) : s.Foreign :=
  ⟨h, fun a ha => by rw [hnone] at ha; cases ha⟩

theorem Foreign.of_holdings (h : s.Foreign) (hholdings : t.holdings = s.holdings) : t.Foreign where
  world := h.world.congr (congrArg Holdings.launches hholdings)
  attached a ha := h.attached a ((congrArg Holdings.attached hholdings).symm.trans ha)

theorem Foreign.onServer (h : s.Foreign) {change : τ → Server τ → Server τ}
    (hchange : ∀ now v, v.Foreign → (change now v).Foreign) : (s.onServer change).Foreign where
  world := h.world
  attached b hb := by
    obtain ⟨a, ha, rfl⟩ := Option.map_eq_some_iff.mp hb
    exact hchange _ _ (h.attached a ha)

theorem bears_foreign : Bears (τ := τ) (fun v w => v.Foreign → w.Foreign) Foreign where
  note _ h := ⟨h.world, h.attached⟩
  happen _ h := ⟨h.world, h.attached⟩
  onServer hchange h := h.onServer hchange

/-! ### Taking a server down -/

theorem closeStream_foreign {close : τ → Server τ → Except (Fault τ) Unit × Server τ}
    {e : ServerEvent τ} (hclose : ∀ now v, v.Foreign → (close now v).2.Foreign)
    (hfault : ∀ now v fault, v.Foreign → (close now v).1 = .error fault → fault.IsForeign) :
    Triple Foreign (closeStream close e : Action (Session τ) τ Unit)
      (fun _ => Foreign) (fun fault s => s.Foreign ∧ fault.IsForeign) := by
  intro s hs
  have hafter : ((closeStream close e).apply s).2.Foreign :=
    (bears_foreign.closeStream hclose).apply hs
  split
  · next heq => rwa [heq] at hafter
  · next fault t heq =>
    rw [heq] at hafter
    refine ⟨hafter, ?_⟩
    cases ha : s.attached with
    | none => simp [closeStream, ha] at heq
    | some a =>
      obtain ⟨-, -, herror⟩ := closeStream_apply close e ha
      exact hfault _ _ fault (hs.attached a ha) (herror fault (by rw [heq])).1

theorem isForeign_of_closing {fault : Option (Fault τ)} (h : ∀ f ∈ fault, f.IsForeign)
    {f : Fault τ} (hf : closing fault = .error f) : f.IsForeign := by
  cases fault with
  | none => cases hf
  | some f' =>
    cases hf
    exact h _ rfl

theorem closeOutputs_foreign :
    Triple Foreign (closeOutputs : Action (Session τ) τ Unit)
      (fun _ => Foreign) (fun fault s => s.Foreign ∧ fault.IsForeign) :=
  Triple.bind
    (closeStream_foreign (fun _ _ hv => hv.closeOutput) fun _ _ _ hv hf =>
      isForeign_of_closing hv.conduct.outputCloseFault hf)
    fun _ => closeStream_foreign (fun _ _ hv => hv.closeComplaints) fun _ _ _ hv hf =>
      isForeign_of_closing hv.conduct.complaintsCloseFault hf

variable [Timeline τ]

theorem closeInput_foreign :
    Triple Foreign (closeInput : Action (Session τ) τ Unit)
      (fun _ => Foreign) (fun fault s => s.Foreign ∧ fault.IsForeign) :=
  closeStream_foreign (fun now _ hv => hv.closeInput now) fun _ _ _ hv hf =>
    isForeign_of_closing hv.outlet.closeFault hf

theorem undergoes_foreign : Server.Undergoes (τ := τ) fun v w => v.Foreign → w.Foreign where
  elapse now time _ hv := hv.elapse now time
  nudge now _ hv := hv.nudge now .terminated
  kill now _ hv := hv.finish now (-9)
  closeOutput _ hv := hv.closeOutput
  closeComplaints _ hv := hv.closeComplaints

/-- **What taking a server down fails with**: a fault of closing one of its streams. -/
theorem teardown_foreign (graceful : Bool) :
    Triple Foreign (teardown graceful : Action (Session τ) τ Unit)
      (fun _ => Foreign) (fun fault s => s.Foreign ∧ fault.IsForeign) :=
  bears_foreign.teardown undergoes_foreign (fun _ hs _ => ⟨hs.world, hs.attached⟩)
    closeInput_foreign
    (Triple.bind closeOutputs_foreign fun _ =>
      Triple.modify fun _ hs => .of_attached_none hs.world rfl)
    (fun _ hs _ => hs) graceful

end Session

/-! ### Talking -/

variable [Timeline τ]

/-- What sending to a foreign server and receiving from it fail with. -/
theorem Wire.failsBy_foreign :
    (Wire.link : Link (Wire τ) τ).FailsBy (fun w => w.server.Foreign) Fault.OnWire where
  note _ _ h := h
  send m := by
    intro w hw
    have hafter := hw.send w.clock m
    dsimp only [Wire.link]
    rw [Wire.send, Action.apply_ofFun]
    rcases hsent : w.server.send w.clock m with ⟨fault | ⟨⟩, v⟩
    · rw [hsent] at hafter
      refine ⟨hafter, ?_⟩
      rcases hw.fault_of_send (congrArg Prod.fst hsent) with hlost | hforeign
      · exact .inl hlost
      · exact .inr (.inr hforeign)
    · rw [hsent] at hafter
      exact hafter
  receive timeout := by
    intro w hw
    have hafter := hw.receive timeout w.clock
    dsimp only [Wire.link]
    rw [Wire.receive, Action.apply_ofFun]
    rcases hread : w.server.receive timeout w.clock with ⟨fault | m, v, clock⟩
    · rw [hread] at hafter
      exact ⟨hafter, hw.fault_of_receive (congrArg Prod.fst hread)⟩
    · rw [hread] at hafter
      exact hafter

/-- What is read over a wire is consumed. -/
theorem Wire.of_reads {m : Message} {u w : Wire τ} (h : Wire.link.Reads m u w) :
    w.server.transcript = u.server.transcript ++ [.read m] ∧
      u.server.channel.intake.Consumes m w.server.channel.intake := by
  obtain ⟨timeout, hread⟩ := h
  dsimp only [Wire.link] at hread
  rw [Wire.receive, Action.apply_ofFun] at hread
  simp only [Server.receive, Channel.receive, Option.getD_some] at hread
  rcases hreceive : u.server.channel.intake.receive timeout u.clock with ⟨r, intake, clock⟩
  rw [hreceive] at hread
  cases hread
  exact ⟨rfl, Intake.receive_consumes hreceive⟩

/-- While a server is talked to, it goes on and fails with what the wire may meet. -/
theorem Wire.failsBy_talking (v : Server τ) :
    (Wire.link : Link (Wire τ) τ).FailsBy (fun w => w.server.Foreign ∧ v.Onward w.server)
      Fault.OnWire where
  note _ _ h := h
  send m := (Triple.and (Wire.failsBy_foreign.send m) (Wire.send_onward v m)).post
    (fun _ _ h => h) fun _ _ h => ⟨⟨h.1.1, h.2⟩, h.1.2⟩
  receive timeout :=
    (Triple.and (Wire.failsBy_foreign.receive timeout)
      ((Wire.serves_onward v).receive timeout)).post (fun _ _ h => h)
        fun _ _ h => ⟨⟨h.1.1, h.2⟩, h.1.2⟩

namespace Session

variable {s t : Session τ}

omit [Timeline τ] in
theorem onWire_foreign {talk : Exchange τ → Wire τ → Except (Fault τ) α × Exchange τ × Wire τ}
    (htalk : ∀ x (w : Wire τ), w.server.Foreign → (talk x w).2.2.server.Foreign) :
    (onWire talk : Action (Session τ) τ α).Keeps Foreign := by
  refine Keeps.of_apply fun s hs => ?_
  cases ha : s.attached with
  | none => rwa [onWire_of_attached_none talk ha]
  | some a =>
    obtain ⟨-, hattached, -⟩ := onWire_apply talk ha
    refine ⟨?_, fun b hb => ?_⟩
    · rw [onWire, Action.apply_ofFun]
      simp only [ha]
      exact hs.world
    · rw [hattached, Option.some_inj] at hb
      rw [← hb]
      exact htalk _ _ (hs.attached a ha)

/-- **A session in a foreign world stays one.** -/
theorem enduring_foreign : Enduring (τ := τ) Foreign where
  quiet _ _ hholdings hs := hs.of_holdings hholdings
  request method params := onWire_foreign fun x _ hw =>
    x.request_keeps Wire.failsBy_foreign.serves (fun _ => Wire.failsBy_foreign.send_keeps _) none hw
  notify _ _ := onWire_foreign fun _ w hw => hw.send w.clock _
  drain timeout := onWire_foreign fun x _ hw =>
    x.drain_keeps Wire.failsBy_foreign.serves timeout hw
  teardown graceful := (teardown_foreign graceful).post (fun _ _ hs => hs) fun _ _ hs => hs.1
  attach s k c _ hlaunch hs := by
    refine ⟨hs.world, fun a ha => ?_⟩
    have hc := hs.world k
    rw [hlaunch] at hc
    cases ha
    exact Server.Foreign.launch hc _ _ _ _

/-- So it does over a turn in which only foreign faults happen to it. -/
theorem Foreign.take (h : s.Foreign) {turn : Turn τ} (hturn : turn.Foreign) :
    (turn.take s).2.Foreign := by
  cases turn with
  | call c => exact (enduring_foreign.perform c).apply h
  | pass time => exact h.of_holdings rfl
  | edit change => exact h.of_holdings rfl
  | act deeds => exact h.onServer fun now _ hv => hv.performAll now hturn
  | breakInput fault => exact h.onServer fun _ _ hv => hv.breakInput hturn fun _ h => by cases h

theorem Foreign.run (h : s.Foreign) {turns : List (Turn τ)}
    (hturns : ∀ turn ∈ turns, turn.Foreign) : (s.run turns).Foreign := by
  induction turns generalizing s with
  | nil => exact h
  | cons turn turns ih =>
    obtain ⟨hturn, hturns⟩ := List.forall_mem_cons.mp hturns
    exact ih (h.take hturn) hturns

omit [Timeline τ] in
theorem Foreign.ofProject {world : World τ} (h : world.Foreign) (settings : Settings τ)
    (project : Project) : (ofProject settings project world).Foreign :=
  .of_attached_none h rfl

end Session

end ClassOrder
