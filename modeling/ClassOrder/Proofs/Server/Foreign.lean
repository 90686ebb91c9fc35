import ClassOrder.Proofs.Channel.Sending
import ClassOrder.Proofs.Framing.Consumed
import ClassOrder.Server.Scripted
import ClassOrder.Session.Run

/-!
# Foreign faults

The session's own faults are made by the session.  Whatever else fails, a stream or a launch, fails
with a fault of another kind.  Such faults are *foreign*, and so is a server all of whose faults
are.  Talking to it fails because the connection is of no use, because the time is over, or with one
of those.

## Main definitions

* `Fault.OnWire` — a fault that talking to a server may meet.
* `Conduct.Foreign`, `Server.Foreign` — a server all of whose faults are foreign.

## Main results

* `Server.Foreign.performAll`, `Server.Foreign.send`, `Server.Foreign.receive` — such a server
  stays one.
* `Server.Foreign.fault_of_send`, `Server.Foreign.fault_of_receive` — **what talking to it fails
  with.**
-/

namespace ClassOrder

variable {τ : Type}

/-- The connection is of no use, or the time is over, or the fault is foreign. -/
def Fault.OnWire (fault : Fault τ) : Prop :=
  fault.kind.isProtocol = true ∨ fault.kind = .timeout ∨ fault.IsForeign

/-- A fault of the session's own that the wire may meet is not foreign. -/
theorem Fault.OnWire.isOwn {fault : Fault τ} (h : fault.OnWire) (hown : fault.kind.isOwn = true) :
    fault.kind.isProtocol = true ∨ fault.kind = .timeout := by
  rcases h with hlost | hover | hforeign
  · exact .inl hlost
  · exact .inr hover
  · rw [hforeign] at hown
    cases hown

/-! ### What a server does -/

/-- What the other end of a stream writes causes foreign faults at most. -/
def Chunk.Foreign : Chunk τ → Prop
  | trouble fault _ => fault.IsForeign
  | data _ | wait _ | close => True

def Deed.Foreign : Deed τ → Prop
  | write chunk => chunk.Foreign
  | exit _ => True
  | breakInput writing flushing =>
    (∀ fault ∈ writing, fault.IsForeign) ∧ ∀ fault ∈ flushing, fault.IsForeign

/-- Every fault that the server causes, however it is treated, is foreign. -/
structure Conduct.Foreign (c : Conduct τ) : Prop where
  opening : ∀ deed ∈ c.opening, deed.Foreign
  react : ∀ received, ∀ deed ∈ c.react received, deed.Foreign
  inputCloseFault : ∀ fault ∈ c.inputCloseFault, fault.IsForeign
  outputCloseFault : ∀ fault ∈ c.outputCloseFault, fault.IsForeign
  complaintsCloseFault : ∀ fault ∈ c.complaintsCloseFault, fault.IsForeign

/-- Every fault that the outlet fails with is foreign. -/
structure Outlet.Foreign (o : Outlet τ) : Prop where
  writeFault : ∀ fault ∈ o.writeFault, fault.IsForeign
  flushFault : ∀ fault ∈ o.flushFault, fault.IsForeign
  closeFault : ∀ fault ∈ o.closeFault, fault.IsForeign

/-- Every fault that the server causes from now on is foreign. -/
structure Server.Foreign (v : Server τ) : Prop where
  conduct : v.conduct.Foreign
  pending : ∀ piece ∈ v.channel.intake.inlet.pending, piece.kind.Foreign
  outlet : v.channel.outlet.Foreign

theorem Outlet.Foreign.write {o : Outlet τ} (h : o.Foreign) (bytes : Bytes) :
    (o.write bytes).2.Foreign := by
  obtain ⟨hwrite, hflush⟩ := o.faults_write bytes
  have hclose := o.closeFault_write bytes
  exact ⟨hwrite ▸ h.writeFault, hflush ▸ h.flushFault, hclose ▸ h.closeFault⟩

namespace Server.Foreign

variable [Timeline τ] {v : Server τ}

theorem feed (h : v.Foreign) (now : τ) {chunk : Chunk τ} (hchunk : chunk.Foreign) :
    (v.feed now chunk).Foreign where
  conduct := h.conduct
  outlet := h.outlet
  pending := by
    have hqueue (kinds : List (PieceKind τ)) (hkinds : ∀ kind ∈ kinds, kind.Foreign) :
        ∀ piece ∈ (v.channel.intake.inlet.enqueue now kinds).pending, piece.kind.Foreign := by
      intro piece hpiece
      rcases List.mem_append.mp hpiece with hbefore | hnew
      · exact h.pending piece hbefore
      · obtain ⟨kind, hkind, rfl⟩ := List.mem_map.mp hnew
        exact hkinds kind hkind
    cases chunk with
    | data bytes =>
      simp only [Server.feed, Inlet.feedChunk]
      split
      · exact h.pending
      · refine hqueue _ fun kind hkind => ?_
        obtain ⟨part, -, rfl⟩ := List.mem_map.mp hkind
        trivial
    | wait time => exact h.pending
    | close => exact hqueue _ fun kind hkind => by cases List.mem_singleton.mp hkind; trivial
    | trouble fault whileWaiting =>
      exact hqueue _ fun kind hkind => by cases List.mem_singleton.mp hkind; exact hchunk

theorem finish (h : v.Foreign) (now : τ) (code : Int) : (v.finish now code).Foreign := by
  have hclosed : (v.feed now .close).Foreign := h.feed now trivial
  unfold Server.finish
  split
  · refine ⟨hclosed.conduct, hclosed.pending, ⟨fun fault hfault => ?_, hclosed.outlet.flushFault,
      hclosed.outlet.closeFault⟩⟩
    -- the input breaks, unless it was broken before
    rcases Option.or_eq_some_iff.mp hfault with hbefore | ⟨-, hbroken⟩
    · exact hclosed.outlet.writeFault fault hbefore
    · cases hbroken
      rfl
  · exact h

omit [Timeline τ] in
theorem breakInput (h : v.Foreign) {writing flushing : Option (Fault τ)}
    (hwriting : ∀ fault ∈ writing, fault.IsForeign)
    (hflushing : ∀ fault ∈ flushing, fault.IsForeign) :
    (v.breakInput writing flushing).Foreign :=
  ⟨h.conduct, h.pending, hwriting, hflushing, h.outlet.closeFault⟩

theorem perform (h : v.Foreign) (now : τ) {deed : Deed τ} (hdeed : deed.Foreign) :
    (v.perform now deed).Foreign := by
  cases deed with
  | write chunk =>
    simp only [Server.perform]
    split
    · have hfed := h.feed now hdeed
      exact ⟨hfed.conduct, hfed.pending, hfed.outlet⟩
    · exact h
  | exit code => exact h.finish now code
  | breakInput writing flushing =>
    simp only [Server.perform]
    split
    · exact h.breakInput hdeed.1 hdeed.2
    · exact h

theorem performAll (h : v.Foreign) (now : τ) {deeds : List (Deed τ)}
    (hdeeds : ∀ deed ∈ deeds, deed.Foreign) : (v.performAll now deeds).Foreign := by
  induction deeds generalizing v with
  | nil => exact h
  | cons deed deeds ih =>
    obtain ⟨hdeed, hdeeds⟩ := List.forall_mem_cons.mp hdeeds
    exact ih (h.perform now hdeed) hdeeds

theorem launch {c : Conduct τ} (hc : c.Foreign) (now readTimeout : τ) (traced : Bool)
    (credit : Nat) : (Server.launch now readTimeout traced credit c).Foreign := by
  refine performAll ?_ now hc.opening
  exact ⟨hc, fun _ h => (by cases h), fun _ h => (by cases h), fun _ h => (by cases h),
    hc.inputCloseFault⟩

/-! ### Ending it -/

theorem elapse (h : v.Foreign) (now time : τ) : (v.elapse now time).Foreign := by
  unfold Server.elapse
  split
  · exact h.finish _ _
  · exact h

theorem nudge (h : v.Foreign) (now : τ) (n : Nudge) : (v.nudge now n).Foreign :=
  elapse (v := { v with nudges := v.nudges ++ [n] }) ⟨h.conduct, h.pending, h.outlet⟩ now 0

theorem closeInput (h : v.Foreign) (now : τ) : (v.closeInput now).2.Foreign := by
  have hclosed : Foreign
      { v with channel := { v.channel with outlet := v.channel.outlet.close.2 } } :=
    ⟨h.conduct, h.pending, h.outlet.writeFault, h.outlet.flushFault, h.outlet.closeFault⟩
  unfold Server.closeInput
  dsimp only
  split
  · exact hclosed
  · exact hclosed.nudge now .inputEnded

omit [Timeline τ] in
theorem closeOutput (h : v.Foreign) : v.closeOutput.2.Foreign := ⟨h.conduct, h.pending, h.outlet⟩

omit [Timeline τ] in
theorem closeComplaints (h : v.Foreign) : v.closeComplaints.2.Foreign :=
  ⟨h.conduct, h.pending, h.outlet⟩

/-! ### Talking to it -/

theorem send (h : v.Foreign) (now : τ) (m : Message) : (v.send now m).2.Foreign := by
  have hwritten := h.outlet.write m.frame
  unfold Server.send Channel.send
  generalize v.channel.outlet.write m.frame = written at hwritten
  obtain ⟨fault | ⟨⟩, outlet⟩ := written
  · exact ⟨h.conduct, h.pending, hwritten⟩
  · -- the message has passed, and the server reacts to it
    have hpassed : Foreign { v with
        channel := { v.channel with outlet }
        transcript := v.transcript ++ [Passage.sent m] } := ⟨h.conduct, h.pending, hwritten⟩
    exact hpassed.performAll now (h.conduct.react _)

theorem fault_of_send (h : v.Foreign) {now : τ} {m : Message} {fault : Fault τ}
    (herror : (v.send now m).1 = .error fault) :
    fault.kind.isProtocol = true ∨ fault.IsForeign := by
  have hfault : (v.channel.send m).1 = .error fault := by
    unfold Server.send at herror
    split at herror
    · next heq => rw [heq, herror]
    · cases herror
  rcases Channel.send_eq_error hfault with hlost | hwrite | hflush
  · exact .inl (by rw [hlost]; rfl)
  · exact .inr (h.outlet.writeFault fault hwrite)
  · exact .inr (h.outlet.flushFault fault hflush)

end Server.Foreign

/-! ### Reading what it says -/

section

variable {m : Manner} {patience : Patience τ} {clock : τ} {buffer : Bytes}
  {pending : List (Piece τ)} {fault : Fault τ}

variable [Timeline τ]

/-- Reading takes pieces off the front of the line. -/
theorem receiveFrom_pending_suffix (m : Manner) (patience : Patience τ) (clock : τ)
    (buffer : Bytes) (pending : List (Piece τ)) :
    (receiveFrom m patience clock buffer pending).pending <:+ pending := by
  obtain ⟨gone, hpending, -⟩ := receiveFrom_accounts m patience clock buffer pending
  exact ⟨gone, hpending.symm⟩

/-- Whatever comes between, the wire may meet it. -/
theorem Interrupts.onWire {m : Manner} {timeout : τ} {gone : List (Piece τ)} {kept : Bytes}
    (h : Interrupts m timeout gone kept fault) (hgone : ∀ piece ∈ gone, piece.kind.Foreign) :
    fault.OnWire := by
  rcases h.kinds hgone with rfl | hlost | hover | hforeign
  · exact .inl rfl
  · exact .inl (by rw [hlost]; rfl)
  · exact .inr (.inl hover)
  · exact .inr (.inr hforeign)

/-- What reading fails with, if the line holds foreign trouble at most. -/
theorem receiveFrom_onWire (hpending : ∀ piece ∈ pending, piece.kind.Foreign)
    (hfault : (receiveFrom m patience clock buffer pending).outcome = .error fault) :
    fault.OnWire := by
  obtain ⟨gone, hline, haccounts⟩ := receiveFrom_accounts m patience clock buffer pending
  unfold Receipt.Accounts at haccounts
  rw [hfault] at haccounts
  split at haccounts
  · rcases fault_of_body haccounts.1.symm with ⟨cause, -, rfl⟩ | rfl
    · exact .inl rfl
    · exact .inr (.inr rfl)
  · cases haccounts.1
    exact .inl rfl
  · obtain ⟨⟨cause, heq, hcause⟩, -⟩ := haccounts
    cases heq
    exact hcause.onWire fun piece hpiece => hpending piece (hline ▸ List.mem_append_left _ hpiece)

end

namespace Server.Foreign

variable [Timeline τ] {v : Server τ}

theorem receive (h : v.Foreign) (timeout clock : τ) : (v.receive timeout clock).2.1.Foreign where
  conduct := h.conduct
  outlet := h.outlet
  pending := by
    simp only [Server.receive, Channel.receive, Intake.receive]
    split
    · exact fun piece hpiece => h.pending piece ((receiveFrom_pending_suffix ..).subset hpiece)
    · exact h.pending

theorem fault_of_receive (h : v.Foreign) {timeout clock : τ} {fault : Fault τ}
    (herror : (v.receive timeout clock).1 = .error fault) : fault.OnWire := by
  simp only [Server.receive, Channel.receive, Intake.receive] at herror
  split at herror
  · exact receiveFrom_onWire h.pending herror
  · cases herror
    exact .inr (.inr rfl)

end Server.Foreign

/-! ### Servers that follow rules -/

/-- Whatever a server does by itself under its rules causes foreign faults at most. -/
def ScriptedDeed.Foreign : ScriptedDeed τ → Prop
  | plain deed => deed.Foreign
  | answer _ | refuse _ | say _ => True

theorem ScriptedDeed.Foreign.deed {d : ScriptedDeed τ} (h : d.Foreign) (id : Json) :
    (d.deed id).Foreign := by
  cases d with
  | answer result => trivial
  | refuse error => trivial
  | say payload => trivial
  | plain deed => exact h

/-- Every fault that a server causes by following the rules is foreign. -/
structure Rules.Foreign (r : Rules τ) : Prop where
  opening : ∀ d ∈ r.opening, d.Foreign
  batches : ∀ entry ∈ r.batches, ∀ batch ∈ entry.2, ∀ d ∈ batch, d.Foreign
  closeFault : ∀ fault ∈ r.closeFault, fault.IsForeign

theorem Rules.Foreign.batch {r : Rules τ} (h : r.Foreign) (key : String) (n : Nat) :
    ∀ d ∈ r.batch key n, d.Foreign := by
  intro d hd
  rw [Rules.batch, List.getD_eq_getElem?_getD] at hd
  cases hbatches : Assoc.get? key r.batches with
  | none =>
    rw [hbatches] at hd
    cases hd
  | some batches =>
    rw [hbatches, Option.getD_some] at hd
    cases hbatch : batches[min n (batches.length - 1)]? with
    | none =>
      rw [hbatch] at hd
      cases hd
    | some batch =>
      rw [hbatch] at hd
      exact h.batches _ (Assoc.mem_of_get? hbatches) batch (List.mem_of_getElem? hbatch) d hd

theorem Rules.Foreign.conduct {r : Rules τ} (h : r.Foreign) : r.conduct.Foreign where
  opening deed hdeed := by
    obtain ⟨d, hd, rfl⟩ := List.mem_map.mp hdeed
    exact (h.opening d hd).deed _
  react received deed hdeed := by
    simp only [Rules.conduct, Rules.react] at hdeed
    split at hdeed
    · cases hdeed
    · rcases List.mem_append.mp hdeed with hbatch | hexit
      · obtain ⟨d, hd, rfl⟩ := List.mem_map.mp hbatch
        exact (h.batch _ _ d hd).deed _
      · split at hexit
        · cases List.mem_singleton.mp hexit
          trivial
        · cases hexit
  inputCloseFault := h.closeFault
  outputCloseFault _ hfault := by cases hfault
  complaintsCloseFault _ hfault := by cases hfault

end ClassOrder
