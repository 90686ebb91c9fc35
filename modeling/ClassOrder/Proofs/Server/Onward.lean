import ClassOrder.Server.Basic

/-!
# What a server never takes back

Whatever is done to a server or done by it, the messages that have passed stay passed, a server
that has ended stays ended, and a closed stream stays closed.

## Main definitions

* `Server.Onward` — one server as a later state of another.

## Main results

* `onward_performAll`, `onward_send`, `onward_receive`, `onward_nudge`, `onward_elapse`,
  `onward_kill`, `onward_closeInput`, `onward_closeOutput`, `onward_closeComplaints` — every
  operation leads onward.
-/

namespace ClassOrder.Server

variable {τ : Type}

/-- The second server is a later state of the first. -/
structure Onward (v w : Server τ) : Prop where
  transcript : v.transcript <+: w.transcript
  isAlive : w.isAlive = true → v.isAlive = true
  isConnected : w.isConnected = true → v.isConnected = true

namespace Onward

theorem refl (v : Server τ) : Onward v v := ⟨List.prefix_refl _, id, id⟩

theorem trans {u v w : Server τ} (h : Onward u v) (h' : Onward v w) : Onward u w :=
  ⟨h.transcript.trans h'.transcript, h.isAlive ∘ h'.isAlive, h.isConnected ∘ h'.isConnected⟩

end Onward

/-! ### What a server does by itself -/

variable [Timeline τ]

@[simp] theorem closed_feedChunk (now : τ) (i : Inlet τ) (chunk : Chunk τ) :
    (i.feedChunk now chunk).closed = i.closed := by
  cases chunk with
  | data bytes =>
    simp only [Inlet.feedChunk]
    split <;> rfl
  | wait time => rfl
  | close => rfl
  | trouble fault whileWaiting => rfl

@[simp] theorem isConnected_feed (now : τ) (chunk : Chunk τ) (v : Server τ) :
    (v.feed now chunk).isConnected = v.isConnected := by
  simp [isConnected, feed]

@[simp] theorem transcript_finish (now : τ) (code : Int) (v : Server τ) :
    (v.finish now code).transcript = v.transcript := by
  unfold finish
  split <;> rfl

@[simp] theorem isConnected_finish (now : τ) (code : Int) (v : Server τ) :
    (v.finish now code).isConnected = v.isConnected := by
  unfold finish
  split
  · exact isConnected_feed now .close v
  · rfl

@[simp] theorem transcript_perform (now : τ) (v : Server τ) (deed : Deed τ) :
    (v.perform now deed).transcript = v.transcript := by
  cases deed with
  | write chunk =>
    simp only [perform]
    split <;> rfl
  | exit code => exact transcript_finish now code v
  | breakInput writing flushing =>
    simp only [perform]
    split <;> rfl

@[simp] theorem isConnected_perform (now : τ) (v : Server τ) (deed : Deed τ) :
    (v.perform now deed).isConnected = v.isConnected := by
  cases deed with
  | write chunk =>
    simp only [perform]
    split
    · exact isConnected_feed now chunk v
    · rfl
  | exit code => exact isConnected_finish now code v
  | breakInput writing flushing =>
    simp only [perform]
    split <;> rfl

theorem isAlive_of_isAlive_perform {now : τ} {v : Server τ} {deed : Deed τ}
    (h : (v.perform now deed).isAlive = true) : v.isAlive = true := by
  cases deed with
  | write chunk =>
    simp only [perform] at h
    split at h <;> exact h
  | exit code => simp [perform] at h
  | breakInput writing flushing =>
    simp only [perform] at h
    split at h <;> exact h

@[simp] theorem transcript_performAll (now : τ) (deeds : List (Deed τ)) (v : Server τ) :
    (v.performAll now deeds).transcript = v.transcript := by
  induction deeds generalizing v with
  | nil => rfl
  | cons deed deeds ih => rw [performAll_cons, ih, transcript_perform]

@[simp] theorem isConnected_performAll (now : τ) (deeds : List (Deed τ)) (v : Server τ) :
    (v.performAll now deeds).isConnected = v.isConnected := by
  induction deeds generalizing v with
  | nil => rfl
  | cons deed deeds ih => rw [performAll_cons, ih, isConnected_perform]

theorem isAlive_of_isAlive_performAll {now : τ} {deeds : List (Deed τ)} {v : Server τ}
    (h : (v.performAll now deeds).isAlive = true) : v.isAlive = true := by
  induction deeds generalizing v with
  | nil => exact h
  | cons deed deeds ih => exact isAlive_of_isAlive_perform (ih h)

theorem onward_performAll (now : τ) (deeds : List (Deed τ)) (v : Server τ) :
    Onward v (v.performAll now deeds) where
  transcript := by simp
  isAlive := isAlive_of_isAlive_performAll
  isConnected := by simp

theorem onward_finish (now : τ) (code : Int) (v : Server τ) : Onward v (v.finish now code) where
  transcript := by simp
  isAlive := by simp
  isConnected := by simp

/-! ### Messages -/

omit [Timeline τ] in
@[simp] theorem closed_write (bytes : Bytes) (o : Outlet τ) :
    (o.write bytes).2.closed = o.closed := by
  unfold Outlet.write
  split
  · rfl
  · split
    · rfl
    · dsimp only
      split <;> rfl

/-- What sending does: nothing passes and writing fails, or the message passes and the server
reacts. -/
theorem send_cases (now : τ) (m : Message) (v : Server τ) :
    ∃ outlet : Outlet τ, outlet.closed = v.channel.outlet.closed ∧
      ((∃ fault, v.send now m = (.error fault, { v with channel := { v.channel with outlet } })) ∨
        ∃ deeds, v.send now m = (.ok (), performAll now deeds
          { v with
            channel := { v.channel with outlet }
            transcript := v.transcript ++ [Passage.sent m] })) := by
  refine ⟨(v.channel.outlet.write m.frame).2, closed_write _ _, ?_⟩
  cases hwrite : (v.channel.outlet.write m.frame).1 with
  | error fault =>
    left
    refine ⟨sendFault fault, ?_⟩
    rw [send, Channel.send, ← Prod.eta (v.channel.outlet.write m.frame), hwrite]
    rfl
  | ok _ =>
    right
    refine ⟨v.conduct.react (v.received ++ [m]), ?_⟩
    have hreceived : (v.transcript ++ [Passage.sent m]).filterMap Passage.sent? =
        v.received ++ [m] := by simp [received, Passage.sent?]
    rw [send, Channel.send, ← Prod.eta (v.channel.outlet.write m.frame), hwrite, ← hreceived]
    rfl

theorem transcript_send (now : τ) (m : Message) (v : Server τ) :
    (v.send now m).2.transcript =
      v.transcript ++ (match (v.send now m).1 with
        | .ok () => [Passage.sent m]
        | .error _ => []) := by
  obtain ⟨outlet, -, ⟨fault, h⟩ | ⟨deeds, h⟩⟩ := send_cases now m v <;> simp [h]

@[simp] theorem isConnected_send (now : τ) (m : Message) (v : Server τ) :
    (v.send now m).2.isConnected = v.isConnected := by
  obtain ⟨outlet, hclosed, ⟨fault, h⟩ | ⟨deeds, h⟩⟩ := send_cases now m v
  · simp [h, isConnected, hclosed]
  · rw [h, isConnected_performAll]
    simp [isConnected, hclosed]

theorem onward_send (now : τ) (m : Message) (v : Server τ) : Onward v (v.send now m).2 where
  transcript := by rw [transcript_send]; exact List.prefix_append _ _
  isAlive := by
    obtain ⟨outlet, -, ⟨fault, h⟩ | ⟨deeds, h⟩⟩ := send_cases now m v
    · rw [h]
      exact id
    · rw [h]
      exact isAlive_of_isAlive_performAll
  isConnected := by simp

theorem transcript_receive (timeout clock : τ) (v : Server τ) :
    (v.receive timeout clock).2.1.transcript =
      v.transcript ++ (match (v.receive timeout clock).1 with
        | .ok m => [Passage.read m]
        | .error _ => []) := rfl

@[simp] theorem isAlive_receive (timeout clock : τ) (v : Server τ) :
    (v.receive timeout clock).2.1.isAlive = v.isAlive := rfl

@[simp] theorem closed_intake_receive (timeout clock : τ) (i : Intake τ) :
    (i.receive timeout clock).2.1.inlet.closed = i.inlet.closed := by
  unfold Intake.receive
  split <;> rfl

@[simp] theorem isConnected_receive (timeout clock : τ) (v : Server τ) :
    (v.receive timeout clock).2.1.isConnected = v.isConnected := by
  simp [isConnected, receive, Channel.receive]

theorem onward_receive (timeout clock : τ) (v : Server τ) :
    Onward v (v.receive timeout clock).2.1 where
  transcript := by rw [transcript_receive]; exact List.prefix_append _ _
  isAlive := by simp
  isConnected := by simp

/-! ### The end -/

@[simp] theorem transcript_elapse (now time : τ) (v : Server τ) :
    (v.elapse now time).transcript = v.transcript := by
  unfold elapse
  split
  · exact transcript_finish _ _ _
  · rfl

theorem onward_elapse (now time : τ) (v : Server τ) : Onward v (v.elapse now time) := by
  unfold elapse
  split
  · exact onward_finish _ _ _
  · exact .refl v

@[simp] theorem transcript_nudge (now : τ) (n : Nudge) (v : Server τ) :
    (v.nudge now n).transcript = v.transcript :=
  transcript_elapse now 0 { v with nudges := v.nudges ++ [n] }

theorem onward_nudge (now : τ) (n : Nudge) (v : Server τ) : Onward v (v.nudge now n) :=
  have h := onward_elapse now 0 { v with nudges := v.nudges ++ [n] }
  ⟨h.transcript, h.isAlive, h.isConnected⟩

theorem onward_kill (now : τ) (v : Server τ) : Onward v (v.kill now) := onward_finish now (-9) v

omit [Timeline τ] in
theorem onward_closeOutput (v : Server τ) : Onward v v.closeOutput.2 where
  transcript := List.prefix_refl _
  isAlive := id
  isConnected := by simp [isConnected, closeOutput, Intake.close]

omit [Timeline τ] in
theorem onward_closeComplaints (v : Server τ) : Onward v v.closeComplaints.2 where
  transcript := List.prefix_refl _
  isAlive := id
  isConnected := by simp [isConnected, closeComplaints]

theorem onward_closeInput (now : τ) (v : Server τ) : Onward v (v.closeInput now).2 := by
  have hclosed : Onward v
      { v with channel := { v.channel with outlet := v.channel.outlet.close.2 } } :=
    ⟨List.prefix_refl _, id, by simp [isConnected]⟩
  unfold closeInput
  dsimp only
  split
  · exact hclosed
  · exact hclosed.trans (onward_nudge now .inputEnded _)

@[simp] theorem transcript_closeInput (now : τ) (v : Server τ) :
    (v.closeInput now).2.transcript = v.transcript := by
  unfold closeInput
  dsimp only
  split
  · rfl
  · exact transcript_nudge _ _ _

theorem closeFault_finish (now : τ) (code : Int) (v : Server τ) :
    (v.finish now code).channel.outlet.closeFault = v.channel.outlet.closeFault := by
  unfold finish
  split <;> rfl

theorem closeFault_closeInput (now : τ) (v : Server τ) :
    (v.closeInput now).2.channel.outlet.closeFault = v.channel.outlet.closeFault := by
  unfold closeInput
  dsimp only
  split
  · rfl
  · unfold nudge elapse
    split
    · exact closeFault_finish _ _ _
    · rfl

/-- A server whose input has been closed is not to be talked to. -/
theorem isConnected_closeInput (now : τ) (v : Server τ) :
    (v.closeInput now).2.isConnected = false := by
  unfold closeInput
  dsimp only
  split
  · simp [isConnected]
  · -- the nudge that follows opens no stream
    let closed : Server τ :=
      { v with channel := { v.channel with outlet := v.channel.outlet.close.2 } }
    cases h : (closed.nudge now .inputEnded).isConnected with
    | false => rfl
    | true =>
      have hbefore := (onward_nudge now .inputEnded closed).isConnected h
      simp [closed, isConnected] at hbefore

end ClassOrder.Server
