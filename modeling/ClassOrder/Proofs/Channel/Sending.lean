import ClassOrder.Channel.Basic

/-!
# What sending fails with

An outlet fails because it is closed or because of one of its own faults, and a channel takes the
first, and some of the others, for a lost connection.

## Main results

* `Outlet.faults_write`, `Outlet.closeFault_write` — writing leaves alone what writing and closing
  fail with.
* `Channel.send_eq_error` — what sending a message fails with.
-/

namespace ClassOrder

variable {τ : Type}

/-- Writing leaves alone what writing and flushing fail with. -/
theorem Outlet.faults_write (bytes : Bytes) (o : Outlet τ) :
    (o.write bytes).2.writeFault = o.writeFault ∧ (o.write bytes).2.flushFault = o.flushFault := by
  unfold write
  split
  · exact ⟨rfl, rfl⟩
  · split
    · exact ⟨rfl, rfl⟩
    · dsimp only
      split <;> exact ⟨rfl, rfl⟩

/-- Writing leaves alone what closing fails with. -/
theorem Outlet.closeFault_write (bytes : Bytes) (o : Outlet τ) :
    (o.write bytes).2.closeFault = o.closeFault := by
  unfold write
  split
  · rfl
  · split
    · rfl
    · dsimp only
      split <;> rfl

/-- Writing to an open outlet fails with the first of its faults. -/
theorem Outlet.write_of_open {o : Outlet τ} (h : o.closed = false) (bytes : Bytes) :
    (o.write bytes).1 = closing (o.writeFault.or o.flushFault) := by
  rw [write, h]
  cases o.writeFault with
  | some fault => rfl
  | none => cases o.flushFault <;> rfl

/-- An outlet that fails is closed or has a fault of its own. -/
theorem Outlet.write_eq_error {bytes : Bytes} {o : Outlet τ} {fault : Fault τ}
    (h : (o.write bytes).1 = .error fault) :
    fault = closedOutlet ∨ o.writeFault = some fault ∨ o.flushFault = some fault := by
  cases hclosed : o.closed with
  | true =>
    rw [write_of_closed hclosed] at h
    exact .inl (Except.error.inj h).symm
  | false =>
    rw [write_of_open hclosed] at h
    cases hwrite : o.writeFault with
    | some cause =>
      rw [hwrite] at h
      exact .inr (.inl (congrArg some (Except.error.inj h)))
    | none =>
      cases hflush : o.flushFault with
      | some cause =>
        rw [hwrite, hflush] at h
        exact .inr (.inr (congrArg some (Except.error.inj h)))
      | none =>
        rw [hwrite, hflush] at h
        cases h

/-- A fault of writing means that the connection is lost, or it stays what it is. -/
theorem sendFault_cases (fault : Fault τ) :
    (sendFault fault).kind = .connectionLost ∨ sendFault fault = fault := by
  unfold sendFault
  split
  · exact .inl rfl
  · split
    · exact .inl rfl
    · exact .inr rfl

/-- **What sending a message fails with**: a lost connection, or a fault that the outlet has. -/
theorem Channel.send_eq_error {m : Message} {c : Channel τ} {fault : Fault τ}
    (h : (c.send m).1 = .error fault) :
    fault.kind = .connectionLost ∨ c.outlet.writeFault = some fault ∨
      c.outlet.flushFault = some fault := by
  rw [send] at h
  rcases hwrite : (c.outlet.write m.frame).1 with cause | ⟨⟩
  · have hfault : sendFault cause = fault := by
      dsimp only at h
      rw [hwrite] at h
      exact Except.error.inj h
    rcases sendFault_cases cause with hlost | hsame
    · exact .inl (hfault ▸ hlost)
    · rw [hsame] at hfault
      subst hfault
      rcases Outlet.write_eq_error hwrite with rfl | howned
      · -- a closed outlet is a lost connection after all
        exact .inl (hsame ▸ rfl)
      · exact .inr howned
  · dsimp only at h
    rw [hwrite] at h
    cases h

end ClassOrder
