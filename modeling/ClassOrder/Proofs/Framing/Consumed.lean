import ClassOrder.Proofs.Framing.Attempt

/-!
# What receiving consumes

Receiving a message takes just the message off a stream.  However the bytes come in and whatever is
in line behind them, those that are kept for the next time begin where the frame of the message
ends.

## Main definitions

* `Intake.Consumes` — a message was taken off a stream, and nothing after it.

## Main results

* `Intake.receive_consumes` — **a message that is received is consumed, and nothing after it.**
-/

namespace ClassOrder

variable {τ : Type}

/-- A message was taken off the stream, which led from the first intake to the second one: pieces
were read off the front of the line, with what was left of earlier ones they hold the message's
frame, and what is left now is what comes after it. -/
def Intake.Consumes (m : Message) (i j : Intake τ) : Prop :=
  ∃ gone body, i.inlet.pending = gone ++ j.inlet.pending ∧
    scan (i.buffer ++ gone.flatMap Piece.bytes) = .whole body j.buffer ∧ readBody body = .ok m

variable [Timeline τ]

theorem receiveFrom_message (m : Manner) (patience : Patience τ) (clock : τ) (buffer : Bytes)
    (pending : List (Piece τ)) {message : Message}
    (h : (receiveFrom m patience clock buffer pending).outcome = .ok message) :
    let r := receiveFrom m patience clock buffer pending
    ∃ gone body, pending = gone ++ r.pending ∧
      scan (buffer ++ gone.flatMap Piece.bytes) = .whole body r.buffer ∧
        readBody body = .ok message := by
  obtain ⟨gone, hpending, haccounts⟩ := receiveFrom_accounts m patience clock buffer pending
  unfold Receipt.Accounts at haccounts
  split at haccounts
  · next body rest hscan =>
    obtain ⟨houtcome, rfl⟩ := haccounts
    refine ⟨gone, body, hpending, hscan, ?_⟩
    rw [h] at houtcome
    cases hbody : readBody body with
    | error fault =>
      rw [hbody] at houtcome
      cases houtcome
    | ok m =>
      rw [hbody] at houtcome
      cases houtcome
      rfl
  · rw [h] at haccounts
    cases haccounts.1
  · obtain ⟨⟨fault, houtcome, -⟩, -⟩ := haccounts
    rw [h] at houtcome
    cases houtcome

/-- **A message that is received is consumed, and nothing after it.** -/
theorem Intake.receive_consumes {timeout clock clock' : τ} {i j : Intake τ} {m : Message}
    (h : i.receive timeout clock = (.ok m, j, clock')) : i.Consumes m j := by
  unfold Intake.receive at h
  split at h
  · obtain ⟨hmessage, hleft⟩ := Prod.mk.inj h
    obtain ⟨rfl, -⟩ := Prod.mk.inj hleft
    exact receiveFrom_message _ _ _ _ _ hmessage
  · cases h

end ClassOrder
