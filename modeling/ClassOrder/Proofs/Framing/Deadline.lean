import ClassOrder.Channel.Line
import ClassOrder.Proofs.Framing.Chunking

/-!
# The deadline of receiving

One read of a pipe has one deadline, however many pieces it takes and whatever stands in line: it
ends by then, and it reports that its time is over at that very moment and no other.

## Main definitions

* `Receipt.InTime` — an attempt kept to its deadline.
* `Line.IsPipe` — a line whose inlet is a pipe.

## Main results

* `receiveFrom_inTime`, `Line.receive_inTime` — **every attempt on a pipe keeps to its deadline.**
-/

namespace ClassOrder

/-- An attempt that began at `start` kept to its deadline: it ended by then, or at once if it began
too late, and it did not give up before. -/
structure Receipt.InTime (start deadline : ℚ) (r : Receipt ℚ) : Prop where
  start_le : start ≤ r.clock
  le_deadline : r.clock ≤ max start deadline
  of_gaveUp : gaveUp r.outcome = true → deadline ≤ r.clock

/-- No trouble with a pipe passes for the end of the time, not even one that the system reports as
such. -/
theorem gaveUp_trouble (fault : Fault ℚ) (whileWaiting : Bool) :
    gaveUp (.error (if true && whileWaiting then waitingFault fault else readingFault true fault) :
      Except (Fault ℚ) Message) = false := by
  cases whileWaiting with
  | true =>
    simp only [Bool.and_self, if_true, waitingFault]
    split
    · rfl
    · next h =>
      rw [gaveUp, decide_eq_false_iff_not]
      rintro hkind
      simp [hkind, FaultKind.isSystem] at h
  | false =>
    simp only [Bool.and_false, Bool.false_eq_true, if_false, readingFault, if_true]
    split
    · rfl
    · next h =>
      rw [gaveUp, decide_eq_false_iff_not]
      rintro hkind
      simp [hkind, FaultKind.isSystem] at h

section

variable {m : Manner} {patience : Patience ℚ} {clock : ℚ} {buffer kept : Bytes}
  {pending : List (Piece ℚ)} {r : Receipt ℚ}

/-- What settles the matter takes no time, and the time is over only if it is. -/
theorem Settlement.inTime (h : Settlement m patience clock buffer pending r) :
    r.InTime clock patience.deadline where
  start_le := h.clock_eq.ge
  le_deadline := h.clock_eq.le.trans (le_max_left _ _)
  of_gaveUp hgave := h.clock_eq ▸ sub_nonpos.mp (h.of_gaveUp hgave).2.1

/-- A piece that is waited for arrives by the deadline. -/
theorem Unsettled.arrival (htimed : m.timed = true)
    (h : Unsettled m patience clock buffer kept) {piece : Piece ℚ} {arrived : ℚ}
    (harrival : arrival? m patience clock piece = some arrived) :
    clock ≤ arrived ∧ arrived ≤ patience.deadline := by
  obtain ⟨htime, rfl⟩ := (arrival?_eq_some htimed).mp harrival
  have hbefore := h.inTime htimed
  rw [sub_nonpos, not_le] at hbefore
  exact ⟨le_max_left _ _, max_le hbefore.le htime⟩

/-- A read that reads nothing is given up at the deadline, or is over by then. -/
theorem Unfilled.inTime (htimed : m.timed = true) (hmore : Unsettled m patience clock buffer kept)
    (h : Unfilled m patience clock kept pending r) : r.InTime clock patience.deadline := by
  have hstop {piece : Piece ℚ} {arrived : ℚ}
      (harrival : arrival? m patience clock piece = some arrived)
      {outcome : Except (Fault ℚ) Message} (houtcome : gaveUp outcome = false)
      (left : List (Piece ℚ)) :
      Receipt.InTime clock patience.deadline ⟨outcome, left, kept, arrived⟩ := by
    obtain ⟨hclock, harrived⟩ := hmore.arrival htimed harrival
    exact ⟨hclock, le_max_of_le_right harrived, fun hgave => by rw [houtcome] at hgave; cases hgave⟩
  cases h with
  | late =>
    have hbefore := hmore.inTime htimed
    rw [sub_nonpos, not_le] at hbefore
    rw [add_sub_cancel]
    exact ⟨hbefore.le, le_max_right _ _, fun _ => le_rfl⟩
  | exhausted hplain => simp [htimed] at hplain
  | ended harrival | blank harrival => exact hstop harrival (gaveUp_endFault kept) _
  | trouble harrival =>
    rw [htimed]
    exact hstop harrival (gaveUp_trouble _ _) _

end

/-- **Every attempt on a pipe keeps to its deadline**: each piece that is waited for arrives by
then. -/
theorem receiveFrom_inTime {m : Manner} (htimed : m.timed = true) (patience : Patience ℚ)
    (clock : ℚ) (buffer : Bytes) (pending : List (Piece ℚ)) :
    (receiveFrom m patience clock buffer pending).InTime clock patience.deadline := by
  refine receiveFrom_induction (P := fun clock _ _ r => r.InTime clock patience.deadline) ?_ ?_ ?_
    clock buffer pending
  · exact fun hsettled => hsettled.inTime
  · exact fun hmore hunfilled => hunfilled.inTime htimed hmore
  · intro clock buffer kept piece arrived rest r hmore harrival _ hrest
    obtain ⟨hclock, harrived⟩ := hmore.arrival htimed harrival
    refine ⟨hclock.trans hrest.start_le, ?_, hrest.of_gaveUp⟩
    exact hrest.le_deadline.trans (max_le (le_max_of_le_right harrived) (le_max_right _ _))

/-- A line whose inlet is a pipe. -/
def Line.IsPipe (l : Line ℚ) : Prop := l.channel.intake.inlet.timed = true

/-- **Receiving keeps to its time**: it ends when the time is over at the latest, at once if no time
is given, and reports that the time is over no earlier. -/
theorem Line.receive_inTime {l : Line ℚ} (h : l.IsPipe) (time : ℚ) :
    let done := (Line.receive (some time)).apply l
    l.clock ≤ done.2.clock ∧ done.2.clock ≤ max l.clock (l.clock + time) ∧
      (gaveUp done.1 = true → l.clock + time ≤ done.2.clock) := by
  have hread := receiveFrom_inTime (m := ⟨true, l.channel.intake.inlet.closed⟩) rfl
    ⟨l.clock + time, time⟩ l.clock l.channel.intake.buffer l.channel.intake.inlet.pending
  rw [Line.IsPipe] at h
  simp only [Line.receive, Action.apply_ofFun, Channel.receive, Option.getD_some, Intake.receive,
    Timeline.fits_rat, if_true, h]
  exact ⟨hread.start_le, hread.le_deadline, hread.of_gaveUp⟩

end ClassOrder
