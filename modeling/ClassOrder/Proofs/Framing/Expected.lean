import ClassOrder.Proofs.Framing.Consumed
import ClassOrder.Proofs.Framing.Series
import ClassOrder.Proofs.Json.Overlong
import ClassOrder.Proofs.Text.Utf8

/-!
# What receiving fails with

Whoever receives expects a message, or to be told that a header block is wrong, that a body is no
message, that the connection is lost or that the time is over.  As long as nothing but bytes and
the end of the stream stands in line, there are two things more that receiving may come to: a body
with a number of too many digits is refused by a fault of another kind, and so is a wait that is too
long for the system.

## Main definitions

* `FaultKind.isExpected`, `Expected` — what receiving is expected to come to.
* `Overlong` — a body that is refused for the length of a number.
* `Inlet.Untroubled` — no fault stands in line.
* `Intake.Takes` — a frame was taken off a stream.
* `Intake.Overwaits` — an attempt ended with a wait that is too long for the system.

## Main results

* `readBody_ok_or_decode_iff` — a body gives something else exactly if it is overlong.
* `receiveFrom_tells` — an attempt comes to what the bytes that it read say.
* `receiveFrom_overwaits` — an attempt is refused exactly if a wait is too long.
* `receive_expected_iff` — **an attempt comes to something else exactly if it takes an overlong
  body off the stream or would wait too long.**
-/

namespace ClassOrder

/-- The kinds of fault that whoever receives expects. -/
def FaultKind.isExpected : FaultKind → Bool
  | framing | decode | connectionLost | timeout => true
  | _ => false

/-- What receiving is expected to come to: a message, or a fault of an expected kind. -/
def Expected {τ : Type} : Except (Fault τ) Message → Prop
  | .ok _ => True
  | .error fault => fault.kind.isExpected = true

/-- A body that is refused for the length of a number: a text in which the reader of JSON meets a
whole number with more digits than a written integer may have. -/
def Overlong (body : Bytes) : Prop :=
  ∃ text, Text.ofUtf8? body = some text ∧ Json.read text.toList = .error .integerTooLong

/-- No fault stands in line: nothing but bytes and the end of the stream. -/
def Inlet.Untroubled {τ : Type} (i : Inlet τ) : Prop :=
  ∀ piece ∈ i.pending, ∀ fault whileWaiting, piece.kind ≠ .trouble fault whileWaiting

variable {τ : Type}

/-- A frame with the body `body` was taken off the stream, which led from the first intake to the
second one: pieces were read off the front of the line, with what was left of earlier ones they
hold the frame, and what is left now is what comes after it. -/
def Intake.Takes (body : Bytes) (i j : Intake τ) : Prop :=
  ∃ gone, i.inlet.pending = gone ++ j.inlet.pending ∧
    scan (i.buffer ++ gone.flatMap Piece.bytes) = .whole body j.buffer

/-- The time at which somebody who has begun to read at `clock` has pieces in hand, of which each is
waited for. -/
def broughtBy [Timeline τ] (clock : τ) (pieces : List (Piece τ)) : τ :=
  pieces.foldl (fun now piece => later now piece.time) clock

/-- A wait on a pipe that is too long for the system.  The pieces `gone` were read, each of them
with a byte at least, and with the bytes of `buffer` they hold no whole frame but what is `kept`;
and the time that is left until the deadline is one that the system refuses to wait for. -/
structure Overwaits [Timeline τ] (timed : Bool) (deadline clock : τ) (buffer : Bytes)
    (gone : List (Piece τ)) (kept : Bytes) : Prop where
  timed_eq : timed = true
  filled : ∀ piece ∈ gone, piece.bytes ≠ []
  wanting : scan (buffer ++ gone.flatMap Piece.bytes) = .wanting kept
  inTime : ¬ deadline - broughtBy clock gone ≤ 0
  tooLong : Timeline.refusal? (deadline - broughtBy clock gone) = some .tooLong

/-- An attempt to receive for a time, which led from the first intake to the second one, ended with
a wait that is too long for the system. -/
def Intake.Overwaits [Timeline τ] (timeout clock : τ) (i j : Intake τ) : Prop :=
  ∃ gone, i.inlet.pending = gone ++ j.inlet.pending ∧
    ClassOrder.Overwaits i.inlet.timed (clock + timeout) clock i.buffer gone j.buffer

/-! ### Bodies -/

/-- What is wrong with a body is wrong with its text, with the value that the text writes, or, in
an overlong one, with a number. -/
theorem readBody_eq_integerTooLong_iff (body : Bytes) :
    readBody body = .error .integerTooLong ↔ Overlong body := by
  constructor
  · intro h
    unfold readBody at h
    split at h
    · cases h
    · next text htext =>
      split at h
      · cases h
      · next hread => exact ⟨text, htext, hread⟩
      · next payload _ =>
        cases hpayload : Message.ofPayload payload with
        | ok m =>
          rw [hpayload] at h
          cases h
        | error fault =>
          rw [hpayload] at h
          cases h
  · rintro ⟨text, htext, hread⟩
    rw [readBody, htext]
    simp only [hread]

/-- **A body gives a message, or a fault that says it is none, exactly if it is not overlong.** -/
theorem readBody_ok_or_decode_iff (body : Bytes) :
    ((∃ m, readBody body = .ok m) ∨ ∃ fault, readBody body = .error (.decode fault)) ↔
      ¬ Overlong body := by
  rw [← readBody_eq_integerTooLong_iff]
  cases readBody body with
  | ok m => simp
  | error fault => cases fault <;> simp

theorem expected_mapError_readBody_iff (body : Bytes) :
    Expected (τ := τ) ((readBody body).mapError .ofBody) ↔ ¬ Overlong body := by
  rw [← readBody_eq_integerTooLong_iff]
  cases readBody body with
  | ok m => simp [Expected, Except.mapError]
  | error fault =>
    cases fault <;>
      simp [Expected, Except.mapError, Fault.ofBody, Fault.kind, FaultKind.isExpected]

/-- An overlong body has a long run of digits. -/
theorem Overlong.longRun {body : Bytes} (h : Overlong body) :
    ∃ text, Text.ofUtf8? body = some text ∧ Json.LongRun text.toList := by
  obtain ⟨text, htext, hread⟩ := h
  exact ⟨text, htext, Json.longRun_of_read hread⟩

/-! ### One attempt -/

/-- What an attempt comes to that has read `read`: what the body of the frame in it gives, the
fault of the header block in it, or, when there is no whole frame in it, that the stream ended, the
time is over or a wait is too long. -/
def Receipt.Tells (read : Bytes) (r : Receipt τ) : Prop :=
  match scan read with
  | .whole body rest => r.outcome = (readBody body).mapError .ofBody ∧ r.buffer = rest
  | .faulty fault _ => r.outcome = .error (.framing fault)
  | .wanting _ =>
    ∃ fault, r.outcome = .error fault ∧ (fault.kind.isExpected = true ∨ fault = .timeTooLong)

theorem isExpected_endFault (kept : Bytes) :
    (endFault (τ := τ) kept).kind.isExpected = true := by
  unfold endFault
  split <;> rfl

theorem isExpected_closedFault (timed : Bool) :
    (closedFault (τ := τ) timed).kind.isExpected = true := by
  cases timed <;> rfl

theorem not_expected_timeTooLong : ¬ Expected (.error .timeTooLong : Except (Fault τ) Message) := by
  simp [Expected, Fault.kind, FaultKind.isExpected]

theorem mapError_readBody_ne_timeTooLong (body : Bytes) :
    (readBody body).mapError .ofBody ≠ (.error .timeTooLong : Except (Fault τ) Message) := by
  intro h
  rcases fault_of_body h with ⟨cause, -, heq⟩ | heq <;> cases heq

/-- What is told is unexpected exactly if it is that a wait is too long, or is told of a frame with
an overlong body. -/
theorem Receipt.Tells.expected_iff {read : Bytes} {r : Receipt τ} (h : r.Tells read) :
    Expected r.outcome ↔ (¬ ∃ body, scan read = .whole body r.buffer ∧ Overlong body) ∧
      r.outcome ≠ .error .timeTooLong := by
  unfold Tells at h
  split at h
  · next body rest hscan =>
    obtain ⟨houtcome, rfl⟩ := h
    rw [houtcome, expected_mapError_readBody_iff, hscan]
    simp [mapError_readBody_ne_timeTooLong]
  · next hscan =>
    rw [h, hscan]
    simp [Expected, Fault.kind, FaultKind.isExpected]
  · next hscan =>
    obtain ⟨fault, houtcome, hkind⟩ := h
    rw [houtcome, hscan]
    rcases hkind with hkind | rfl
    · have hexpected : Expected (.error fault) := hkind
      exact iff_of_true hexpected
        ⟨by simp, fun heq => not_expected_timeTooLong (heq ▸ hexpected)⟩
    · exact iff_of_false not_expected_timeTooLong fun hall => hall.2 rfl

variable [Timeline τ]

/-- **An attempt comes to what the bytes that it read say.** -/
theorem receiveFrom_tells (m : Manner) (patience : Patience τ) (clock : τ) (buffer : Bytes)
    (pending : List (Piece τ))
    (hquiet : ∀ piece ∈ pending, ∀ fault whileWaiting, piece.kind ≠ .trouble fault whileWaiting) :
    let r := receiveFrom m patience clock buffer pending
    ∃ gone, pending = gone ++ r.pending ∧ r.Tells (buffer ++ gone.flatMap Piece.bytes) := by
  obtain ⟨gone, hpending, haccounts⟩ := receiveFrom_accounts m patience clock buffer pending
  refine ⟨gone, hpending, ?_⟩
  unfold Receipt.Accounts at haccounts
  cases hscan : scan (buffer ++ gone.flatMap Piece.bytes) with
  | whole body rest =>
    rw [hscan] at haccounts
    rw [Receipt.Tells, hscan]
    exact haccounts
  | faulty fault kept =>
    rw [hscan] at haccounts
    rw [Receipt.Tells, hscan]
    exact haccounts.1
  | wanting kept =>
    rw [hscan] at haccounts
    obtain ⟨⟨fault, houtcome, hfault⟩, -⟩ := haccounts
    rw [Receipt.Tells, hscan]
    refine ⟨fault, houtcome, ?_⟩
    cases hfault with
    | late => exact .inl rfl
    | @refused left refusal =>
      cases refusal with
      | tooLong => exact .inr rfl
      | notNumber => exact .inl rfl
    | closed => exact .inl (isExpected_closedFault m.timed)
    | ended => exact .inl (isExpected_endFault kept)
    | trouble hpiece hkind =>
      -- the piece stood in line, where there is no trouble
      exact absurd hkind (hquiet _ (hpending ▸ List.mem_append_left _ hpiece) _ _)

/-! ### Waits that are too long -/

section

variable {m : Manner} {patience : Patience τ} {clock : τ} {buffer kept : Bytes}
  {pending : List (Piece τ)} {r : Receipt τ}

/-- A wait without a read before it is refused if it is too long. -/
theorem Overwaits.refused?_eq
    (h : Overwaits m.timed patience.deadline clock buffer [] kept) :
    refused? m patience clock = some .tooLong :=
  refused?_eq_some_iff.mpr ⟨h.timed_eq, h.tooLong⟩

/-- What the bytes at hand come to is the refusal of a wait that is too long exactly if that wait is
next. -/
theorem Settlement.overwaits (h : Settlement m patience clock buffer pending r) :
    r.outcome = .error .timeTooLong ↔
      Overwaits m.timed patience.deadline clock buffer [] r.buffer := by
  have hbytes : buffer ++ ([] : List (Piece τ)).flatMap Piece.bytes = buffer := List.append_nil _
  constructor
  · intro houtcome
    cases h with
    | whole => exact absurd houtcome (mapError_readBody_ne_timeTooLong _)
    | faulty => cases houtcome
    | late => cases houtcome
    | @refused kept refusal hscan htimed htime hrefusal =>
      cases refusal with
      | tooLong => exact ⟨htimed, nofun, hbytes.symm ▸ hscan, htime, hrefusal⟩
      | notNumber => cases houtcome
    | closed =>
      rw [closedFault] at houtcome
      split at houtcome <;> cases houtcome
  · intro hlong
    have hwanting := hbytes ▸ hlong.wanting
    cases h with
    | whole hscan | faulty hscan =>
      rw [hscan] at hwanting
      cases hwanting
    | late _ _ hover => exact absurd hover hlong.inTime
    | refused _ _ _ hrefusal =>
      cases hlong.tooLong.symm.trans hrefusal
      rfl
    | closed _ _ hwaits => cases hlong.refused?_eq.symm.trans hwaits

/-- A read that reads nothing refuses no wait. -/
theorem Unfilled.overwaits (hmore : Unsettled m patience clock buffer kept)
    (hquiet : ∀ piece ∈ pending, ∀ fault whileWaiting, piece.kind ≠ .trouble fault whileWaiting)
    (h : Unfilled m patience clock kept pending r) :
    ∃ gone, pending = gone ++ r.pending ∧ r.outcome ≠ .error .timeTooLong ∧
      ¬ Overwaits m.timed patience.deadline clock buffer gone r.buffer := by
  have hend : (.error (endFault kept) : Except (Fault τ) Message) ≠ .error .timeTooLong := by
    rw [endFault]
    split <;> simp
  -- the wait that came before the read was not refused
  have hwaited (kept' : Bytes) :
      ¬ Overwaits m.timed patience.deadline clock buffer [] kept' :=
    fun hlong => nomatch hlong.refused?_eq.symm.trans hmore.waits
  cases h with
  | late => exact ⟨[], rfl, by simp, hwaited _⟩
  | exhausted | ended => exact ⟨[], rfl, hend, hwaited _⟩
  | @blank piece rest arrived _ hkind =>
    refine ⟨[piece], rfl, hend, fun hover => ?_⟩
    exact hover.filled piece (List.mem_singleton_self _) (Piece.bytes_of_data hkind)
  | trouble _ hkind => exact absurd hkind (hquiet _ List.mem_cons_self _ _)

/-- **An attempt is refused exactly if a wait is too long**: by induction on the reads, of which
each brings the time at which its piece is there. -/
theorem receiveFrom_overwaits (m : Manner) (patience : Patience τ) (clock : τ) (buffer : Bytes)
    (pending : List (Piece τ))
    (hquiet : ∀ piece ∈ pending, ∀ fault whileWaiting, piece.kind ≠ .trouble fault whileWaiting) :
    let r := receiveFrom m patience clock buffer pending
    ∃ gone, pending = gone ++ r.pending ∧ (r.outcome = .error .timeTooLong ↔
      Overwaits m.timed patience.deadline clock buffer gone r.buffer) := by
  revert hquiet
  refine receiveFrom_induction (P := fun clock buffer pending r =>
    (∀ piece ∈ pending, ∀ fault whileWaiting, piece.kind ≠ .trouble fault whileWaiting) →
      ∃ gone, pending = gone ++ r.pending ∧ (r.outcome = .error .timeTooLong ↔
        Overwaits m.timed patience.deadline clock buffer gone r.buffer)) ?_ ?_ ?_ clock buffer
    pending
  · exact fun hsettled _ => ⟨[], hsettled.pending_eq.symm, hsettled.overwaits⟩
  · intro clock buffer kept pending r hmore hunfilled hquiet
    obtain ⟨gone, hpending, houtcome, hnot⟩ := hunfilled.overwaits hmore hquiet
    exact ⟨gone, hpending, iff_of_false houtcome hnot⟩
  · intro clock buffer kept piece arrived rest r hmore harrival hfilled ih hquiet
    obtain ⟨gone, hrest, hiff⟩ := ih fun p hp => hquiet p (List.mem_cons_of_mem _ hp)
    refine ⟨piece :: gone, by rw [List.cons_append, ← hrest], hiff.trans ?_⟩
    have hscan : scan (kept ++ piece.bytes ++ gone.flatMap Piece.bytes) =
        scan (buffer ++ (piece :: gone).flatMap Piece.bytes) := by
      refine scan_congr ?_
      rw [List.flatMap_cons, List.append_assoc, scan_eq_wanting hmore.scan_eq, skipLineEnds_append]
    have hbrought (htimed : m.timed = true) :
        broughtBy arrived gone = broughtBy clock (piece :: gone) := by
      rw [arrival?, if_pos htimed] at harrival
      split at harrival
      · cases harrival
        rfl
      · cases harrival
    constructor
    · rintro ⟨htimed, hall, hwanting, htime, hlong⟩
      rw [hbrought htimed] at htime hlong
      exact ⟨htimed, List.forall_mem_cons.mpr ⟨hfilled, hall⟩, hscan ▸ hwanting, htime, hlong⟩
    · rintro ⟨htimed, hall, hwanting, htime, hlong⟩
      rw [← hbrought htimed] at htime hlong
      exact ⟨htimed, (List.forall_mem_cons.mp hall).2, hscan ▸ hwanting, htime, hlong⟩

end

theorem Intake.receive_expected_iff_takes {i : Intake τ} (h : i.inlet.Untroubled)
    (timeout clock : τ) :
    let done := i.receive timeout clock
    Expected done.1 ↔ Timeline.fits timeout = true ∧
      (¬ ∃ body, i.Takes body done.2.1 ∧ Overlong body) ∧ ¬ i.Overwaits timeout clock done.2.1 := by
  unfold Intake.receive
  split
  · next hfits =>
    obtain ⟨gone, hpending, htells⟩ := receiveFrom_tells ⟨i.inlet.timed, i.inlet.closed⟩
      ⟨clock + timeout, timeout⟩ clock i.buffer i.inlet.pending h
    obtain ⟨gone', hpending', hlong⟩ := receiveFrom_overwaits ⟨i.inlet.timed, i.inlet.closed⟩
      ⟨clock + timeout, timeout⟩ clock i.buffer i.inlet.pending h
    dsimp only
    generalize receiveFrom ⟨i.inlet.timed, i.inlet.closed⟩ ⟨clock + timeout, timeout⟩ clock
      i.buffer i.inlet.pending = r at hpending htells hpending' hlong ⊢
    -- what was read is told by what is left
    have hgone {other : List (Piece τ)} (heq : i.inlet.pending = other ++ r.pending) :
        other = gone := List.append_cancel_right (heq.symm.trans hpending)
    obtain rfl := hgone hpending'
    rw [htells.expected_iff, iff_true_intro hfits, true_and, ne_eq, hlong]
    refine and_congr (not_congr (exists_congr fun body => and_congr_left' ⟨fun hscan =>
      ⟨_, hpending, hscan⟩, ?_⟩)) (not_congr ⟨fun hover => ⟨_, hpending, hover⟩, ?_⟩)
    · rintro ⟨other, hother, hscan⟩
      exact hgone hother ▸ hscan
    · rintro ⟨other, hother, hover⟩
      exact hgone hother ▸ hover
  · next hfits => simp [Expected, Fault.kind, FaultKind.isExpected, hfits]

/-- **An attempt to receive comes to a message or an expected fault, but for overlong bodies.**
Let nothing stand in line on a channel but bytes and the end of the stream, in any pieces, arriving
at any times or at once, to be read by whoever has read anything before and may have closed the
stream.  With any time that can be counted on a clock, an attempt to receive comes to a message, or
to the fault that a header block or the end of a frame is wrong, that a body is no message, that the
connection is lost or that the time is over; it comes to anything else exactly if it takes a frame
off the stream whose body is a text in which the reader of JSON meets a whole number with too many
digits, or if on a pipe it would go on to wait for a time that is too long for the system.
Likewise a body alone gives a message, or a fault that says it is none, exactly if it is not such a
text; and such a text has a longer run of digits than a written integer may have. -/
theorem receive_expected_iff (c : Channel τ) (h : c.intake.inlet.Untroubled) (timeout : Option τ)
    (clock : τ) :
    let done := c.receive timeout clock
    (Expected done.1 ↔ Timeline.fits (timeout.getD c.readTimeout) = true ∧
        (¬ ∃ body, c.intake.Takes body done.2.1.intake ∧ Overlong body) ∧
          ¬ c.intake.Overwaits (timeout.getD c.readTimeout) clock done.2.1.intake) ∧
      (∀ body, ((∃ m, readBody body = .ok m) ∨ ∃ fault, readBody body = .error (.decode fault)) ↔
        ¬ Overlong body) ∧
      ∀ body, Overlong body → readBody body = .error .integerTooLong ∧
        ∃ text, Text.ofUtf8? body = some text ∧ Json.LongRun text.toList :=
  ⟨Intake.receive_expected_iff_takes h _ clock, readBody_ok_or_decode_iff,
    fun body hbody => ⟨(readBody_eq_integerTooLong_iff body).mpr hbody, hbody.longRun⟩⟩

/-- A machine that counts nanoseconds waits neither for ten thousand million seconds nor for what is
no number of seconds. -/
example :
    let kindOf (timeout : Amount) : Option FaultKind :=
      match (Intake.receive (τ := MachineTime) ⟨timeout⟩ ⟨.whole 0⟩ ⟨.empty true, []⟩).1 with
      | .error fault => some fault.kind
      | .ok _ => none
    kindOf (.whole 10000000000) = some .overflow ∧
      kindOf (.real (1.0 / 0.0)) = some .overflow ∧
      kindOf (.real (0.0 / 0.0)) = some .connectionLost ∧
      kindOf (.whole 5) = some .timeout := by decide +kernel

/-- A number written in ones. -/
def ones (count : Nat) : String := String.ofList (List.replicate count '1')

theorem length_utf8_ones (count : Nat) : (Text.utf8 (ones count)).length = count := by
  have hsize : '1'.utf8Size = 1 := rfl
  simp [ones, Text.utf8, hsize]

/-- A body that is nothing but a number is overlong if the number is. -/
theorem overlong_ones {count : Nat} (h : Text.digitLimit < count) :
    Overlong (Text.utf8 (ones count)) := by
  refine ⟨ones count, Text.ofUtf8?_utf8 _, ?_⟩
  cases count with
  | zero => cases h
  | succ count =>
    have hdigits : ∀ c ∈ '1' :: List.replicate count '1', Text.isAsciiDigit c = true := by
      rw [← List.replicate_succ]
      intro c hc
      rw [List.eq_of_mem_replicate hc]
      rfl
    have hend : Json.EndsNumber [] := by simp [Json.EndsNumber]
    have hread := Json.read_tooLong hdigits (by decide) (by simpa using h) hend
    rwa [List.append_nil, ← List.replicate_succ, ← String.toList_ofList (l := List.replicate _ _)]
      at hread

/-- A frame with a body of 4301 bytes. -/
def longFrame (body : Bytes) (hbody : body.length = 4301) : WrittenFrame where
  blankLines := 0
  before := []
  length := paddedLength (Text.utf8 "4301") (by decide +kernel) (by decide +kernel)
  after := []
  body
  length_name := by decide +kernel
  length_value := by
    rw [hbody]
    decide +kernel
  after_name := by simp

/-- A frame that is in line all at once is received at once, and nothing is left. -/
theorem receiveFrom_frame (f : WrittenFrame) (patience : Patience ℚ) (clock time : ℚ) :
    receiveFrom ⟨false, false⟩ patience clock [] [⟨time, .data f.bytes⟩] =
      ⟨f.outcome, [], [], clock⟩ := by
  have hscan : scan f.bytes = .whole f.body [] := by simpa using scan_frame f []
  have hfilled : f.bytes.isEmpty = false := by
    rw [List.isEmpty_eq_false_iff]
    rintro hnil
    rw [hnil] at hscan
    cases hscan
  have hnone : scan [] = .wanting [] := rfl
  simp [receiveFrom, settle, hnone, arrival?, hfilled, hscan, WrittenFrame.outcome]

/-- The channel on which a frame has come in. -/
def frameChannel (f : WrittenFrame) : Channel ℚ :=
  channelOn ⟨{ Inlet.empty false with pending := [⟨0, .data f.bytes⟩] }, []⟩

theorem untroubled_frameChannel (f : WrittenFrame) :
    (frameChannel f).intake.inlet.Untroubled := by
  intro piece hpiece fault whileWaiting
  rw [List.mem_singleton.mp hpiece]
  exact fun h => nomatch h

theorem takes_frameChannel (f : WrittenFrame) :
    (frameChannel f).intake.Takes f.body ((frameChannel f).receive none 0).2.1.intake := by
  have hleft : ((frameChannel f).receive none 0).2.1.intake = ⟨Inlet.empty false, []⟩ := by
    have hframe := receiveFrom_frame f ⟨0 + 5, 5⟩ 0 0
    simp only [Channel.receive, frameChannel, channelOn, Intake.receive, Option.getD_none,
      Timeline.fits_rat, if_true, Inlet.empty, hframe]
  refine ⟨[⟨0, .data f.bytes⟩], by rw [hleft]; rfl, ?_⟩
  rw [hleft, List.flatMap_singleton, ← List.append_nil (_ ++ _)]
  exact scan_frame f []

/-- A frame whose body is a number with one digit too many. -/
def overlongFrame : WrittenFrame := longFrame (Text.utf8 (ones 4301)) (length_utf8_ones 4301)

theorem receive_expected_iff_overlongFrame :
    (frameChannel overlongFrame).intake.inlet.Untroubled ∧
      ¬ Expected ((frameChannel overlongFrame).receive none 0).1 := by
  have hrefused (f : WrittenFrame) (hbody : Overlong f.body) :
      ¬ Expected ((frameChannel f).receive none 0).1 := by
    rw [(receive_expected_iff (frameChannel f) (untroubled_frameChannel f) none 0).1]
    exact fun h => h.2.1 ⟨f.body, takes_frameChannel f, hbody⟩
  have hbody (body : Bytes) (hlength : body.length = 4301) (h : Overlong body) :
      Overlong (longFrame body hlength).body := h
  exact ⟨untroubled_frameChannel overlongFrame,
    hrefused overlongFrame (hbody _ _ (overlong_ones (by simp [Text.digitLimit])))⟩

end ClassOrder
