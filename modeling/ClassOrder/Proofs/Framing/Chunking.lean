import ClassOrder.Proofs.ExactTime
import ClassOrder.Proofs.Framing.Stream

/-!
# Chunking and timeouts do not show

Any number of attempts to receive, with any pauses between them and any time for each, on a stream
in any pieces: but for the attempts that were given up, they give what the same stream gives when
all of it is there from the start.  An attempt with time is given up only if what had come in
before its deadline holds nothing more than what had been got before.

## Main definitions

* `Delivery` — the pieces in which a stream comes in, with their times.
* `Attempt`, `Channel.receiveAll` — one attempt to receive after the other.
* `Progress` — how far attempts have come on a delivery.
* `arrivedBefore`, `NothingMore` — what has come in before a given time, and that it holds nothing.

## Main results

* `Progress.receiveAll` — every attempt keeps what was got in step with the stream.
* `Progress.nothingMore` — nothing more had come in when an attempt was given up.
* `receiveAll_prefix_whole` — **chunking and timeouts do not show.**
-/

namespace ClassOrder

/-! ### Deliveries and attempts -/

/-- The pieces in which a stream comes in, without faults. -/
structure Delivery where
  /-- The pieces with their times of arrival. -/
  pieces : List (ℚ × Bytes)
  /-- No piece is empty. -/
  filled : ∀ piece ∈ pieces, piece.2 ≠ []
  /-- When the end of the stream arrives, if it does. -/
  ending : Option ℚ

namespace Delivery

/-- The bytes of the stream. -/
def bytes (d : Delivery) : Bytes := joined d.pieces

/-- What stands in line of the stream. -/
def pending (d : Delivery) : List (Piece ℚ) := inLine d.pieces d.ending

/-- The stream in front of a reader who has read nothing yet. -/
def intake (d : Delivery) (timed : Bool) : Intake ℚ :=
  ⟨{ Inlet.empty timed with pending := d.pending }, []⟩

end Delivery

/-- An attempt to receive. -/
structure Attempt where
  /-- How long after the end of the one before it begins. -/
  pause : ℚ
  pause_nonneg : 0 ≤ pause
  /-- How long it may last; none for as long as the channel waits when it is not told. -/
  timeout : Option ℚ

/-- One attempt to receive after the other: the outcomes, the channel afterwards and the time. -/
def Channel.receiveAll : List Attempt → ℚ → Channel ℚ →
    List (Except (Fault ℚ) Message) × Channel ℚ × ℚ
  | [], clock, c => ([], c, clock)
  | attempt :: attempts, clock, c =>
    let (r, c, clock) := c.receive attempt.timeout (clock + attempt.pause)
    let (rs, c, clock) := c.receiveAll attempts clock
    (r :: rs, c, clock)

theorem length_receiveAll : ∀ (attempts : List Attempt) (clock : ℚ) (c : Channel ℚ),
    (c.receiveAll attempts clock).1.length = attempts.length := by
  intro attempts
  induction attempts with
  | nil => intro clock c; rfl
  | cons attempt attempts ih =>
    intro clock c
    rw [Channel.receiveAll, List.length_cons, List.length_cons, ih]

/-- What attempts got: the outcomes of those that were not given up. -/
def got (outcomes : List (Except (Fault ℚ) Message)) : List (Except (Fault ℚ) Message) :=
  outcomes.filter (!gaveUp ·)

@[simp] theorem got_nil : got [] = [] := rfl

theorem got_cons_eq (r : Except (Fault ℚ) Message) (rs : List (Except (Fault ℚ) Message)) :
    got (r :: rs) = got [r] ++ got rs := by
  rw [got, got, got, ← List.filter_append, List.singleton_append]

theorem got_cons_of_gaveUp {r : Except (Fault ℚ) Message} (h : gaveUp r = true)
    (rs : List (Except (Fault ℚ) Message)) : got (r :: rs) = got rs :=
  List.filter_cons_of_neg (by simpa using h)

theorem got_cons {r : Except (Fault ℚ) Message} (h : gaveUp r = false)
    (rs : List (Except (Fault ℚ) Message)) : got (r :: rs) = r :: got rs :=
  List.filter_cons_of_pos (by simpa using h)

/-! ### Times of reading -/

theorem later_eq_max (a b : ℚ) : later a b = max a b := by
  unfold later
  split
  · next h => exact (max_eq_right_of_lt h).symm
  · next h => exact (max_eq_left (not_lt.mp h)).symm

/-- With exact times no wait is refused. -/
@[simp] theorem refused?_rat (m : Manner) (patience : Patience ℚ) (clock : ℚ) :
    refused? m patience clock = none := by
  rw [refused?]
  split <;> rfl

/-- The pieces that a reader with a deadline gets are those that arrive by then. -/
theorem arrival?_eq_some {m : Manner} (htimed : m.timed = true) {patience : Patience ℚ}
    {clock clock₁ : ℚ} {piece : Piece ℚ} : arrival? m patience clock piece = some clock₁ ↔
      piece.time ≤ patience.deadline ∧ max clock piece.time = clock₁ := by
  have hdeadline : clock + (patience.deadline - clock) = patience.deadline :=
    add_sub_cancel clock patience.deadline
  have hiff : piece.time ≤ clock + (patience.deadline - clock) ↔
      piece.time ≤ patience.deadline := by rw [hdeadline]
  rw [arrival?, if_pos htimed, ← later_eq_max]
  by_cases h : piece.time ≤ patience.deadline
  · rw [if_pos (hiff.mpr h), Option.some_inj]
    exact ⟨fun heq => ⟨h, heq⟩, fun heq => heq.2⟩
  · rw [if_neg (mt hiff.mp h)]
    exact ⟨fun heq => absurd heq (by simp), fun heq => absurd heq.1 h⟩

theorem lt_time_of_arrival?_eq_none {m : Manner} (htimed : m.timed = true)
    {patience : Patience ℚ} {clock : ℚ} {piece : Piece ℚ}
    (h : arrival? m patience clock piece = none) : patience.deadline < piece.time := by
  rw [← not_le]
  intro hle
  rw [(arrival?_eq_some htimed).mpr ⟨hle, rfl⟩] at h
  cases h

theorem Reading.times {m : Manner} (htimed : m.timed = true) {patience : Patience ℚ}
    {ending : Option ℚ} {left gone : List (ℚ × Bytes)} {clock clock₁ : ℚ} {buffer buffer₁ : Bytes}
    (h : Reading m patience ending left clock buffer gone clock₁ buffer₁) :
    clock ≤ clock₁ ∧ ∀ piece ∈ gone, piece.1 ≤ clock₁ := by
  induction h with
  | done clock buffer => exact ⟨le_rfl, by simp⟩
  | more hscan harrival hrest ih =>
    rw [arrival?_eq_some htimed] at harrival
    rw [← harrival.2, max_le_iff] at ih
    refine ⟨ih.1.1, fun p hp => ?_⟩
    rcases List.mem_cons.mp hp with rfl | hp
    · exact ih.1.2
    · exact ih.2 p hp

theorem Stopping.le_clock {m : Manner} (htimed : m.timed = true) {patience : Patience ℚ}
    {ending : Option ℚ} {left : List (ℚ × Bytes)} {clock : ℚ} {buffer : Bytes} {r : Receipt ℚ}
    (h : Stopping m patience ending left clock buffer r) : clock ≤ r.clock := by
  cases h with
  | settled h => exact (settle_eq_error_iff.mp h).clock_eq.ge
  | late hscan htimed htime hlate =>
    change clock ≤ clock + (patience.deadline - clock)
    rw [not_le] at htime
    exact le_add_of_nonneg_right htime.le
  | ended hscan hleft htime =>
    obtain ⟨time, -, harrival⟩ := htime htimed
    rw [arrival?_eq_some htimed] at harrival
    exact harrival.2 ▸ le_max_left _ _

/-! ### Progress -/

/-- How far attempts have come on a delivery when they have got `outcomes`: the pieces `gone` have
been read, the pieces `left` stand in line, and whatever comes next, the bytes read and not used
are what the outcomes leave of the stream so far.  Once the stream has `ended`, nothing comes
next. -/
structure Progress.At (d : Delivery) (timed : Bool) (outcomes : List (Except (Fault ℚ) Message))
    (clock : ℚ) (i : Intake ℚ) (gone left : List (ℚ × Bytes)) (ended : Prop) : Prop where
  pieces_eq : d.pieces = gone ++ left
  pending_eq : i.inlet.pending = inLine left d.ending
  arrived : timed = true → ∀ piece ∈ gone, piece.1 ≤ clock
  of_ended : ended → left = [] ∧ (timed = true → ∃ time ≤ clock, d.ending = some time)
  outcomes_eq : ∀ more, (ended → more = []) →
    outcomes = outcomesOf outcomes.length (joined gone ++ more)
  buffer_eq : ∀ more, (ended → more = []) →
    skipLineEnds (i.buffer ++ more) =
      skipLineEnds (afterNext^[outcomes.length] (joined gone ++ more))

/-- Whether attempts that have got `outcomes` are in step with a delivery. -/
structure Progress (d : Delivery) (timed : Bool) (outcomes : List (Except (Fault ℚ) Message))
    (clock : ℚ) (i : Intake ℚ) : Prop where
  timed_eq : i.inlet.timed = timed
  isOpen : i.inlet.closed = false
  at_ : ∃ gone left ended, Progress.At d timed outcomes clock i gone left ended

theorem Delivery.progress_intake (d : Delivery) (timed : Bool) (clock : ℚ) :
    Progress d timed [] clock (d.intake timed) where
  timed_eq := rfl
  isOpen := rfl
  at_ := ⟨[], d.pieces, False, rfl, rfl, by simp, False.elim, fun _ _ => rfl, fun _ _ => rfl⟩

/-- Time that goes by changes nothing. -/
theorem Progress.pause {d : Delivery} {timed : Bool} {outcomes : List (Except (Fault ℚ) Message)}
    {clock clock₁ : ℚ} {i : Intake ℚ} (h : Progress d timed outcomes clock i)
    (hle : clock ≤ clock₁) : Progress d timed outcomes clock₁ i := by
  obtain ⟨gone, left, ended, hat⟩ := h.at_
  refine ⟨h.timed_eq, h.isOpen, gone, left, ended, { hat with arrived := ?_, of_ended := ?_ }⟩
  · exact fun htimed piece hp => (hat.arrived htimed piece hp).trans hle
  · intro hended
    refine ⟨(hat.of_ended hended).1, fun htimed => ?_⟩
    obtain ⟨time, htime, hend⟩ := (hat.of_ended hended).2 htimed
    exact ⟨time, htime.trans hle, hend⟩

/-- A receipt that is faithful to what is left of a stream adds what it got to what was got. -/
theorem Receipt.Faithful.step {r : Receipt ℚ} {outcomes : List (Except (Fault ℚ) Message)}
    {stream rest more : Bytes} (h : r.Faithful (rest ++ more) more)
    (houtcomes : outcomes = outcomesOf outcomes.length stream)
    (hrest : skipLineEnds (rest ++ more) = skipLineEnds (afterNext^[outcomes.length] stream)) :
    outcomes ++ got [r.outcome] = outcomesOf (outcomes ++ got [r.outcome]).length stream ∧
      skipLineEnds (r.buffer ++ more) =
        skipLineEnds (afterNext^[(outcomes ++ got [r.outcome]).length] stream) := by
  -- an attempt that was given up got nothing and used nothing; another one got what comes next
  rcases h with ⟨hgave, hkept⟩ | ⟨houtcome, hkept⟩
  · rw [got_cons_of_gaveUp hgave, got_nil, List.append_nil]
    exact ⟨houtcomes, hkept.trans hrest⟩
  · have hgave : gaveUp r.outcome = false := by rw [houtcome, gaveUp_nextOutcome]
    rw [got_cons hgave, got_nil, List.length_append, List.length_singleton, outcomesOf_succ,
      ← houtcomes, houtcome, nextOutcome_congr hrest, hkept, afterNext_congr hrest,
      Function.iterate_succ_apply']
    exact ⟨rfl, rfl⟩

/-- **One attempt keeps what was got in step with the stream.** -/
theorem Progress.receive {d : Delivery} {timed : Bool}
    {outcomes : List (Except (Fault ℚ) Message)} {clock : ℚ} {i : Intake ℚ}
    (h : Progress d timed outcomes clock i) (timeout : ℚ) :
    Progress d timed (outcomes ++ got [(i.receive timeout clock).1]) (i.receive timeout clock).2.2
        (i.receive timeout clock).2.1 ∧
      (gaveUp (i.receive timeout clock).1 = true → timed = true) := by
  obtain ⟨gone, left, ended, hat⟩ := h.at_
  have hfilled : ∀ piece ∈ left, piece.2 ≠ [] := fun piece hp =>
    d.filled piece (hat.pieces_eq ▸ List.mem_append_right _ hp)
  obtain ⟨now, left', clock₁, buffer₁, hleft, hreading, hstopping⟩ :=
    receiveFrom_cases ⟨i.inlet.timed, i.inlet.closed⟩ ⟨clock + timeout, timeout⟩ d.ending left
      hfilled clock i.buffer
  simp only [Intake.receive, Timeline.fits_rat, if_true, hat.pending_eq]
  generalize receiveFrom ⟨i.inlet.timed, i.inlet.closed⟩ ⟨clock + timeout, timeout⟩ clock i.buffer
    (inLine left d.ending) = r at hstopping ⊢
  obtain ⟨hpending, ended', hended', hfaithful⟩ := hstopping.faithful Timeline.refusal?_rat h.isOpen
  refine ⟨⟨h.timed_eq, h.isOpen, gone ++ now, left', ended ∨ ended', ?_⟩, fun hgave =>
    h.timed_eq ▸ hstopping.timed_of_gaveUp hgave⟩
  have hnow : ended → now = [] ∧ left' = [] := fun hended =>
    List.append_eq_nil_iff.mp (hleft.symm.trans (hat.of_ended hended).1)
  have hclock : timed = true → clock ≤ r.clock ∧ ∀ piece ∈ now, piece.1 ≤ r.clock := by
    intro htimed
    obtain ⟨hle, hread⟩ := hreading.times (h.timed_eq.trans htimed)
    have hstop := hstopping.le_clock (h.timed_eq.trans htimed)
    exact ⟨hle.trans hstop, fun piece hp => (hread piece hp).trans hstop⟩
  -- the pieces read in this attempt are what came next for the attempts before it
  have hstep : ∀ more, (ended ∨ ended' → more = []) →
      outcomes ++ got [r.outcome] = outcomesOf (outcomes ++ got [r.outcome]).length
          (joined (gone ++ now) ++ more) ∧
        skipLineEnds (r.buffer ++ more) = skipLineEnds
          (afterNext^[(outcomes ++ got [r.outcome]).length] (joined (gone ++ now) ++ more)) := by
    intro more hmore
    have hnone : ended → joined now ++ more = [] := fun hended => by
      rw [(hnow hended).1, hmore (.inl hended), joined_nil, List.append_nil]
    rw [joined_append, List.append_assoc]
    refine (hfaithful more fun hended => hmore (.inr hended)).step (hat.outcomes_eq _ hnone) ?_
    rw [hreading.skipLineEnds_eq, hat.buffer_eq _ hnone]
  refine ⟨?_, hpending, ?_, ?_, fun more hmore => (hstep more hmore).1,
    fun more hmore => (hstep more hmore).2⟩
  · rw [hat.pieces_eq, hleft, List.append_assoc]
  · intro htimed piece hp
    rcases List.mem_append.mp hp with hp | hp
    · exact (hat.arrived htimed piece hp).trans (hclock htimed).1
    · exact (hclock htimed).2 piece hp
  · rintro (hended | hended)
    · refine ⟨(hnow hended).2, fun htimed => ?_⟩
      obtain ⟨time, htime, hend⟩ := (hat.of_ended hended).2 htimed
      exact ⟨time, htime.trans (hclock htimed).1, hend⟩
    · refine ⟨(hended' hended).1, fun htimed => ?_⟩
      obtain ⟨time, hend, harrival⟩ := (hended' hended).2 (h.timed_eq.trans htimed)
      rw [arrival?_eq_some (h.timed_eq.trans htimed)] at harrival
      exact ⟨time, harrival.2 ▸ le_max_right _ _, hend⟩

/-- **Every attempt keeps what was got in step with the stream.** -/
theorem Progress.receiveAll {d : Delivery} {timed : Bool} : ∀ (attempts : List Attempt)
    {outcomes : List (Except (Fault ℚ) Message)} {clock : ℚ} {c : Channel ℚ},
    Progress d timed outcomes clock c.intake →
      Progress d timed (outcomes ++ got (c.receiveAll attempts clock).1)
          (c.receiveAll attempts clock).2.2 (c.receiveAll attempts clock).2.1.intake ∧
        (timed = false →
          got (c.receiveAll attempts clock).1 = (c.receiveAll attempts clock).1) := by
  intro attempts
  induction attempts with
  | nil =>
    intro outcomes clock c h
    exact ⟨by simpa [Channel.receiveAll] using h, fun _ => rfl⟩
  | cons attempt attempts ih =>
    intro outcomes clock c h
    have hpause := h.pause (le_add_of_nonneg_right attempt.pause_nonneg)
    obtain ⟨hstep, htimed⟩ := hpause.receive (attempt.timeout.getD c.readTimeout)
    obtain ⟨hrest, hall⟩ := ih (c := (c.receive attempt.timeout (clock + attempt.pause)).2.1) hstep
    rw [Channel.receiveAll]
    refine ⟨?_, fun huntimed => ?_⟩
    · rw [got_cons_eq, ← List.append_assoc]
      exact hrest
    · rw [got_cons (Bool.eq_false_iff.mpr fun hgave => by simp [htimed hgave] at huntimed)]
      exact congrArg _ (hall huntimed)

/-- What was got is what the stream says, as far as it goes. -/
theorem Progress.eq_outcomesOf {d : Delivery} {timed : Bool}
    {outcomes : List (Except (Fault ℚ) Message)} {clock : ℚ} {i : Intake ℚ}
    (h : Progress d timed outcomes clock i) : outcomes = outcomesOf outcomes.length d.bytes := by
  obtain ⟨gone, left, ended, hat⟩ := h.at_
  have hmore : ended → joined left = [] := fun hended => by
    rw [(hat.of_ended hended).1, joined_nil]
  rw [Delivery.bytes, hat.pieces_eq, joined_append]
  exact hat.outcomes_eq _ hmore

/-! ### A whole stream in line -/

theorem flatten_cut_rest : ∀ (count : Nat) (bytes : Bytes), bytes.length ≤ count * readSize →
    (cut.rest count bytes).flatten = bytes := by
  intro count
  induction count with
  | zero =>
    intro bytes h
    rw [Nat.zero_mul, Nat.le_zero, List.length_eq_zero_iff] at h
    rw [h, cut.rest, List.flatten_nil]
  | succ count ih =>
    intro bytes h
    rw [Nat.succ_mul] at h
    rw [cut.rest, List.flatten_cons, ih _ (by rw [List.length_drop]; omega), List.take_append_drop]

theorem filled_cut_rest : ∀ (count : Nat) (bytes : Bytes),
    count * readSize < bytes.length + readSize → ∀ piece ∈ cut.rest count bytes, piece ≠ [] := by
  intro count
  induction count with
  | zero => intro _ _ piece hp; simp [cut.rest] at hp
  | succ count ih =>
    intro bytes h piece hp
    rw [Nat.succ_mul] at h
    rw [cut.rest, List.mem_cons] at hp
    rcases hp with rfl | hp
    · rw [ne_eq, List.take_eq_nil_iff]
      rintro (h0 | rfl)
      · simp [readSize] at h0
      · simp at h
    · refine ih _ ?_ piece hp
      rw [List.length_drop]
      omega

theorem flatten_cut (bytes : Bytes) : (cut bytes).flatten = bytes := by
  have hcount := Nat.lt_div_mul_add (a := bytes.length - 1) (b := readSize) (by decide)
  rw [cut, List.flatten_cons, flatten_cut_rest _ _ (by rw [List.length_drop]; omega),
    List.take_append_drop]

theorem filled_cut {bytes : Bytes} (h : bytes ≠ []) : ∀ piece ∈ cut bytes, piece ≠ [] := by
  intro piece hp
  have hlen : 0 < bytes.length := List.length_pos_iff.mpr h
  rw [cut, List.mem_cons] at hp
  rcases hp with rfl | hp
  · rw [ne_eq, List.take_eq_nil_iff]
    rintro (h0 | h0)
    · simp [readSize] at h0
    · exact h h0
  · refine filled_cut_rest _ _ ?_ piece hp
    have hcount := Nat.div_mul_le_self (bytes.length - 1) readSize
    rw [List.length_drop]
    omega

/-- All of a stream, and its end after it, put in line at once for a reader who does not wait. -/
def wholeIntake (bytes : Bytes) : Intake ℚ :=
  ⟨(Inlet.empty false).feed 0 [.data bytes, .close], []⟩

/-- Putting a stream in line at once is a delivery of it. -/
theorem exists_delivery_wholeIntake (bytes : Bytes) (clock : ℚ) :
    ∃ d : Delivery, d.bytes = bytes ∧ Progress d false [] clock (wholeIntake bytes) := by
  by_cases h : bytes = []
  · subst h
    exact ⟨⟨[], by simp, some (later 0 0 + 0)⟩, rfl, rfl, rfl, [], [], False, rfl, rfl, by simp,
      False.elim, fun _ _ => rfl, fun _ _ => rfl⟩
  · have hempty : bytes.isEmpty = false := by simpa using h
    let time : ℚ := later 0 0 + 0
    refine ⟨⟨(cut bytes).map (time, ·), by simpa using filled_cut h, some (later time 0 + 0)⟩, ?_,
      ?_, ?_, [], (cut bytes).map (time, ·), False, rfl, ?_, by simp, False.elim, fun _ _ => rfl,
      fun _ _ => ?_⟩
    · simp [Delivery.bytes, joined, List.flatMap_map, flatten_cut]
    · simp [wholeIntake, Inlet.feedChunk, hempty, Inlet.enqueue, Inlet.empty]
    · simp [wholeIntake, Inlet.feedChunk, hempty, Inlet.enqueue, Inlet.empty]
    · simp [wholeIntake, Inlet.feedChunk, hempty, Inlet.enqueue, Inlet.empty, inLine, time]
    · rfl

/-! ### When an attempt is given up -/

/-- What has come in before a given time; nothing comes in before what stands in line ahead of
it. -/
def arrivedBefore (time : ℚ) (pending : List (Piece ℚ)) : List (Piece ℚ) :=
  pending.takeWhile (·.time < time)

/-- The bytes of a piece. -/
def PieceKind.bytes {τ : Type} : PieceKind τ → Bytes
  | data bytes => bytes
  | close | trouble .. => []

/-- Whether a reader who has used up what the first `count` outcomes take, and has read `buffer`
since, can get nothing from the pieces that have come in: after those outcomes no frame is whole
and no header block is faulty, and the stream has not ended. -/
def NothingMore (count : Nat) (buffer : Bytes) (arrived : List (Piece ℚ)) : Prop :=
  (∃ kept, scan (afterNext^[count] (buffer ++ arrived.flatMap (·.kind.bytes))) = .wanting kept) ∧
    ∀ piece ∈ arrived, piece.kind ≠ .close

theorem arrivedBefore_cons_of_lt {time : ℚ} {piece : Piece ℚ} (h : piece.time < time)
    (pending : List (Piece ℚ)) :
    arrivedBefore time (piece :: pending) = piece :: arrivedBefore time pending := by
  simp [arrivedBefore, h]

theorem arrivedBefore_cons_of_le {time : ℚ} {piece : Piece ℚ} (h : time ≤ piece.time)
    (pending : List (Piece ℚ)) : arrivedBefore time (piece :: pending) = [] := by
  simp [arrivedBefore, h]

theorem arrivedBefore_inLine_append {time : ℚ} (ending : Option ℚ) (left : List (ℚ × Bytes)) :
    ∀ {gone : List (ℚ × Bytes)}, (∀ piece ∈ gone, piece.1 < time) →
      arrivedBefore time (inLine (gone ++ left) ending) =
        inLine gone none ++ arrivedBefore time (inLine left ending) := by
  intro gone
  induction gone with
  | nil => intro _; rfl
  | cons piece gone ih =>
    intro h
    rw [List.cons_append, inLine_cons, arrivedBefore_cons_of_lt (h piece List.mem_cons_self),
      ih fun p hp => h p (List.mem_cons_of_mem _ hp)]
    rfl

theorem nothingMore_nil {buffer kept : Bytes} (h : scan buffer = .wanting kept) :
    NothingMore 0 buffer [] :=
  ⟨⟨kept, by simpa using h⟩, by simp⟩

/-- What pieces that have been read held is behind a reader like the bytes that are kept of them. -/
theorem NothingMore.of_read {count : Nat} {buffer₀ buffer : Bytes} {gone : List (ℚ × Bytes)}
    {arrived : List (Piece ℚ)} (h : NothingMore 0 buffer arrived)
    (hbuffer : ∀ more, skipLineEnds (buffer ++ more) =
      skipLineEnds (afterNext^[count] (buffer₀ ++ (joined gone ++ more)))) :
    NothingMore count buffer₀ (inLine gone none ++ arrived) := by
  obtain ⟨⟨kept, hkept⟩, hopen⟩ := h
  have hbytes : (inLine gone none).flatMap (·.kind.bytes) = joined gone := by
    simp [inLine, joined, List.flatMap_map, PieceKind.bytes]
  refine ⟨⟨kept, ?_⟩, ?_⟩
  · rw [List.flatMap_append, hbytes, ← scan_congr (hbuffer _)]
    exact hkept
  · intro piece hp
    rcases List.mem_append.mp hp with hp | hp
    · simp only [inLine, List.mem_append, List.mem_map, Option.map_none, Option.toList_none,
        List.not_mem_nil, or_false] at hp
      obtain ⟨_, -, rfl⟩ := hp
      simp
    · exact hopen piece hp

/-- Reading that stops before the deadline with nothing complete found nothing complete in what it
read either; a piece that arrives at the very deadline is the last one read. -/
theorem Reading.nothingMore {m : Manner} (htimed : m.timed = true) {patience : Patience ℚ}
    {ending : Option ℚ} {left gone : List (ℚ × Bytes)} {clock clock₁ : ℚ} {buffer buffer₁ : Bytes}
    (h : Reading m patience ending left clock buffer gone clock₁ buffer₁)
    (hclock : clock < patience.deadline) (hstop : clock₁ < patience.deadline →
      NothingMore 0 buffer₁ (arrivedBefore patience.deadline (inLine left ending))) :
    NothingMore 0 buffer (arrivedBefore patience.deadline (inLine (gone ++ left) ending)) := by
  induction h with
  | done clock buffer => exact hstop hclock
  | @more clock clock₁ clock₂ buffer kept buffer₂ piece gone hscan harrival hrest ih =>
    rw [arrival?_eq_some htimed] at harrival
    rw [List.cons_append, inLine_cons]
    rcases lt_or_ge piece.1 patience.deadline with hlt | hge
    · -- the piece came in time, so the bytes read with it are those behind it
      rw [arrivedBefore_cons_of_lt hlt]
      have hnext := ih (harrival.2 ▸ max_lt hclock hlt) hstop
      change NothingMore 0 buffer (inLine [piece] none ++ _)
      refine hnext.of_read fun more => ?_
      rw [List.append_assoc, scan_eq_wanting hscan, skipLineEnds_append, joined_cons, joined_nil,
        List.append_nil, Function.iterate_zero_apply]
    · rw [arrivedBefore_cons_of_le hge]
      exact nothingMore_nil hscan

/-- Giving up with time left finds nothing complete. -/
theorem Stopping.nothingMore {m : Manner} (htimed : m.timed = true) {patience : Patience ℚ}
    {ending : Option ℚ} {left : List (ℚ × Bytes)} {clock : ℚ} {buffer : Bytes} {r : Receipt ℚ}
    (h : Stopping m patience ending left clock buffer r) (hgave : gaveUp r.outcome = true)
    (hclock : clock < patience.deadline) :
    NothingMore 0 buffer (arrivedBefore patience.deadline (inLine left ending)) := by
  cases h with
  | settled h =>
    have htime := ((settle_eq_error_iff.mp h).of_gaveUp hgave).2.1
    exact absurd (sub_nonpos.mp htime) (not_le.mpr hclock)
  | late hscan _ htime hlate =>
    -- the first piece in line, if there is one, comes after the deadline
    have hnone : arrivedBefore patience.deadline (inLine left ending) = [] := by
      cases hline : inLine left ending with
      | nil => rfl
      | cons piece pending =>
        have hpiece := hlate piece (by rw [hline]; rfl)
        exact arrivedBefore_cons_of_le (lt_time_of_arrival?_eq_none htimed hpiece).le pending
    rw [hnone]
    exact nothingMore_nil hscan
  | ended hscan hleft htime =>
    rw [gaveUp_endFault] at hgave
    exact absurd hgave Bool.false_ne_true

/-- **An attempt with time is given up only if nothing was complete before its deadline.** -/
theorem Progress.nothingMore {d : Delivery} {outcomes : List (Except (Fault ℚ) Message)}
    {clock : ℚ} {i : Intake ℚ} (h : Progress d true outcomes clock i) {timeout : ℚ}
    (htimeout : 0 < timeout) (hgave : gaveUp (i.receive timeout clock).1 = true) :
    outcomes = outcomesOf outcomes.length
        ((arrivedBefore (clock + timeout) d.pending).flatMap (·.kind.bytes)) ∧
      NothingMore outcomes.length [] (arrivedBefore (clock + timeout) d.pending) := by
  obtain ⟨gone, left, ended, hat⟩ := h.at_
  have hfilled : ∀ piece ∈ left, piece.2 ≠ [] := fun piece hp =>
    d.filled piece (hat.pieces_eq ▸ List.mem_append_right _ hp)
  have hlt : clock < clock + timeout := lt_add_of_pos_right clock htimeout
  simp only [Intake.receive, Timeline.fits_rat, if_true, hat.pending_eq] at hgave
  obtain ⟨now, left', clock₁, buffer₁, hleft, hreading, hstopping⟩ :=
    receiveFrom_cases ⟨i.inlet.timed, i.inlet.closed⟩ ⟨clock + timeout, timeout⟩ d.ending left
      hfilled clock i.buffer
  have hnothing := hreading.nothingMore h.timed_eq hlt
    fun hclock => hstopping.nothingMore h.timed_eq hgave hclock
  rw [← hleft] at hnothing
  have hgone : ∀ piece ∈ gone, piece.1 < clock + timeout := fun piece hp =>
    (hat.arrived rfl piece hp).trans_lt hlt
  rw [Delivery.pending, hat.pieces_eq, arrivedBefore_inLine_append d.ending left hgone]
  -- a stream that has ended would not have been given up on
  have hopen : ended → ∀ more : Bytes, more = [] := by
    intro hended
    obtain ⟨rfl, htime⟩ := hat.of_ended hended
    obtain ⟨time, hle, hend⟩ := htime rfl
    rw [hend, inLine_nil_some, arrivedBefore_cons_of_lt (hle.trans_lt hlt)] at hnothing
    exact absurd rfl (hnothing.2 _ List.mem_cons_self)
  refine ⟨?_, hnothing.of_read fun more => hat.buffer_eq more fun hended => hopen hended more⟩
  have hbytes : (inLine gone none).flatMap (·.kind.bytes) = joined gone := by
    simp [inLine, joined, List.flatMap_map, PieceKind.bytes]
  rw [List.flatMap_append, hbytes]
  exact hat.outcomes_eq _ fun hended => hopen hended _

/-! ### The whole -/

/-- **Chunking and timeouts do not show.**  On a stream in any pieces, that arrive at any times or
need not be waited for, any attempts to receive give, but for those that were given up, what
attempts on the whole stream give, as far as they go.  An attempt with time is given up only if
what had come in before its deadline holds what was got so far and nothing more: no whole frame, no
faulty header block and no end of the stream. -/
theorem receiveAll_prefix_whole (d : Delivery) (timed : Bool) (c : Channel ℚ) (clock : ℚ)
    (attempts : List Attempt) :
    (∀ (whole : Channel ℚ) (clock' : ℚ) (others : List Attempt),
      attempts.length ≤ others.length →
      got (Channel.receiveAll attempts clock { c with intake := d.intake timed }).1 <+:
        (Channel.receiveAll others clock' { whole with intake := wholeIntake d.bytes }).1) ∧
    (timed = true → ∀ (outcomes : List (Except (Fault ℚ) Message)) (c' : Channel ℚ) (now : ℚ)
      (attempt : Attempt),
      Channel.receiveAll attempts clock { c with intake := d.intake timed } = (outcomes, c', now) →
      0 < attempt.timeout.getD c'.readTimeout →
      gaveUp (c'.receive attempt.timeout (now + attempt.pause)).1 = true →
      let deadline := now + attempt.pause + attempt.timeout.getD c'.readTimeout
      got outcomes = outcomesOf (got outcomes).length
          ((arrivedBefore deadline d.pending).flatMap (·.kind.bytes)) ∧
        NothingMore (got outcomes).length [] (arrivedBefore deadline d.pending)) := by
  refine ⟨fun whole clock' others hlen => ?_, ?_⟩
  · -- the stream in line at once is a delivery too, so both sides say what its bytes say
    obtain ⟨hgot, -⟩ := Progress.receiveAll attempts (c := { c with intake := d.intake timed })
      (d.progress_intake timed clock)
    obtain ⟨d', hbytes, hwhole⟩ := exists_delivery_wholeIntake d.bytes clock'
    obtain ⟨hall, huntimed⟩ := Progress.receiveAll others
      (c := { whole with intake := wholeIntake d.bytes }) hwhole
    have hgot' := hgot.eq_outcomesOf
    have hall' := hall.eq_outcomesOf
    rw [List.nil_append] at hgot' hall'
    rw [huntimed rfl, hbytes] at hall'
    rw [hgot', hall']
    refine outcomesOf_prefix ((List.length_filter_le _ _).trans ?_) _
    rwa [length_receiveAll, length_receiveAll]
  · rintro rfl outcomes c' now attempt hrun htimeout hgave
    obtain ⟨hgot, -⟩ := Progress.receiveAll attempts (c := { c with intake := d.intake true })
      (d.progress_intake true clock)
    rw [hrun, List.nil_append] at hgot
    exact (hgot.pause (le_add_of_nonneg_right attempt.pause_nonneg)).nothingMore htimeout hgave

/-- A frame in two pieces, cut inside the empty line after its header block. -/
def twoPieces : Delivery where
  pieces :=
    [(1, [67, 111, 110, 116, 101, 110, 116, 45, 76, 101, 110, 103, 116, 104, 58, 50, 13, 10]),
    (3, [13, 10, 123, 125])]
  filled := by decide
  ending := none

/-- Two attempts, the second of which has its deadline when the second piece arrives. -/
def twoAttempts : List Attempt := [⟨0, by decide, some 2⟩, ⟨0, by decide, some 1⟩]

/-- A channel on which a stream comes in. -/
def channelOn (i : Intake ℚ) : Channel ℚ := { intake := i, readTimeout := 5 }

theorem receiveAll_prefix_whole_twoPieces :
    (Channel.receiveAll twoAttempts 0 (channelOn (twoPieces.intake true))).1.map gaveUp =
        [true, false] ∧
      got (Channel.receiveAll twoAttempts 0 (channelOn (twoPieces.intake true))).1 <+:
        (Channel.receiveAll twoAttempts 0 (channelOn (wholeIntake twoPieces.bytes))).1 ∧
      NothingMore 0 [] (arrivedBefore 2 twoPieces.pending) := by
  have h := receiveAll_prefix_whole twoPieces true (channelOn (twoPieces.intake true)) 0
  refine ⟨by decide +kernel, (h twoAttempts).1 (channelOn (twoPieces.intake true)) 0 twoAttempts
    le_rfl, ?_⟩
  have hfirst := ((h []).2 rfl [] (channelOn (twoPieces.intake true)) 0 ⟨0, by decide, some 2⟩ rfl
    (by decide) (by decide +kernel)).2
  simpa using hfirst

end ClassOrder
