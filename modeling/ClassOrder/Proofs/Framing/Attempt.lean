import ClassOrder.Channel.Basic
import ClassOrder.Proofs.Framing.Stream

/-!
# What an attempt comes to

An attempt to receive takes pieces off the front of the line until the bytes it has read settle the
matter, or until something comes between: the time, the end of the stream, or trouble.  Which of
these it is, what the attempt gives and which bytes it keeps are told by the bytes it has read,
whatever pieces they came in.

## Main definitions

* `Fault.IsForeign`, `PieceKind.Foreign` — trouble of another kind than the session's own faults.
* `Interrupts` — what may come between.
* `Receipt.Accounts` — what an attempt gives and keeps, by the bytes that it has read.
* `Intake.Reads` — the bytes that an attempt has read.

## Main results

* `Interrupts.kinds` — which faults may come between.
* `receiveFrom_accounts` — **every attempt accounts for the bytes that it has read.**
* `Intake.receive_accounts` — the same of an intake.
-/

namespace ClassOrder

variable {τ : Type}

/-- The fault is not one of the session's own. -/
def Fault.IsForeign (fault : Fault τ) : Prop := fault.kind.isOwn = false

/-- Trouble that stands in line is foreign. -/
def PieceKind.Foreign : PieceKind τ → Prop
  | trouble fault _ => fault.IsForeign
  | data _ | close => True

/-- What may come between while an attempt that has taken the pieces `gone` off the line has no
whole frame yet, only the bytes `kept`. -/
inductive Interrupts [Timeline τ] (m : Manner) (timeout : τ) (gone : List (Piece τ))
    (kept : Bytes) : Fault τ → Prop where
  /-- Nothing more comes in time. -/
  | late (htimed : m.timed = true) : Interrupts m timeout gone kept (.noData timeout)
  /-- The system refuses to wait for as long as there is left. -/
  | refused {left : τ} {refusal : Refusal} (htimed : m.timed = true)
      (hrefusal : Timeline.refusal? left = some refusal) :
    Interrupts m timeout gone kept (refusalFault refusal)
  /-- This end of the stream is closed. -/
  | closed (hclosed : m.closed = true) : Interrupts m timeout gone kept (closedFault m.timed)
  /-- The stream has ended, or looks as if it had. -/
  | ended : Interrupts m timeout gone kept (endFault kept)
  /-- Trouble came up the line. -/
  | trouble {piece : Piece τ} {fault : Fault τ} {whileWaiting : Bool} (hpiece : piece ∈ gone)
      (hkind : piece.kind = .trouble fault whileWaiting) : Interrupts m timeout gone kept
        (if m.timed && whileWaiting then waitingFault fault else readingFault m.timed fault)

/-- Trouble that is foreign is a lost connection, or it stays foreign. -/
theorem lost_or_foreign_of_trouble {fault : Fault τ} (h : fault.IsForeign)
    (timed whileWaiting : Bool) :
    let met := if timed && whileWaiting then waitingFault fault else readingFault timed fault
    met.kind = .connectionLost ∨ met.IsForeign := by
  unfold waitingFault readingFault
  dsimp only
  split
  · split
    · exact .inl rfl
    · exact .inr h
  · split
    · split
      · exact .inl rfl
      · exact .inr h
    · split
      · exact .inl rfl
      · exact .inr h

/-- What comes between is the end of the stream inside a frame, a lost connection, the end of the
time, or foreign trouble, if the trouble in line is foreign. -/
theorem Interrupts.kinds [Timeline τ] {m : Manner} {timeout : τ} {gone : List (Piece τ)}
    {kept : Bytes} {fault : Fault τ} (h : Interrupts m timeout gone kept fault)
    (hgone : ∀ piece ∈ gone, piece.kind.Foreign) :
    fault = .framing .truncated ∨ fault.kind = .connectionLost ∨ fault.kind = .timeout ∨
      fault.IsForeign := by
  cases h with
  | late => exact .inr (.inr (.inl rfl))
  | @refused left refusal =>
    cases refusal with
    | tooLong => exact .inr (.inr (.inr rfl))
    | notNumber => exact .inr (.inl rfl)
  | closed =>
    unfold closedFault
    split <;> exact .inr (.inl rfl)
  | ended =>
    unfold endFault
    split
    · exact .inr (.inl rfl)
    · exact .inl rfl
  | trouble hpiece hkind =>
    have hforeign := hgone _ hpiece
    rw [hkind] at hforeign
    rcases lost_or_foreign_of_trouble hforeign m.timed _ with hlost | hstays
    · exact .inr (.inl hlost)
    · exact .inr (.inr (.inr hstays))

/-- What an attempt gives and keeps that has taken the pieces `gone` off the line and has read the
bytes `read`, those of earlier attempts among them. -/
def Receipt.Accounts [Timeline τ] (m : Manner) (timeout : τ) (gone : List (Piece τ)) (read : Bytes)
    (r : Receipt τ) : Prop :=
  match scan read with
  | .whole body rest => r.outcome = (readBody body).mapError .ofBody ∧ r.buffer = rest
  | .faulty fault kept => r.outcome = .error (.framing fault) ∧ r.buffer = kept
  | .wanting kept =>
    (∃ fault, r.outcome = .error fault ∧ Interrupts m timeout gone kept fault) ∧ r.buffer = kept

/-- What is wrong with a body is all that a frame fails with. -/
theorem fault_of_body {body : Bytes} {fault : Fault τ}
    (h : (readBody body).mapError .ofBody = .error fault) :
    (∃ cause, readBody body = .error (.decode cause) ∧ fault = .decode cause) ∨
      fault = .integerTooLong := by
  cases hbody : readBody body with
  | ok message =>
    rw [hbody] at h
    cases h
  | error cause =>
    rw [hbody] at h
    cases h
    cases cause with
    | decode cause => exact .inl ⟨cause, rfl, rfl⟩
    | integerTooLong => exact .inr rfl

variable [Timeline τ]

section

variable {m : Manner} {timeout : τ} {gone : List (Piece τ)} {read kept : Bytes} {r : Receipt τ}

theorem Receipt.Accounts.of_wanting {fault : Fault τ} (h : scan read = .wanting kept)
    (houtcome : r.outcome = .error fault) (hfault : Interrupts m timeout gone kept fault)
    (hbuffer : r.buffer = kept) : r.Accounts m timeout gone read := by
  rw [Accounts, h]
  exact ⟨⟨fault, houtcome, hfault⟩, hbuffer⟩

theorem Interrupts.cons {fault : Fault τ} (h : Interrupts m timeout gone kept fault)
    (piece : Piece τ) : Interrupts m timeout (piece :: gone) kept fault := by
  cases h with
  | late htimed => exact .late htimed
  | refused htimed hrefusal => exact .refused htimed hrefusal
  | closed hclosed => exact .closed hclosed
  | ended => exact .ended
  | trouble hpiece hkind => exact .trouble (List.mem_cons_of_mem _ hpiece) hkind

/-- Empty lines at the start of what was read make no difference, and neither does one more piece
that was taken. -/
theorem Receipt.Accounts.cons {xs ys : Bytes} (h : r.Accounts m timeout gone xs)
    (hskip : skipLineEnds xs = skipLineEnds ys) (piece : Piece τ) :
    r.Accounts m timeout (piece :: gone) ys := by
  unfold Accounts at h ⊢
  rw [← scan_congr hskip]
  split
  · next hscan => rwa [hscan] at h
  · next hscan => rwa [hscan] at h
  · next kept hscan =>
    rw [hscan] at h
    obtain ⟨⟨fault, houtcome, hfault⟩, hbuffer⟩ := h
    exact ⟨⟨fault, houtcome, hfault.cons piece⟩, hbuffer⟩

end

theorem Settlement.accounts {m : Manner} {patience : Patience τ} {clock : τ} {buffer : Bytes}
    {pending : List (Piece τ)} {r : Receipt τ} (h : Settlement m patience clock buffer pending r) :
    r.Accounts m patience.timeout [] buffer := by
  cases h with
  | whole hscan | faulty hscan =>
    rw [Receipt.Accounts, hscan]
    exact ⟨rfl, rfl⟩
  | late hscan htimed => exact .of_wanting hscan rfl (.late htimed) rfl
  | refused hscan htimed _ hrefusal => exact .of_wanting hscan rfl (.refused htimed hrefusal) rfl
  | closed hscan _ _ hclosed => exact .of_wanting hscan rfl (.closed hclosed) rfl

/-- A read that reads nothing takes at most a piece without bytes off the line. -/
theorem Unfilled.accounts {m : Manner} {patience : Patience τ} {clock : τ} {buffer kept : Bytes}
    {pending : List (Piece τ)} {r : Receipt τ} (hscan : scan buffer = .wanting kept)
    (h : Unfilled m patience clock kept pending r) :
    ∃ gone, pending = gone ++ r.pending ∧ gone.flatMap Piece.bytes = [] ∧
      r.Accounts m patience.timeout gone buffer := by
  cases h with
  | late htimed => exact ⟨[], rfl, rfl, .of_wanting hscan rfl (.late htimed) rfl⟩
  | exhausted | ended => exact ⟨[], rfl, rfl, .of_wanting hscan rfl .ended rfl⟩
  | @blank piece rest arrived _ hkind =>
    refine ⟨[piece], rfl, ?_, .of_wanting hscan rfl .ended rfl⟩
    rw [List.flatMap_singleton, Piece.bytes_of_data hkind]
  | @trouble piece rest arrived fault whileWaiting _ hkind =>
    refine ⟨[piece], rfl, ?_,
      .of_wanting hscan rfl (.trouble (List.mem_singleton_self _) hkind) rfl⟩
    rw [List.flatMap_singleton, Piece.bytes_of_trouble hkind]

theorem receiveFrom_of_whole {buffer body rest : Bytes} (h : scan buffer = .whole body rest)
    (m : Manner) (patience : Patience τ) (clock : τ) (pending : List (Piece τ)) :
    receiveFrom m patience clock buffer pending =
      ⟨(readBody body).mapError .ofBody, pending, rest, clock⟩ := by
  cases pending <;> simp only [receiveFrom, settle, h]

theorem receiveFrom_of_faulty {buffer kept : Bytes} {fault : FramingFault}
    (h : scan buffer = .faulty fault kept) (m : Manner) (patience : Patience τ) (clock : τ)
    (pending : List (Piece τ)) :
    receiveFrom m patience clock buffer pending =
      ⟨.error (.framing fault), pending, kept, clock⟩ := by
  cases pending <;> simp only [receiveFrom, settle, h]

/-- What is read is told by the bytes up to empty lines at the start. -/
theorem receiveFrom_congr {xs ys : Bytes} (h : skipLineEnds xs = skipLineEnds ys) (m : Manner)
    (patience : Patience τ) (clock : τ) (pending : List (Piece τ)) :
    receiveFrom m patience clock xs pending = receiveFrom m patience clock ys pending := by
  cases pending <;> simp only [receiveFrom, settle, scan_congr h]

/-- **Every attempt accounts for the bytes that it has read**: by induction on the line, where a
piece that is not enough by itself is read together with what follows. -/
theorem receiveFrom_accounts (m : Manner) (patience : Patience τ) (clock : τ) (buffer : Bytes)
    (pending : List (Piece τ)) :
    let r := receiveFrom m patience clock buffer pending
    ∃ gone, pending = gone ++ r.pending ∧
      r.Accounts m patience.timeout gone (buffer ++ gone.flatMap Piece.bytes) := by
  refine receiveFrom_induction (P := fun _ buffer pending r => ∃ gone, pending = gone ++ r.pending ∧
    r.Accounts m patience.timeout gone (buffer ++ gone.flatMap Piece.bytes)) ?_ ?_ ?_ clock buffer
    pending
  · intro clock buffer pending r hsettled
    refine ⟨[], by rw [hsettled.pending_eq, List.nil_append], ?_⟩
    rw [List.flatMap_nil, List.append_nil]
    exact hsettled.accounts
  · intro clock buffer kept pending r hmore hunfilled
    obtain ⟨gone, hpending, hnone, haccounts⟩ := hunfilled.accounts hmore.scan_eq
    exact ⟨gone, hpending, by rwa [hnone, List.append_nil]⟩
  · rintro clock buffer kept piece arrived rest r hmore - - ⟨gone, hrest, haccounts⟩
    refine ⟨piece :: gone, by rw [List.cons_append, ← hrest], haccounts.cons ?_ piece⟩
    -- the empty lines dropped before more was read are dropped in any case
    rw [List.flatMap_cons, List.append_assoc, scan_eq_wanting hmore.scan_eq, skipLineEnds_append]

/-- An attempt that led from the first intake to the second one has read the bytes `read`: those
left of earlier attempts and those of the pieces that it took off the line. -/
def Intake.Reads (read : Bytes) (i j : Intake τ) : Prop :=
  ∃ gone, i.inlet.pending = gone ++ j.inlet.pending ∧ i.buffer ++ gone.flatMap Piece.bytes = read

/-- **Every attempt with a time that can be counted accounts for the bytes that it has read.** -/
theorem Intake.receive_accounts (i : Intake τ) {timeout : τ} (hfits : Timeline.fits timeout = true)
    (clock : τ) :
    ∃ (gone : List (Piece τ)) (r : Receipt τ),
      i.receive timeout clock =
        (r.outcome, ⟨{ i.inlet with pending := r.pending }, r.buffer⟩, r.clock) ∧
      i.inlet.pending = gone ++ r.pending ∧
      r.Accounts ⟨i.inlet.timed, i.inlet.closed⟩ timeout gone
        (i.buffer ++ gone.flatMap Piece.bytes) := by
  obtain ⟨gone, hpending, haccounts⟩ := receiveFrom_accounts ⟨i.inlet.timed, i.inlet.closed⟩
    ⟨clock + timeout, timeout⟩ clock i.buffer i.inlet.pending
  exact ⟨gone, _, by rw [Intake.receive, if_pos hfits], hpending, haccounts⟩

omit [Timeline τ] in
/-- What was read is told by what is left. -/
theorem Intake.Reads.unique {xs ys : Bytes} {i j : Intake τ} (hxs : i.Reads xs j)
    (hys : i.Reads ys j) : xs = ys := by
  obtain ⟨gone, hpending, rfl⟩ := hxs
  obtain ⟨gone', hpending', rfl⟩ := hys
  rw [List.append_cancel_right (hpending.symm.trans hpending')]

end ClassOrder
