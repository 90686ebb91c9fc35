import ClassOrder.Channel.Receive
import ClassOrder.Proofs.Framing.Scan
import Mathlib.Data.Nat.Notation

/-!
# One read after the other

Receiving looks at the bytes that it has and reads more as long as they hold no whole frame.  A
read that does not end the matter takes a piece off the line and leaves at least one byte more in
the buffer, so there are at most as many of these reads as there are pieces, and one more that ends
the matter.  What holds of every attempt is proved along these reads: of the bytes that settle the
matter, of a read that reads nothing, and of one that reads a piece.

## Main definitions

* `Settlement` — what the bytes at hand come to without reading more.
* `fill` — one read.
* `Unfilled` — what a read comes to that reads nothing.
* `Fills` — receiving, read by read, and the number of reads.
* `Intake.Filled` — the same of an intake.

## Main results

* `receiveFrom_eq_fill` — receiving goes on after a read with what it led to.
* `receiveFrom_fills`, `Intake.receive_filled` — **receiving takes one read more than there are
  pieces at most.**
* `receiveFrom_induction` — **what holds of every attempt is proved along its reads.**
* `Fills.unique` — the number of reads and what they come to are no others.
* `receiveFrom_cons` — a piece that is there is read.
-/

namespace ClassOrder

variable {τ : Type}

/-! ### Pieces -/

/-- The bytes of a piece in line. -/
def Piece.bytes (piece : Piece τ) : Bytes :=
  match piece.kind with
  | .data bytes => bytes
  | .close | .trouble .. => []

theorem Piece.bytes_of_data {piece : Piece τ} {bytes : Bytes} (h : piece.kind = .data bytes) :
    piece.bytes = bytes := by
  rw [Piece.bytes, h]

theorem Piece.bytes_of_trouble {piece : Piece τ} {fault : Fault τ} {whileWaiting : Bool}
    (h : piece.kind = .trouble fault whileWaiting) : piece.bytes = [] := by
  rw [Piece.bytes, h]

/-! ### Settling -/

variable [Timeline τ]

/-- What the bytes at hand come to without reading more: a frame, a faulty header block, or that
nothing more can be read. -/
inductive Settlement (m : Manner) (patience : Patience τ) (clock : τ) (buffer : Bytes)
    (pending : List (Piece τ)) : Receipt τ → Prop where
  | whole {body rest : Bytes} (hscan : scan buffer = .whole body rest) :
    Settlement m patience clock buffer pending
      ⟨(readBody body).mapError .ofBody, pending, rest, clock⟩
  | faulty {fault : FramingFault} {kept : Bytes} (hscan : scan buffer = .faulty fault kept) :
    Settlement m patience clock buffer pending ⟨.error (.framing fault), pending, kept, clock⟩
  /-- The time is over. -/
  | late {kept : Bytes} (hscan : scan buffer = .wanting kept) (htimed : m.timed = true)
      (hover : patience.deadline - clock ≤ 0) :
    Settlement m patience clock buffer pending
      ⟨.error (.noData patience.timeout), pending, kept, clock⟩
  /-- The system refuses to wait until the time is over. -/
  | refused {kept : Bytes} {refusal : Refusal} (hscan : scan buffer = .wanting kept)
      (htimed : m.timed = true) (htime : ¬ patience.deadline - clock ≤ 0)
      (hrefusal : Timeline.refusal? (patience.deadline - clock) = some refusal) :
    Settlement m patience clock buffer pending
      ⟨.error (refusalFault refusal), pending, kept, clock⟩
  /-- This end of the stream is closed. -/
  | closed {kept : Bytes} (hscan : scan buffer = .wanting kept)
      (htime : m.timed = true → ¬ patience.deadline - clock ≤ 0)
      (hwaits : refused? m patience clock = none) (hclosed : m.closed = true) :
    Settlement m patience clock buffer pending
      ⟨.error (closedFault m.timed), pending, kept, clock⟩

/-- The bytes `kept` are not enough, and more can be read. -/
structure Unsettled (m : Manner) (patience : Patience τ) (clock : τ) (buffer kept : Bytes) :
    Prop where
  scan_eq : scan buffer = .wanting kept
  isOpen : m.closed = false
  inTime : m.timed = true → ¬ patience.deadline - clock ≤ 0
  waits : refused? m patience clock = none

section

variable {m : Manner} {patience : Patience τ} {clock : τ} {buffer kept : Bytes}
  {pending : List (Piece τ)} {r : Receipt τ}

theorem over_eq_false (h : m.timed = true → ¬ patience.deadline - clock ≤ 0) :
    (m.timed && decide (patience.deadline - clock ≤ 0)) = false := by
  rw [Bool.and_eq_false_imp]
  simpa using h

theorem refused?_eq_some_iff {refusal : Refusal} :
    refused? m patience clock = some refusal ↔
      m.timed = true ∧ Timeline.refusal? (patience.deadline - clock) = some refusal := by
  rw [refused?]
  split <;> simp_all

theorem settle_eq_error_iff :
    settle m patience clock buffer pending = .error r ↔
      Settlement m patience clock buffer pending r := by
  constructor
  · intro h
    unfold settle at h
    split at h
    · next hscan =>
      cases h
      exact .whole hscan
    · next hscan =>
      cases h
      exact .faulty hscan
    · next hscan =>
      split at h
      · next hover =>
        cases h
        obtain ⟨htimed, hover⟩ := Bool.and_eq_true_iff.mp hover
        exact .late hscan htimed (of_decide_eq_true hover)
      · next hover =>
        have htime : m.timed = true → ¬ patience.deadline - clock ≤ 0 := by simpa using hover
        split at h
        · next hrefused =>
          cases h
          obtain ⟨htimed, hrefusal⟩ := refused?_eq_some_iff.mp hrefused
          exact .refused hscan htimed (htime htimed) hrefusal
        · next hwaits =>
          split at h
          · next hclosed =>
            cases h
            exact .closed hscan htime hwaits hclosed
          · cases h
  · rintro (hscan | hscan | ⟨hscan, htimed, hover⟩ | ⟨hscan, htimed, htime, hrefusal⟩ |
      ⟨hscan, htime, hwaits, hclosed⟩)
    · simp only [settle, hscan]
    · simp only [settle, hscan]
    · simp only [settle, hscan, htimed, hover, decide_true, Bool.and_true, if_true]
    · simp only [settle, hscan, over_eq_false fun _ => htime,
        refused?_eq_some_iff.mpr ⟨htimed, hrefusal⟩, Bool.false_eq_true, if_false]
    · simp only [settle, hscan, over_eq_false htime, hwaits, hclosed, Bool.false_eq_true, if_false,
        if_true]

theorem settle_eq_ok_iff :
    settle m patience clock buffer pending = .ok kept ↔
      Unsettled m patience clock buffer kept := by
  constructor
  · intro h
    unfold settle at h
    constructor <;> grind
  · rintro ⟨hscan, hopen, htime, hwaits⟩
    simp only [settle, hscan, over_eq_false htime, hwaits, hopen, Bool.false_eq_true, if_false]

/-- Settling leaves the line as it is. -/
theorem Settlement.pending_eq (h : Settlement m patience clock buffer pending r) :
    r.pending = pending := by
  cases h <;> rfl

/-- Settling takes no time. -/
theorem Settlement.clock_eq (h : Settlement m patience clock buffer pending r) :
    r.clock = clock := by
  cases h <;> rfl

end

/-! ### Reads -/

/-- One read, when the bytes `kept` are not enough: the time at which it ended, the bytes with those
that it read, and what is left in line; or what receiving comes to if it read none. -/
def fill (m : Manner) (patience : Patience τ) (clock : τ) (kept : Bytes) :
    List (Piece τ) → Except (Receipt τ) (τ × Bytes × List (Piece τ))
  | [] =>
    if m.timed then
      .error ⟨.error (.noData patience.timeout), [], kept, clock + (patience.deadline - clock)⟩
    else .error ⟨.error (endFault kept), [], kept, clock⟩
  | piece :: rest =>
    match arrival? m patience clock piece with
    | none =>
      .error ⟨.error (.noData patience.timeout), piece :: rest, kept,
        clock + (patience.deadline - clock)⟩
    | some clock =>
      match piece.kind with
      | .data bytes =>
        if bytes.isEmpty then .error ⟨.error (endFault kept), rest, kept, clock⟩
        else .ok (clock, kept ++ bytes, rest)
      | .close => .error ⟨.error (endFault kept), piece :: rest, kept, clock⟩
      | .trouble fault whileWaiting =>
        let fault :=
          if m.timed && whileWaiting then waitingFault fault else readingFault m.timed fault
        .error ⟨.error fault, rest, kept, clock⟩

/-- What a read comes to that reads nothing, when the bytes `kept` are not enough. -/
inductive Unfilled (m : Manner) (patience : Patience τ) (clock : τ) (kept : Bytes) :
    List (Piece τ) → Receipt τ → Prop where
  /-- Nothing comes in time. -/
  | late {pending : List (Piece τ)} (htimed : m.timed = true)
      (hlate : ∀ piece ∈ pending.head?, arrival? m patience clock piece = none) :
    Unfilled m patience clock kept pending
      ⟨.error (.noData patience.timeout), pending, kept, clock + (patience.deadline - clock)⟩
  /-- What is no pipe has nothing more. -/
  | exhausted (hplain : m.timed = false) :
    Unfilled m patience clock kept [] ⟨.error (endFault kept), [], kept, clock⟩
  /-- The stream has ended, for good. -/
  | ended {piece : Piece τ} {rest : List (Piece τ)} {arrived : τ}
      (harrival : arrival? m patience clock piece = some arrived) (hkind : piece.kind = .close) :
    Unfilled m patience clock kept (piece :: rest)
      ⟨.error (endFault kept), piece :: rest, kept, arrived⟩
  /-- A piece without bytes looks like the end of the stream. -/
  | blank {piece : Piece τ} {rest : List (Piece τ)} {arrived : τ}
      (harrival : arrival? m patience clock piece = some arrived) (hkind : piece.kind = .data []) :
    Unfilled m patience clock kept (piece :: rest) ⟨.error (endFault kept), rest, kept, arrived⟩
  | trouble {piece : Piece τ} {rest : List (Piece τ)} {arrived : τ} {fault : Fault τ}
      {whileWaiting : Bool} (harrival : arrival? m patience clock piece = some arrived)
      (hkind : piece.kind = .trouble fault whileWaiting) :
    Unfilled m patience clock kept (piece :: rest)
      ⟨.error (if m.timed && whileWaiting then waitingFault fault
        else readingFault m.timed fault), rest, kept, arrived⟩

/-- Receiving, read by read: the number of reads, and what they come to. -/
inductive Fills (m : Manner) (patience : Patience τ) :
    τ → Bytes → List (Piece τ) → (reads : ℕ) → Receipt τ → Prop where
  /-- Nothing more is to be read. -/
  | settled {clock : τ} {buffer : Bytes} {pending : List (Piece τ)} {r : Receipt τ} :
    settle m patience clock buffer pending = .error r → Fills m patience clock buffer pending 0 r
  /-- A read reads nothing. -/
  | stopped {clock : τ} {buffer kept : Bytes} {pending : List (Piece τ)} {r : Receipt τ} :
    settle m patience clock buffer pending = .ok kept →
    fill m patience clock kept pending = .error r → Fills m patience clock buffer pending 1 r
  /-- A read reads something, and what comes after it is told by what it led to. -/
  | more {clock clock₁ : τ} {buffer kept buffer₁ : Bytes} {pending pending₁ : List (Piece τ)}
      {reads : ℕ} {r : Receipt τ} :
    settle m patience clock buffer pending = .ok kept →
    fill m patience clock kept pending = .ok (clock₁, buffer₁, pending₁) →
    Fills m patience clock₁ buffer₁ pending₁ reads r →
    Fills m patience clock buffer pending (reads + 1) r

section

variable {m : Manner} {patience : Patience τ} {clock : τ} {buffer kept : Bytes}
  {pending : List (Piece τ)} {r : Receipt τ}

theorem timed_of_arrival?_eq_none {piece : Piece τ}
    (h : arrival? m patience clock piece = none) : m.timed = true := by
  unfold arrival? at h
  grind

theorem unfilled_of_fill_error (h : fill m patience clock kept pending = .error r) :
    Unfilled m patience clock kept pending r := by
  cases pending with
  | nil =>
    rw [fill] at h
    split at h
    · next htimed =>
      cases h
      exact .late htimed (by simp)
    · next hplain =>
      cases h
      exact .exhausted (by simpa using hplain)
  | cons piece rest =>
    rw [fill] at h
    cases harrival : arrival? m patience clock piece with
    | none =>
      rw [harrival] at h
      cases h
      exact .late (timed_of_arrival?_eq_none harrival) (by simpa using harrival)
    | some arrived =>
      rw [harrival] at h
      dsimp only at h
      split at h
      · next bytes hkind =>
        split at h
        · next hnil =>
          cases h
          exact .blank harrival (List.isEmpty_iff.mp hnil ▸ hkind)
        · cases h
      · next hkind =>
        cases h
        exact .ended harrival hkind
      · next hkind =>
        cases h
        exact .trouble harrival hkind

/-- A read that does not end the matter takes a piece off the line, which has a byte at least. -/
theorem fill_eq_ok {clock₁ : τ} {buffer₁ : Bytes} {pending₁ : List (Piece τ)}
    (h : fill m patience clock kept pending = .ok (clock₁, buffer₁, pending₁)) :
    ∃ piece, pending = piece :: pending₁ ∧ arrival? m patience clock piece = some clock₁ ∧
      piece.bytes ≠ [] ∧ buffer₁ = kept ++ piece.bytes := by
  cases pending with
  | nil =>
    rw [fill] at h
    split at h <;> cases h
  | cons piece rest =>
    rw [fill] at h
    cases harrival : arrival? m patience clock piece with
    | none =>
      rw [harrival] at h
      cases h
    | some arrived =>
      rw [harrival] at h
      dsimp only at h
      split at h
      · next bytes hkind =>
        split at h
        · cases h
        · next hne =>
          cases h
          refine ⟨piece, rfl, harrival, ?_, by rw [Piece.bytes_of_data hkind]⟩
          rw [Piece.bytes_of_data hkind]
          simpa using hne
      · cases h
      · cases h

/-- **Receiving goes on after a read with what it led to.** -/
theorem receiveFrom_eq_fill (m : Manner) (patience : Patience τ) (clock : τ) (buffer : Bytes)
    (pending : List (Piece τ)) :
    receiveFrom m patience clock buffer pending =
      match settle m patience clock buffer pending with
      | .error r => r
      | .ok kept =>
        match fill m patience clock kept pending with
        | .error r => r
        | .ok (clock, buffer, pending) => receiveFrom m patience clock buffer pending := by
  cases pending with
  | nil =>
    rw [receiveFrom]
    cases settle m patience clock buffer [] with
    | error r => rfl
    | ok kept =>
      simp only [fill]
      split <;> rfl
  | cons piece rest =>
    rw [receiveFrom]
    cases settle m patience clock buffer (piece :: rest) with
    | error r => rfl
    | ok kept =>
      simp only [fill]
      cases arrival? m patience clock piece with
      | none => rfl
      | some arrived =>
        obtain ⟨time, kind⟩ := piece
        cases kind with
        | data bytes =>
          dsimp only
          split <;> rfl
        | close => rfl
        | trouble fault whileWaiting => rfl

/-- **Receiving takes one read more than there are pieces at most**: by induction on the line, off
which every read takes a piece unless it is the last one. -/
theorem receiveFrom_fills (m : Manner) (patience : Patience τ) (clock : τ) (buffer : Bytes)
    (pending : List (Piece τ)) :
    ∃ reads ≤ pending.length + 1, Fills m patience clock buffer pending reads
      (receiveFrom m patience clock buffer pending) := by
  induction pending generalizing clock buffer with
  | nil =>
    rw [receiveFrom_eq_fill]
    cases hsettle : settle m patience clock buffer [] with
    | error r => exact ⟨0, Nat.zero_le _, .settled hsettle⟩
    | ok kept =>
      dsimp only
      cases hfill : fill m patience clock kept [] with
      | error r => exact ⟨1, Nat.le_refl _, .stopped hsettle hfill⟩
      | ok led =>
        -- off an empty line no piece is taken
        obtain ⟨piece, hpending, -⟩ := fill_eq_ok hfill
        cases hpending
  | cons piece rest ih =>
    rw [receiveFrom_eq_fill]
    cases hsettle : settle m patience clock buffer (piece :: rest) with
    | error r => exact ⟨0, Nat.zero_le _, .settled hsettle⟩
    | ok kept =>
      dsimp only
      cases hfill : fill m patience clock kept (piece :: rest) with
      | error r => exact ⟨1, by simp, .stopped hsettle hfill⟩
      | ok led =>
        obtain ⟨arrived, buffer₁, pending₁⟩ := led
        obtain ⟨piece', hpending, -⟩ := fill_eq_ok hfill
        cases hpending
        obtain ⟨reads, hle, hrest⟩ := ih arrived buffer₁
        exact ⟨reads + 1, Nat.succ_le_succ hle, .more hsettle hfill hrest⟩

/-- **What holds of every attempt is proved along its reads**: it holds of what settling comes to
and of a read that reads nothing, and a read that reads a piece keeps it. -/
theorem receiveFrom_induction {P : τ → Bytes → List (Piece τ) → Receipt τ → Prop}
    (settled : ∀ {clock buffer pending r}, Settlement m patience clock buffer pending r →
      P clock buffer pending r)
    (stopped : ∀ {clock buffer kept pending r}, Unsettled m patience clock buffer kept →
      Unfilled m patience clock kept pending r → P clock buffer pending r)
    (more : ∀ {clock buffer kept piece arrived rest r}, Unsettled m patience clock buffer kept →
      arrival? m patience clock piece = some arrived → piece.bytes ≠ [] →
      P arrived (kept ++ piece.bytes) rest r → P clock buffer (piece :: rest) r)
    (clock : τ) (buffer : Bytes) (pending : List (Piece τ)) :
    P clock buffer pending (receiveFrom m patience clock buffer pending) := by
  obtain ⟨reads, -, hfills⟩ := receiveFrom_fills m patience clock buffer pending
  generalize receiveFrom m patience clock buffer pending = r at hfills ⊢
  induction hfills with
  | settled hsettle => exact settled (settle_eq_error_iff.mp hsettle)
  | stopped hsettle hfill =>
    exact stopped (settle_eq_ok_iff.mp hsettle) (unfilled_of_fill_error hfill)
  | more hsettle hfill hrest ih =>
    obtain ⟨piece, rfl, harrival, hfilled, rfl⟩ := fill_eq_ok hfill
    exact more (settle_eq_ok_iff.mp hsettle) harrival hfilled ih

/-- The number of reads and what they come to are no others. -/
theorem Fills.unique {reads reads' : ℕ} {r r' : Receipt τ}
    (h : Fills m patience clock buffer pending reads r)
    (h' : Fills m patience clock buffer pending reads' r') : reads = reads' ∧ r = r' := by
  induction h generalizing reads' with
  | settled hsettle =>
    cases h' with
    | settled hsettle' => exact ⟨rfl, Except.error.inj (hsettle.symm.trans hsettle')⟩
    | stopped hsettle' => cases hsettle.symm.trans hsettle'
    | more hsettle' => cases hsettle.symm.trans hsettle'
  | stopped hsettle hfill =>
    cases h' with
    | settled hsettle' => cases hsettle.symm.trans hsettle'
    | stopped hsettle' hfill' =>
      cases hsettle.symm.trans hsettle'
      exact ⟨rfl, Except.error.inj (hfill.symm.trans hfill')⟩
    | more hsettle' hfill' =>
      cases hsettle.symm.trans hsettle'
      cases hfill.symm.trans hfill'
  | more hsettle hfill hrest ih =>
    cases h' with
    | settled hsettle' => cases hsettle.symm.trans hsettle'
    | stopped hsettle' hfill' =>
      cases hsettle.symm.trans hsettle'
      cases hfill.symm.trans hfill'
    | more hsettle' hfill' hrest' =>
      cases hsettle.symm.trans hsettle'
      cases hfill.symm.trans hfill'
      obtain ⟨rfl, rfl⟩ := ih hrest'
      exact ⟨rfl, rfl⟩

/-- **A piece that is there is read**, if more is to be read. -/
theorem receiveFrom_cons {piece : Piece τ} {part : Bytes} {arrived : τ}
    (h : Unsettled m patience clock buffer kept)
    (harrival : arrival? m patience clock piece = some arrived) (hkind : piece.kind = .data part)
    (hfilled : part ≠ []) (rest : List (Piece τ)) :
    receiveFrom m patience clock buffer (piece :: rest) =
      receiveFrom m patience arrived (kept ++ part) rest := by
  have hne : part.isEmpty = false := by simpa using hfilled
  simp only [receiveFrom, settle_eq_ok_iff.mpr h, harrival, hkind, hne, Bool.false_eq_true,
    if_false]

end

namespace Intake

/-- Receiving, and the number of reads that it takes; none if the time cannot be counted. -/
inductive Filled (timeout clock : τ) (i : Intake τ) :
    (reads : ℕ) → Except (Fault τ) Message × Intake τ × τ → Prop where
  | uncounted (hfits : ¬ Timeline.fits timeout = true) :
    Filled timeout clock i 0 (.error .timeTooLong, i, clock)
  | counted (hfits : Timeline.fits timeout = true) {reads : ℕ} {r : Receipt τ}
    (hfills : Fills ⟨i.inlet.timed, i.inlet.closed⟩ ⟨clock + timeout, timeout⟩ clock i.buffer
      i.inlet.pending reads r) : Filled timeout clock i reads
        (r.outcome, ⟨{ i.inlet with pending := r.pending }, r.buffer⟩, r.clock)

/-- **Receiving takes one read more than there are pieces at most.** -/
theorem receive_filled (i : Intake τ) (timeout clock : τ) :
    ∃ reads ≤ i.inlet.pending.length + 1,
      i.Filled timeout clock reads (i.receive timeout clock) := by
  rw [receive]
  split
  · next hfits =>
    obtain ⟨reads, hle, hfills⟩ := receiveFrom_fills ⟨i.inlet.timed, i.inlet.closed⟩
      ⟨clock + timeout, timeout⟩ clock i.buffer i.inlet.pending
    exact ⟨reads, hle, .counted hfits hfills⟩
  · next hfits => exact ⟨0, Nat.zero_le _, .uncounted hfits⟩

end Intake

end ClassOrder
