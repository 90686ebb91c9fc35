import ClassOrder.Channel.Basic
import ClassOrder.Proofs.Framing.Fills
import Mathlib.Logic.Function.Iterate

/-!
# Reading a stream in pieces

A stream comes in pieces, each at a time of its own, and an attempt to receive reads some of them
and stops.  It stops for one of three reasons: the bytes it has settle the matter, nothing more
comes in time, or the stream has ended.  What the attempt gives is then told by the bytes alone.

## Main definitions

* `inLine` — what stands in line of the pieces of a stream.
* `nextOutcome`, `afterNext`, `outcomesOf` — what the bytes of a stream say to its reader.
* `Reading`, `Stopping` — the pieces that an attempt reads, and why it stops.

## Main results

* `receiveFrom_cases` — an attempt reads some pieces and stops.
* `Reading.skipLineEnds_eq` — reading loses nothing but empty lines.
* `Stopping.faithful` — an attempt gives what the bytes say, or gives up.
-/

namespace ClassOrder

variable {τ : Type}

/-! ### Pieces in line -/

/-- The bytes of pieces, one after the other. -/
def joined (pieces : List (τ × Bytes)) : Bytes := pieces.flatMap (·.2)

@[simp] theorem joined_nil : joined ([] : List (τ × Bytes)) = [] := rfl

@[simp] theorem joined_cons (piece : τ × Bytes) (pieces : List (τ × Bytes)) :
    joined (piece :: pieces) = piece.2 ++ joined pieces := rfl

@[simp] theorem joined_append (xs ys : List (τ × Bytes)) :
    joined (xs ++ ys) = joined xs ++ joined ys := List.flatMap_append

/-- What stands in line of the pieces of a stream, and of its end if that has a time. -/
def inLine (pieces : List (τ × Bytes)) (ending : Option τ) : List (Piece τ) :=
  pieces.map (fun piece => ⟨piece.1, .data piece.2⟩) ++ (ending.map (⟨·, .close⟩)).toList

@[simp] theorem inLine_nil_none : inLine ([] : List (τ × Bytes)) none = [] := rfl

@[simp] theorem inLine_nil_some (time : τ) : inLine [] (some time) = [⟨time, .close⟩] := rfl

@[simp] theorem inLine_cons (piece : τ × Bytes) (pieces : List (τ × Bytes)) (ending : Option τ) :
    inLine (piece :: pieces) ending = ⟨piece.1, .data piece.2⟩ :: inLine pieces ending := rfl

theorem inLine_eq_nil {pieces : List (τ × Bytes)} {ending : Option τ}
    (h : inLine pieces ending = []) : pieces = [] ∧ ending = none := by
  cases pieces with
  | nil => cases ending with
    | none => exact ⟨rfl, rfl⟩
    | some time => cases h
  | cons p pieces => cases h

theorem inLine_eq_cons {pieces : List (τ × Bytes)} {ending : Option τ} {piece : Piece τ}
    {rest : List (Piece τ)} (h : inLine pieces ending = piece :: rest) :
    (∃ p left, pieces = p :: left ∧ ⟨p.1, .data p.2⟩ = piece ∧ inLine left ending = rest) ∨
      ∃ time, pieces = [] ∧ ending = some time ∧ ⟨time, .close⟩ = piece ∧ [] = rest := by
  cases pieces with
  | nil => cases ending with
    | none => cases h
    | some time =>
      obtain ⟨hpiece, hrest⟩ := List.cons.inj h
      exact .inr ⟨time, rfl, rfl, hpiece, hrest⟩
  | cons p left =>
    obtain ⟨hpiece, hrest⟩ := List.cons.inj h
    exact .inl ⟨p, left, rfl, hpiece, hrest⟩

/-! ### What the bytes say -/

/-- What the bytes of a stream say to its reader: the next frame, a faulty header block, or the end
of the stream, inside a frame or not. -/
def nextOutcome (bytes : Bytes) : Except (Fault τ) Message :=
  match scan bytes with
  | .whole body _ => (readBody body).mapError .ofBody
  | .faulty fault _ => .error (.framing fault)
  | .wanting kept => .error (endFault kept)

/-- The bytes of a stream after that; a faulty header block stays. -/
def afterNext (bytes : Bytes) : Bytes :=
  match scan bytes with
  | .whole _ rest => rest
  | .faulty _ kept => kept
  | .wanting kept => kept

/-- What the bytes of a stream say to its reader, time after time. -/
def outcomesOf (count : Nat) (bytes : Bytes) : List (Except (Fault τ) Message) :=
  (List.range count).map fun k => nextOutcome (afterNext^[k] bytes)

theorem outcomesOf_succ (count : Nat) (bytes : Bytes) :
    outcomesOf (τ := τ) (count + 1) bytes =
      outcomesOf count bytes ++ [nextOutcome (afterNext^[count] bytes)] := by
  rw [outcomesOf, List.range_succ, List.map_append, List.map_singleton, ← outcomesOf]

/-- A stream says the same at the start, however often it is asked. -/
theorem outcomesOf_prefix {m n : Nat} (h : m ≤ n) (bytes : Bytes) :
    outcomesOf (τ := τ) m bytes <+: outcomesOf n bytes := by
  induction h with
  | refl => exact List.prefix_rfl
  | step _ ih =>
    rw [outcomesOf_succ]
    exact ih.trans (List.prefix_append _ _)

theorem nextOutcome_congr {xs ys : Bytes} (h : skipLineEnds xs = skipLineEnds ys) :
    nextOutcome (τ := τ) xs = nextOutcome ys := by
  simp only [nextOutcome, scan_congr h]

theorem afterNext_congr {xs ys : Bytes} (h : skipLineEnds xs = skipLineEnds ys) :
    afterNext xs = afterNext ys := by
  simp only [afterNext, scan_congr h]

/-- Whether an attempt was given up because the time was over. -/
def gaveUp {α : Type} : Except (Fault τ) α → Bool
  | .error fault => fault.kind = .timeout
  | .ok _ => false

theorem gaveUp_endFault (kept : Bytes) :
    gaveUp (.error (endFault kept) : Except (Fault τ) Message) = false := by
  unfold endFault
  split <;> rfl

theorem gaveUp_closedFault (timed : Bool) :
    gaveUp (.error (closedFault timed) : Except (Fault τ) Message) = false := by
  cases timed <;> rfl

theorem gaveUp_refusalFault (refusal : Refusal) :
    gaveUp (.error (refusalFault refusal) : Except (Fault τ) Message) = false := by
  cases refusal <;> rfl

theorem gaveUp_ofBody (body : Bytes) :
    gaveUp ((readBody body).mapError Fault.ofBody : Except (Fault τ) Message) = false := by
  cases readBody body with
  | error fault => cases fault <;> rfl
  | ok m => rfl

/-- What a stream says is never that the time is over. -/
theorem gaveUp_nextOutcome (bytes : Bytes) : gaveUp (nextOutcome (τ := τ) bytes) = false := by
  unfold nextOutcome
  split
  · exact gaveUp_ofBody _
  · rfl
  · exact gaveUp_endFault _

/-! ### Reading and stopping -/

/-- What an attempt may come to when there were `stream` to read and `left` of it is still in line:
it gave up, or the outcome is what the stream says.  What is left differs from what it should be in
empty lines at most, which may be taken away early. -/
def Receipt.Faithful (stream : Bytes) (r : Receipt τ) (left : Bytes) : Prop :=
  (gaveUp r.outcome = true ∧ skipLineEnds (r.buffer ++ left) = skipLineEnds stream) ∨
    (r.outcome = nextOutcome stream ∧
      skipLineEnds (r.buffer ++ left) = skipLineEnds (afterNext stream))

variable [Timeline τ]

/-- An attempt reads the pieces `gone`, which stand in line ahead of the pieces `left`: the time
and the bytes read and not used, before and afterwards. -/
inductive Reading (m : Manner) (patience : Patience τ) (ending : Option τ)
    (left : List (τ × Bytes)) : τ → Bytes → List (τ × Bytes) → τ → Bytes → Prop where
  | done (clock : τ) (buffer : Bytes) : Reading m patience ending left clock buffer [] clock buffer
  | more {clock clock₁ clock₂ : τ} {buffer kept buffer₂ : Bytes} {piece : τ × Bytes}
      {gone : List (τ × Bytes)} (hscan : scan buffer = .wanting kept)
      (harrival : arrival? m patience clock ⟨piece.1, .data piece.2⟩ = some clock₁)
      (hrest : Reading m patience ending left clock₁ (kept ++ piece.2) gone clock₂ buffer₂) :
      Reading m patience ending left clock buffer (piece :: gone) clock₂ buffer₂

/-- Why an attempt stops with the pieces `left` in line, and what it comes to. -/
inductive Stopping (m : Manner) (patience : Patience τ) (ending : Option τ)
    (left : List (τ × Bytes)) (clock : τ) (buffer : Bytes) : Receipt τ → Prop where
  /-- The bytes it has settle the matter, or there is no time left. -/
  | settled {r : Receipt τ}
      (h : settle m patience clock buffer (inLine left ending) = .error r) :
      Stopping m patience ending left clock buffer r
  /-- Nothing more comes in time. -/
  | late {kept : Bytes} (hscan : scan buffer = .wanting kept) (htimed : m.timed = true)
      (htime : ¬ patience.deadline - clock ≤ 0)
      (hlate : ∀ piece ∈ (inLine left ending).head?, arrival? m patience clock piece = none) :
      Stopping m patience ending left clock buffer
        ⟨.error (.noData patience.timeout), inLine left ending, kept,
          clock + (patience.deadline - clock)⟩
  /-- The stream has ended. -/
  | ended {kept : Bytes} {clock₁ : τ} (hscan : scan buffer = .wanting kept) (hleft : left = [])
      (htime : m.timed = true →
        ∃ time, ending = some time ∧ arrival? m patience clock ⟨time, .close⟩ = some clock₁) :
      Stopping m patience ending left clock buffer
        ⟨.error (endFault kept), inLine left ending, kept, clock₁⟩

/-- A read that reads nothing is why an attempt stops. -/
theorem Unfilled.stopping {m : Manner} {patience : Patience τ} {ending : Option τ}
    {left : List (τ × Bytes)} (hfilled : ∀ piece ∈ left, piece.2 ≠ []) {clock : τ}
    {buffer kept : Bytes} {r : Receipt τ} (hmore : Unsettled m patience clock buffer kept)
    (h : Unfilled m patience clock kept (inLine left ending) r) :
    Stopping m patience ending left clock buffer r := by
  generalize hline : inLine left ending = line at h
  cases h with
  | late htimed hlate =>
    subst hline
    exact .late hmore.scan_eq htimed (hmore.inTime htimed) hlate
  | exhausted hplain =>
    obtain ⟨rfl, rfl⟩ := inLine_eq_nil hline
    exact .ended hmore.scan_eq rfl fun htimed => by simp [hplain] at htimed
  | ended harrival hkind =>
    rcases inLine_eq_cons hline with ⟨p, left, -, rfl, -⟩ | ⟨time, rfl, rfl, rfl, rfl⟩
    · cases hkind
    · exact .ended hmore.scan_eq rfl fun _ => ⟨time, rfl, harrival⟩
  | blank _ hkind =>
    rcases inLine_eq_cons hline with ⟨p, left, rfl, rfl, -⟩ | ⟨time, -, -, rfl, -⟩
    · exact absurd (PieceKind.data.inj hkind) (hfilled p List.mem_cons_self)
    · cases hkind
  | trouble _ hkind =>
    rcases inLine_eq_cons hline with ⟨p, left, -, rfl, -⟩ | ⟨time, -, -, rfl, -⟩ <;> cases hkind

/-- **An attempt reads some pieces and stops.** -/
theorem receiveFrom_cases (m : Manner) (patience : Patience τ) (ending : Option τ)
    (pieces : List (τ × Bytes)) (hfilled : ∀ piece ∈ pieces, piece.2 ≠ []) (clock : τ)
    (buffer : Bytes) : ∃ gone left clock₁ buffer₁, pieces = gone ++ left ∧
      Reading m patience ending left clock buffer gone clock₁ buffer₁ ∧
      Stopping m patience ending left clock₁ buffer₁
        (receiveFrom m patience clock buffer (inLine pieces ending)) := by
  generalize hline : inLine pieces ending = pending
  revert pieces
  refine receiveFrom_induction (P := fun clock buffer pending r => ∀ pieces : List (τ × Bytes),
    (∀ piece ∈ pieces, piece.2 ≠ []) → inLine pieces ending = pending → ∃ gone left clock₁ buffer₁,
      pieces = gone ++ left ∧ Reading m patience ending left clock buffer gone clock₁ buffer₁ ∧
        Stopping m patience ending left clock₁ buffer₁ r) ?_ ?_ ?_ clock buffer pending
  · rintro clock buffer _ r hsettled pieces - rfl
    exact ⟨[], pieces, clock, buffer, rfl, .done clock buffer,
      .settled (settle_eq_error_iff.mpr hsettled)⟩
  · rintro clock buffer kept _ r hmore hunfilled pieces hfilled rfl
    exact ⟨[], pieces, clock, buffer, rfl, .done clock buffer, hunfilled.stopping hfilled hmore⟩
  · intro clock buffer kept piece arrived rest r hmore harrival hbytes ih pieces hfilled hline
    rcases inLine_eq_cons hline with ⟨p, pieces, rfl, rfl, hrest⟩ | ⟨time, -, -, rfl, -⟩
    · obtain ⟨gone, left, clock₁, buffer₁, hpieces, hreading, hstopping⟩ :=
        ih pieces (fun q hq => hfilled q (List.mem_cons_of_mem _ hq)) hrest
      exact ⟨p :: gone, left, clock₁, buffer₁, by rw [hpieces, List.cons_append],
        .more hmore.scan_eq harrival hreading, hstopping⟩
    · exact absurd rfl hbytes

/-- **Reading loses nothing but empty lines.** -/
theorem Reading.skipLineEnds_eq {m : Manner} {patience : Patience τ} {ending : Option τ}
    {left gone : List (τ × Bytes)} {clock clock₁ : τ} {buffer buffer₁ : Bytes}
    (h : Reading m patience ending left clock buffer gone clock₁ buffer₁) (more : Bytes) :
    skipLineEnds (buffer₁ ++ more) = skipLineEnds (buffer ++ (joined gone ++ more)) := by
  induction h with
  | done clock buffer => rfl
  | more hscan harrival hrest ih =>
    rw [ih, joined_cons, List.append_assoc, List.append_assoc, scan_eq_wanting hscan,
      skipLineEnds_append]

/-- What settling the bytes read so far comes to stays what it is, whatever comes in later, on a
system that waits for any time. -/
theorem Settlement.faithful (hwaits : ∀ time : τ, Timeline.refusal? time = none) {m : Manner}
    (hopen : m.closed = false) {patience : Patience τ}
    {clock : τ} {buffer : Bytes} {pending : List (Piece τ)} {r : Receipt τ}
    (h : Settlement m patience clock buffer pending r) (more : Bytes) :
    r.Faithful (buffer ++ more) more := by
  cases h with
  | whole hscan =>
    refine .inr ⟨?_, ?_⟩
    · rw [nextOutcome, scan_append_of_whole hscan]
    · rw [afterNext, scan_append_of_whole hscan]
  | faulty hscan =>
    refine .inr ⟨?_, ?_⟩
    · rw [nextOutcome, scan_append_of_faulty hscan]
    · rw [afterNext, scan_append_of_faulty hscan]
  | late hscan =>
    refine .inl ⟨rfl, ?_⟩
    rw [scan_eq_wanting hscan, skipLineEnds_append]
  | refused _ _ _ hrefusal => simp [hwaits] at hrefusal
  | closed _ _ _ hclosed => simp [hopen] at hclosed

/-- Settling gives up only for want of time. -/
theorem Settlement.of_gaveUp {m : Manner} {patience : Patience τ} {clock : τ} {buffer : Bytes}
    {pending : List (Piece τ)} {r : Receipt τ} (h : Settlement m patience clock buffer pending r)
    (hgave : gaveUp r.outcome = true) :
    m.timed = true ∧ patience.deadline - clock ≤ 0 ∧ ∃ kept, scan buffer = .wanting kept := by
  cases h with
  | whole =>
    rw [gaveUp_ofBody] at hgave
    cases hgave
  | faulty => cases hgave
  | late hscan htimed hover => exact ⟨htimed, hover, _, hscan⟩
  | refused =>
    rw [gaveUp_refusalFault] at hgave
    cases hgave
  | closed =>
    rw [gaveUp_closedFault] at hgave
    cases hgave

/-- **An attempt gives what the bytes say, or gives up.**  That holds whatever comes in later,
unless the stream has `ended`: then nothing comes in later.  The system is one that waits for any
time. -/
theorem Stopping.faithful (hwaits : ∀ time : τ, Timeline.refusal? time = none) {m : Manner}
    (hopen : m.closed = false) {patience : Patience τ}
    {ending : Option τ} {left : List (τ × Bytes)} {clock : τ} {buffer : Bytes} {r : Receipt τ}
    (h : Stopping m patience ending left clock buffer r) :
    r.pending = inLine left ending ∧ ∃ ended : Prop,
      (ended → left = [] ∧ (m.timed = true →
        ∃ time, ending = some time ∧ arrival? m patience clock ⟨time, .close⟩ = some r.clock)) ∧
      ∀ more, (ended → more = []) → r.Faithful (buffer ++ more) more := by
  cases h with
  | settled h =>
    have hsettled := settle_eq_error_iff.mp h
    exact ⟨hsettled.pending_eq, False, False.elim,
      fun more _ => hsettled.faithful hwaits hopen more⟩
  | late hscan htimed htime hlate =>
    refine ⟨rfl, False, False.elim, fun more _ => .inl ⟨rfl, ?_⟩⟩
    rw [scan_eq_wanting hscan, skipLineEnds_append]
  | ended hscan hleft htime =>
    refine ⟨rfl, True, fun _ => ⟨hleft, htime⟩, fun more hmore => ?_⟩
    obtain rfl := hmore trivial
    refine .inr ⟨?_, ?_⟩
    · rw [List.append_nil, nextOutcome, hscan]
    · rw [List.append_nil, List.append_nil, afterNext, hscan]

/-- Only a reader who waits gives up. -/
theorem Stopping.timed_of_gaveUp {m : Manner} {patience : Patience τ}
    {ending : Option τ} {left : List (τ × Bytes)} {clock : τ} {buffer : Bytes} {r : Receipt τ}
    (h : Stopping m patience ending left clock buffer r) (hgave : gaveUp r.outcome = true) :
    m.timed = true := by
  cases h with
  | settled h => exact ((settle_eq_error_iff.mp h).of_gaveUp hgave).1
  | late hscan htimed htime hlate => exact htimed
  | ended hscan hleft htime =>
    rw [gaveUp_endFault] at hgave
    exact absurd hgave Bool.false_ne_true

end ClassOrder
