import ClassOrder.Proofs.Framing.Consumed
import ClassOrder.Proofs.Framing.Deadline

/-!
# Why a reader gives up

A reader of a pipe gives up at its deadline because what it had, with what came in by then, was not
enough: not because nothing came in.  What it gets to read by the deadline is what comes in before,
and one piece more that comes in at that very moment.  A reader that gets its message is done at
once, or as soon as the bytes have come in that were still wanting.

## Main definitions

* `readBy` — what a reader gets to read by a deadline.
* `Starves` — it is nothing but bytes, and too few of them.

## Main results

* `receiveFrom_gaveUp_iff` — **an attempt is given up exactly if the reader starves.**
* `receiveFrom_clock_of_message` — a message is there as soon as its last bytes are.
-/

namespace ClassOrder

/-- What a reader gets to read by a deadline: the pieces that come in before, and one more if it
comes in at that very moment. -/
def readBy (deadline : ℚ) : List (Piece ℚ) → List (Piece ℚ)
  | [] => []
  | piece :: rest =>
    if piece.time < deadline then piece :: readBy deadline rest
    else if piece.time ≤ deadline then [piece] else []

@[simp] theorem readBy_nil (deadline : ℚ) : readBy deadline [] = [] := rfl

theorem readBy_cons_of_lt {deadline : ℚ} {piece : Piece ℚ} (h : piece.time < deadline)
    (rest : List (Piece ℚ)) : readBy deadline (piece :: rest) = piece :: readBy deadline rest :=
  if_pos h

theorem readBy_cons_of_eq {deadline : ℚ} {piece : Piece ℚ} (h : piece.time = deadline)
    (rest : List (Piece ℚ)) : readBy deadline (piece :: rest) = [piece] := by
  rw [readBy, if_neg h.not_lt, if_pos h.le]

theorem readBy_cons_of_gt {deadline : ℚ} {piece : Piece ℚ} (h : deadline < piece.time)
    (rest : List (Piece ℚ)) : readBy deadline (piece :: rest) = [] := by
  rw [readBy, if_neg h.not_gt, if_neg h.not_ge]

theorem mem_readBy_head {deadline : ℚ} {piece : Piece ℚ} (h : piece.time ≤ deadline)
    (rest : List (Piece ℚ)) : piece ∈ readBy deadline (piece :: rest) := by
  rcases h.lt_or_eq with hlt | heq
  · simp [readBy_cons_of_lt hlt]
  · simp [readBy_cons_of_eq heq]

/-- What a reader that has `buffer` gets to read by a deadline is nothing but bytes, and with them
it has neither a whole frame nor a faulty header block. -/
structure Starves (deadline : ℚ) (buffer : Bytes) (pending : List (Piece ℚ)) : Prop where
  filled : ∀ piece ∈ readBy deadline pending, piece.bytes ≠ []
  wanting : ∃ kept,
    scan (buffer ++ (readBy deadline pending).flatMap Piece.bytes) = .wanting kept

section

variable {m : Manner} {patience : Patience ℚ} {clock : ℚ} {buffer kept : Bytes}
  {pending : List (Piece ℚ)} {r : Receipt ℚ}

/-- A reader with time left that needs no more starves of nothing. -/
theorem Settlement.not_starves (hopen : m.closed = false) (hclock : clock < patience.deadline)
    (h : Settlement m patience clock buffer pending r) (deadline : ℚ) :
    ¬ Starves deadline buffer pending := by
  intro hstarves
  obtain ⟨kept, hwanting⟩ := hstarves.wanting
  cases h with
  | whole hscan =>
    rw [scan_append_of_whole hscan] at hwanting
    cases hwanting
  | faulty hscan =>
    rw [scan_append_of_faulty hscan] at hwanting
    cases hwanting
  | late _ _ hover => exact absurd (sub_nonpos.mp hover) hclock.not_ge
  | refused _ _ _ hrefusal => cases hrefusal
  | closed _ _ _ hclosed => simp [hopen] at hclosed

/-- At the deadline nothing more is read. -/
theorem Settlement.gaveUp_iff (htimed : m.timed = true) (hclock : patience.deadline ≤ clock)
    (h : Settlement m patience clock buffer pending r) :
    gaveUp r.outcome = true ↔ ∃ kept, scan buffer = .wanting kept := by
  refine ⟨fun hgave => (h.of_gaveUp hgave).2.2, ?_⟩
  rintro ⟨kept, hscan⟩
  cases h with
  | whole hfound | faulty hfound =>
    rw [hscan] at hfound
    cases hfound
  | late => rfl
  | refused _ _ _ hrefusal => cases hrefusal
  | closed _ htime => exact absurd (sub_nonpos.mpr hclock) (htime htimed)

/-- A reader that has not enough starves if it gets to read nothing. -/
theorem starves_of_readBy_eq_nil {deadline : ℚ} (hscan : scan buffer = .wanting kept)
    (hread : readBy deadline pending = []) : Starves deadline buffer pending := by
  refine ⟨?_, kept, ?_⟩ <;> rw [hread]
  · exact List.forall_mem_nil _
  · rwa [List.flatMap_nil, List.append_nil]

/-- The bytes of a piece are read together with what follows. -/
theorem starves_cons_iff (piece : Piece ℚ) {deadline : ℚ} (hscan : scan buffer = .wanting kept)
    (hfilled : piece.bytes ≠ []) (htime : piece.time < deadline) :
    Starves deadline buffer (piece :: pending) ↔
      Starves deadline (kept ++ piece.bytes) pending := by
  have hsame (more : Bytes) :
      scan (kept ++ piece.bytes ++ more) = scan (buffer ++ (piece.bytes ++ more)) := by
    refine scan_congr ?_
    rw [List.append_assoc, scan_eq_wanting hscan, skipLineEnds_append]
  have hread := readBy_cons_of_lt htime pending
  constructor
  · rintro ⟨hall, kept', hwanting⟩
    rw [hread] at hall hwanting
    exact ⟨fun p hp => hall p (List.mem_cons_of_mem _ hp), kept', (hsame _).trans hwanting⟩
  · rintro ⟨hall, kept', hwanting⟩
    refine ⟨?_, kept', ?_⟩
    · rw [hread]
      exact List.forall_mem_cons.mpr ⟨hfilled, hall⟩
    · rw [hread]
      exact (hsame _).symm.trans hwanting

/-- A piece that comes in at the very deadline is the last one that is read. -/
theorem starves_cons_iff_of_eq (piece : Piece ℚ) {deadline : ℚ}
    (hscan : scan buffer = .wanting kept) (hfilled : piece.bytes ≠ [])
    (htime : piece.time = deadline) : Starves deadline buffer (piece :: pending) ↔
      ∃ kept', scan (kept ++ piece.bytes) = .wanting kept' := by
  have hsame : scan (kept ++ piece.bytes) = scan (buffer ++ piece.bytes) :=
    scan_congr (by rw [scan_eq_wanting hscan, skipLineEnds_append])
  have hread := readBy_cons_of_eq htime pending
  constructor
  · rintro ⟨-, kept', hwanting⟩
    rw [hread, List.flatMap_singleton] at hwanting
    exact ⟨kept', hsame.trans hwanting⟩
  · rintro ⟨kept', hwanting⟩
    refine ⟨?_, kept', ?_⟩
    · rw [hread]
      simpa using hfilled
    · rw [hread, List.flatMap_singleton]
      exact hsame.symm.trans hwanting

/-- A reader that reads nothing gives up exactly if it starves. -/
theorem Unfilled.gaveUp_iff (htimed : m.timed = true) (hscan : scan buffer = .wanting kept)
    (h : Unfilled m patience clock kept pending r) :
    gaveUp r.outcome = true ↔ Starves patience.deadline buffer pending := by
  -- a piece without bytes ends the attempt in another way
  have hempty {piece : Piece ℚ} {rest : List (Piece ℚ)} {arrived : ℚ}
      (harrival : arrival? m patience clock piece = some arrived) (hbytes : piece.bytes = []) :
      ¬ Starves patience.deadline buffer (piece :: rest) := fun hstarves =>
    hstarves.filled piece (mem_readBy_head ((arrival?_eq_some htimed).mp harrival).1 rest) hbytes
  cases h with
  | late _ hlate =>
    refine iff_of_true rfl (starves_of_readBy_eq_nil hscan ?_)
    cases pending with
    | nil => rfl
    | cons piece rest =>
      exact readBy_cons_of_gt (lt_time_of_arrival?_eq_none htimed (hlate piece rfl)) rest
  | exhausted hplain => simp [htimed] at hplain
  | ended harrival hkind =>
    simp [gaveUp_endFault, hempty harrival (by rw [Piece.bytes, hkind])]
  | blank harrival hkind =>
    simp [gaveUp_endFault, hempty harrival (Piece.bytes_of_data hkind)]
  | trouble harrival hkind =>
    rw [htimed]
    simp only [gaveUp_trouble, hempty harrival (Piece.bytes_of_trouble hkind), Bool.false_eq_true]

end

/-- **An attempt with time is given up exactly if the reader starves.**  A piece that comes in at
the very deadline is read, and what has been read by then decides. -/
theorem receiveFrom_gaveUp_iff {m : Manner} (htimed : m.timed = true) (hopen : m.closed = false)
    {patience : Patience ℚ} {clock : ℚ} (hclock : clock < patience.deadline) (buffer : Bytes)
    (pending : List (Piece ℚ)) :
    gaveUp (receiveFrom m patience clock buffer pending).outcome = true ↔
      Starves patience.deadline buffer pending := by
  refine (receiveFrom_induction (P := fun clock buffer pending r =>
    (clock < patience.deadline →
      (gaveUp r.outcome = true ↔ Starves patience.deadline buffer pending)) ∧
    (patience.deadline ≤ clock → (gaveUp r.outcome = true ↔ ∃ kept, scan buffer = .wanting kept)))
    ?_ ?_ ?_ clock buffer pending).1 hclock
  · intro clock buffer pending r hsettled
    refine ⟨fun hbefore => iff_of_false (fun hgave => ?_) (hsettled.not_starves hopen hbefore _),
      hsettled.gaveUp_iff htimed⟩
    exact hbefore.not_ge (sub_nonpos.mp (hsettled.of_gaveUp hgave).2.1)
  · intro clock buffer kept pending r hmore hunfilled
    exact ⟨fun _ => hunfilled.gaveUp_iff htimed hmore.scan_eq, fun hover =>
      absurd (sub_nonpos.mpr hover) (hmore.inTime htimed)⟩
  · rintro clock buffer kept piece arrived rest r hmore harrival hfilled ⟨hbefore, hover⟩
    obtain ⟨htime, rfl⟩ := (arrival?_eq_some htimed).mp harrival
    refine ⟨fun hclock => ?_, fun hover => absurd (sub_nonpos.mpr hover) (hmore.inTime htimed)⟩
    rcases htime.lt_or_eq with hlt | heq
    · rw [hbefore (max_lt hclock hlt)]
      exact (starves_cons_iff piece hmore.scan_eq hfilled hlt).symm
    · rw [hover (heq ▸ le_max_right clock piece.time)]
      exact (starves_cons_iff_of_eq piece hmore.scan_eq hfilled heq).symm

/-- **A message is there as soon as its last bytes are**: at once if they are there already, and
else when they come in. -/
theorem receiveFrom_clock_of_message {m : Manner} (htimed : m.timed = true)
    (patience : Patience ℚ) (clock : ℚ) (buffer : Bytes) (pending : List (Piece ℚ))
    {message : Message}
    (hmessage : (receiveFrom m patience clock buffer pending).outcome = .ok message) :
    let r := receiveFrom m patience clock buffer pending
    r.clock = clock ∨
      ∃ piece ∈ pending, piece.bytes ≠ [] ∧ clock < piece.time ∧ r.clock = piece.time := by
  refine receiveFrom_induction (P := fun clock _ pending r => r.outcome = .ok message →
    r.clock = clock ∨
      ∃ piece ∈ pending, piece.bytes ≠ [] ∧ clock < piece.time ∧ r.clock = piece.time) ?_ ?_ ?_
    clock buffer pending hmessage
  · exact fun hsettled _ => .inl hsettled.clock_eq
  · intro clock buffer kept pending r _ hunfilled hmessage
    cases hunfilled <;> cases hmessage
  · intro clock buffer kept piece arrived rest r _ harrival hfilled ih hmessage
    obtain ⟨-, rfl⟩ := (arrival?_eq_some htimed).mp harrival
    rcases ih hmessage with hclock | ⟨p, hp, hfull, hlater, hclock⟩
    · -- the last bytes were those of this piece
      rw [hclock]
      rcases le_or_gt piece.time clock with hle | hgt
      · exact .inl (max_eq_left hle)
      · exact .inr ⟨piece, List.mem_cons_self, hfilled, hgt, max_eq_right hgt.le⟩
    · exact .inr ⟨p, List.mem_cons_of_mem _ hp, hfull, (le_max_left _ _).trans_lt hlater, hclock⟩

end ClassOrder
