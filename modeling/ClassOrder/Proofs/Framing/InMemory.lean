import ClassOrder.Proofs.Framing.Attempt
import ClassOrder.Proofs.Framing.Chunking

/-!
# Streams in memory

A stream in memory gives its pieces at once, and reading it takes no time.  However the bytes were
written, they stand there in pieces that one read can take.

## Main definitions

* `Inlet.InMemory` — an inlet on bytes in memory, in pieces that one read can take.

## Main results

* `Inlet.inMemory_feed` — however bytes are written, they are a stream in memory.
* `Intake.receive_inMemory` — receiving takes no time there and leaves such a stream.
-/

namespace ClassOrder

variable {τ : Type}

/-- An inlet on bytes in memory: they are there from the start, in pieces that one read can take,
and after the last of them the stream ends. -/
structure Inlet.InMemory (i : Inlet τ) : Prop where
  plain : i.timed = false
  isOpen : i.closed = false
  pieces : ∀ piece ∈ i.pending, ∃ bytes, piece.kind = .data bytes ∧ bytes ≠ [] ∧
    bytes.length ≤ readSize

theorem length_le_of_mem_cut_rest {count : ℕ} {bytes piece : Bytes}
    (h : piece ∈ cut.rest count bytes) : piece.length ≤ readSize := by
  induction count generalizing bytes with
  | zero => cases h
  | succ count ih =>
    rcases List.mem_cons.mp h with rfl | hrest
    · exact List.length_take_le _ _
    · exact ih hrest

theorem length_le_of_mem_cut {bytes piece : Bytes} (h : piece ∈ cut bytes) :
    piece.length ≤ readSize := by
  rcases List.mem_cons.mp h with rfl | hrest
  · exact List.length_take_le _ _
  · exact length_le_of_mem_cut_rest hrest

variable [Timeline τ]

/-- Bytes that are written to a stream in memory come after those in line. -/
theorem Inlet.InMemory.feedChunk {i : Inlet τ} (h : i.InMemory) (now : τ) (bytes : Bytes) :
    (i.feedChunk now (.data bytes)).InMemory ∧
      (i.feedChunk now (.data bytes)).pending.flatMap Piece.bytes =
        i.pending.flatMap Piece.bytes ++ bytes := by
  by_cases hbytes : bytes = []
  · subst hbytes
    have hskip : i.feedChunk now (.data []) = i := by simp [Inlet.feedChunk, h.plain]
    rw [hskip, List.append_nil]
    exact ⟨h, rfl⟩
  · have hput : i.feedChunk now (.data bytes) = i.enqueue now ((cut bytes).map .data) := by
      simp [Inlet.feedChunk, hbytes]
    have hcut : ((cut bytes).flatMap fun part => part) = bytes := by
      rw [List.flatMap_id', flatten_cut]
    rw [hput]
    constructor
    · refine ⟨h.plain, h.isOpen, fun piece hpiece => ?_⟩
      rcases List.mem_append.mp hpiece with hold | hnew
      · exact h.pieces piece hold
      · simp only [List.map_map, List.mem_map] at hnew
        obtain ⟨part, hpart, rfl⟩ := hnew
        exact ⟨part, rfl, filled_cut hbytes part hpart, length_le_of_mem_cut hpart⟩
    · simp only [Inlet.enqueue, List.flatMap_append, List.flatMap_map]
      exact congrArg _ hcut

theorem Inlet.InMemory.feed {i : Inlet τ} (h : i.InMemory) (now : τ) (writes : List Bytes) :
    (i.feed now (writes.map .data)).InMemory ∧
      (i.feed now (writes.map .data)).pending.flatMap Piece.bytes =
        i.pending.flatMap Piece.bytes ++ writes.flatten := by
  induction writes generalizing i with
  | nil => exact ⟨h, by simp⟩
  | cons bytes writes ih =>
    obtain ⟨hput, hbytes⟩ := h.feedChunk now bytes
    obtain ⟨hfed, hwrites⟩ := ih hput
    rw [List.map_cons, Inlet.feed_cons]
    exact ⟨hfed, by rw [hwrites, hbytes, List.flatten_cons, List.append_assoc]⟩

/-- **However bytes are written, they are a stream in memory**, which has just these bytes. -/
theorem Inlet.inMemory_feed (now : τ) (writes : List Bytes) :
    let i := (Inlet.empty false : Inlet τ).feed now (writes.map .data)
    i.InMemory ∧ i.pending.flatMap Piece.bytes = writes.flatten := by
  have hempty : (Inlet.empty false : Inlet τ).InMemory :=
    ⟨rfl, rfl, fun _ hpiece => absurd hpiece List.not_mem_nil⟩
  exact hempty.feed now writes

/-- Reading what is not a pipe takes no time. -/
theorem Fills.clock_eq {m : Manner} (hplain : m.timed = false) {patience : Patience τ} {clock : τ}
    {buffer : Bytes} {pending : List (Piece τ)} {reads : ℕ} {r : Receipt τ}
    (h : Fills m patience clock buffer pending reads r) : r.clock = clock := by
  -- without a pipe every piece is there when it is read
  have harrival (clock : τ) (piece : Piece τ) : arrival? m patience clock piece = some clock := by
    rw [arrival?, if_neg (by simp [hplain])]
  induction h with
  | settled hsettle => exact (settle_eq_error_iff.mp hsettle).clock_eq
  | stopped hsettle hfill =>
    cases unfilled_of_fill_error hfill with
    | late htimed => simp [hplain] at htimed
    | exhausted => rfl
    | ended harrived | blank harrived | trouble harrived =>
      rw [harrival] at harrived
      exact (Option.some.inj harrived).symm
  | more hsettle hfill hrest ih =>
    obtain ⟨piece, -, harrived, -⟩ := fill_eq_ok hfill
    rw [harrival] at harrived
    rw [ih, ← Option.some.inj harrived]

/-- **Receiving on a stream in memory takes no time and leaves such a stream.** -/
theorem Intake.receive_inMemory {i : Intake τ} (h : i.inlet.InMemory) (timeout clock : τ) :
    (i.receive timeout clock).2.1.inlet.InMemory ∧ (i.receive timeout clock).2.2 = clock := by
  by_cases hfits : Timeline.fits timeout = true
  · obtain ⟨gone, r, hreceive, hpending, -⟩ := i.receive_accounts hfits clock
    obtain ⟨reads, -, hfills⟩ := receiveFrom_fills ⟨i.inlet.timed, i.inlet.closed⟩
      ⟨clock + timeout, timeout⟩ clock i.buffer i.inlet.pending
    constructor
    · rw [hreceive]
      refine ⟨h.plain, h.isOpen, fun piece hpiece => h.pieces piece ?_⟩
      rw [hpending]
      exact List.mem_append_right _ hpiece
    · rw [receive, if_pos hfits]
      exact hfills.clock_eq h.plain
  · rw [receive, if_neg hfits]
    exact ⟨h, rfl⟩

end ClassOrder
