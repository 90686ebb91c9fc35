import ClassOrder.Proofs.Framing.Attempt
import ClassOrder.Proofs.Framing.Block
import ClassOrder.Proofs.Framing.Grammar

/-!
# Which header blocks are accepted

Whoever receives takes the header block at the start of the stream by the grammar of header blocks:
a block that declares a length is followed by a body of that length and no other, and a block that
declares none is refused and stays where it is.  Other header lines make no difference, and neither
does the length that an earlier line gives.

## Main definitions

* `RefusesBlock` — an outcome that refuses a header block.
* `FollowsGrammar` — what an attempt comes to that follows the grammar.
* `Intake.Brings` — bytes that an attempt gets to read.

## Main results

* `receiveFrom_reaches` — an attempt reads on until the bytes settle the matter.
* `receive_followsGrammar` — **header blocks are accepted exactly by their grammar.**
* `not_refusesBlock_of_not_isHeaderBlock` — what ends with a line end, or is nothing, is no block
  that reading finds.
-/

namespace ClassOrder

/-- The outcome refuses a header block: a fault of framing, other than that the stream ended inside
a frame. -/
def RefusesBlock {τ : Type} (outcome : Except (Fault τ) Message) : Prop :=
  ∃ fault, fault ≠ .truncated ∧ outcome = .error (.framing fault)

/-- An attempt that has read a header block and the bytes `rest` after its empty line follows the
grammar with what it gives and with the bytes that it keeps. -/
structure FollowsGrammar {τ : Type} (block rest : Bytes) (outcome : Except (Fault τ) Message)
    (kept : Bytes) : Prop where
  /-- Blocks that declare a length are accepted, and no others. -/
  accepted_iff : ¬ RefusesBlock outcome ↔ ∃ n, DeclaresLength block n
  /-- The body has the length that the block declares. -/
  of_enough : ∀ n, DeclaresLength block n → n ≤ rest.length →
    outcome = (readBody (rest.take n)).mapError .ofBody ∧ kept = rest.drop n
  /-- Before the body is there, nothing is given and nothing is taken. -/
  of_short : ∀ n, DeclaresLength block n → rest.length < n →
    (∀ m, outcome ≠ .ok m) ∧ kept = terminated block rest
  /-- A block that is refused stays. -/
  of_refused : (¬ ∃ n, DeclaresLength block n) → kept = terminated block rest

/-- An attempt gets to read the bytes: they are those left of earlier attempts with those of pieces
at the front of the line.  No such piece is empty, this end of the stream is open, and on a pipe
the pieces come in before the deadline, which is not over.  Anything may stand in line behind
them. -/
def Intake.Brings (bytes : Bytes) (clock deadline : ℚ) (i : Intake ℚ) : Prop :=
  ∃ (pieces : List (ℚ × Bytes)) (behind : List (Piece ℚ)),
    i.inlet.pending = inLine pieces none ++ behind ∧ i.buffer ++ joined pieces = bytes ∧
      ∀ piece ∈ pieces, piece.2 ≠ [] ∧ i.inlet.closed = false ∧
        (i.inlet.timed = true → clock < deadline ∧ piece.1 < deadline)

/-! ### By what it has read -/

section

variable {τ : Type} [Timeline τ] {m : Manner} {timeout : τ} {gone : List (Piece τ)}
  {kept block rest : Bytes} {r : Receipt τ}

/-- What comes between refuses no header block, if the trouble in line is foreign. -/
theorem Interrupts.not_refuses {fault : Fault τ} (h : Interrupts m timeout gone kept fault)
    (hgone : ∀ piece ∈ gone, piece.kind.Foreign) : ¬ RefusesBlock (.error fault) := by
  rintro ⟨cause, hcause, heq⟩
  cases Except.error.inj heq
  rcases h.kinds hgone with heq | hlost | hover | hforeign
  · exact hcause (Fault.framing.inj heq)
  · cases hlost
  · cases hover
  · cases hforeign

theorem not_declaresLength_of_error {block : Bytes} {fault : FramingFault}
    (h : bodyLength block = .error fault) : ¬ ∃ n, DeclaresLength block n := by
  rintro ⟨n, hn⟩
  rw [bodyLength_eq_ok_iff.mpr hn] at h
  cases h

theorem bodyLength_ne_truncated (block : Bytes) : bodyLength block ≠ .error .truncated := by
  -- only reading a body can find it truncated
  have hline (line : Bytes) : readHeader line ≠ .error .truncated := by
    unfold readHeader
    grind
  have hlines (lines : List Bytes) : lines.mapM readHeader ≠ .error .truncated := by
    induction lines with
    | nil => exact fun h => nomatch h
    | cons line lines ih =>
      rw [List.mapM_cons]
      intro h
      cases hread : readHeader line with
      | error fault =>
        rw [hread] at h
        cases h
        exact hline line hread
      | ok header =>
        rw [hread] at h
        cases hmore : lines.mapM readHeader with
        | error fault =>
          rw [hmore] at h
          cases h
          exact ih hmore
        | ok headers =>
          rw [hmore] at h
          cases h
  unfold bodyLength
  split
  · next fault heq =>
    rintro ⟨⟩
    exact hlines _ heq
  · split
    · exact fun h => nomatch h
    · split <;> exact fun h => nomatch h

/-- **An attempt that accounts for a header block follows the grammar.** -/
theorem Receipt.Accounts.followsGrammar (hblock : IsHeaderBlock block) {stray : ℕ}
    (h : r.Accounts m timeout gone (blanks stray ++ terminated block rest))
    (hgone : ∀ piece ∈ gone, piece.kind.Foreign) :
    FollowsGrammar block rest r.outcome r.buffer := by
  unfold Receipt.Accounts at h
  rw [scan_terminated hblock] at h
  cases hlength : bodyLength block with
  | error fault =>
    rw [hlength] at h
    obtain ⟨houtcome, hbuffer⟩ := h
    have hnone := not_declaresLength_of_error hlength
    have hrefused : RefusesBlock r.outcome :=
      ⟨fault, fun htruncated => bodyLength_ne_truncated block (htruncated ▸ hlength), houtcome⟩
    exact ⟨iff_of_false (not_not_intro hrefused) hnone, fun n hn => absurd ⟨n, hn⟩ hnone,
      fun n hn => absurd ⟨n, hn⟩ hnone, fun _ => hbuffer⟩
  | ok n =>
    rw [hlength] at h
    have hdeclares : DeclaresLength block n := bodyLength_eq_ok_iff.mp hlength
    by_cases hshort : rest.length < n
    · -- the body is cut short: the bytes are kept, and no message comes of them
      simp only [hshort, if_true] at h
      obtain ⟨⟨fault, houtcome, hfault⟩, hbuffer⟩ := h
      refine ⟨iff_of_true ?_ ⟨n, hdeclares⟩, fun k hk henough => ?_, fun k hk _ => ⟨?_, hbuffer⟩,
        fun hnone => absurd ⟨n, hdeclares⟩ hnone⟩
      · rw [houtcome]
        exact hfault.not_refuses hgone
      · rw [hk.unique hdeclares] at henough
        omega
      · rw [houtcome]
        exact fun m hm => nomatch hm
    · simp only [hshort, if_false] at h
      obtain ⟨houtcome, hbuffer⟩ := h
      refine ⟨iff_of_true ?_ ⟨n, hdeclares⟩, fun k hk _ => ?_, fun k hk hfew => ?_,
        fun hnone => absurd ⟨n, hdeclares⟩ hnone⟩
      · rw [houtcome]
        rintro ⟨fault, -, heq⟩
        rcases fault_of_body heq with ⟨cause, -, hcause⟩ | hcause <;> cases hcause
      · rw [hk.unique hdeclares]
        exact ⟨houtcome, hbuffer⟩
      · rw [hk.unique hdeclares] at hfew
        exact absurd hfew hshort

end

/-! ### What is read -/

/-- **An attempt reads on until the bytes settle the matter**: by induction on the pieces that it
gets to read, of which each is read unless those before it are enough. -/
theorem receiveFrom_reaches (m : Manner) (patience : Patience ℚ) (clock : ℚ) (buffer : Bytes)
    (pieces : List (ℚ × Bytes)) (behind : List (Piece ℚ))
    (hin : ∀ piece ∈ pieces, piece.2 ≠ [] ∧ m.closed = false ∧
      (m.timed = true → clock < patience.deadline ∧ piece.1 < patience.deadline)) :
    let r := receiveFrom m patience clock buffer (inLine pieces none ++ behind)
    ∃ gone, inLine pieces none ++ behind = gone ++ r.pending ∧
      (joined pieces <+: gone.flatMap Piece.bytes ∨
        (gone.flatMap Piece.bytes <+: joined pieces ∧
          ∀ kept, scan (buffer ++ gone.flatMap Piece.bytes) ≠ .wanting kept)) := by
  dsimp only
  induction pieces generalizing clock buffer with
  | nil =>
    obtain ⟨gone, hpending, -⟩ := receiveFrom_accounts m patience clock buffer behind
    exact ⟨gone, hpending, .inl List.nil_prefix⟩
  | cons piece pieces ih =>
    obtain ⟨⟨hfilled, hopen, hbefore⟩, hrest⟩ := List.forall_mem_cons.mp hin
    cases hscan : scan buffer with
    | wanting kept =>
      -- this piece is in line before the deadline, so it is read
      have hmore : Unsettled m patience clock buffer kept :=
        ⟨hscan, hopen, fun htimed => by simpa using (hbefore htimed).1, refused?_rat ..⟩
      obtain ⟨arrived, harrival, hearly⟩ : ∃ arrived,
          arrival? m patience clock ⟨piece.1, .data piece.2⟩ = some arrived ∧
            (m.timed = true → arrived < patience.deadline) := by
        by_cases htimed : m.timed = true
        · obtain ⟨hclock, hpiece⟩ := hbefore htimed
          exact ⟨_, (arrival?_eq_some htimed).mpr ⟨hpiece.le, rfl⟩, fun _ => max_lt hclock hpiece⟩
        · exact ⟨clock, by simp [arrival?, htimed], fun h => absurd h htimed⟩
      rw [inLine_cons, List.cons_append, receiveFrom_cons hmore harrival rfl hfilled]
      obtain ⟨gone, hpending, hreach⟩ := ih arrived (kept ++ piece.2) fun p hp =>
        ⟨(hrest p hp).1, hopen, fun htimed => ⟨hearly htimed, ((hrest p hp).2.2 htimed).2⟩⟩
      refine ⟨⟨piece.1, .data piece.2⟩ :: gone, by rw [List.cons_append, ← hpending], ?_⟩
      have hbytes : (⟨piece.1, .data piece.2⟩ : Piece ℚ).bytes = piece.2 := rfl
      rw [List.flatMap_cons, hbytes, joined_cons]
      refine hreach.imp (List.prefix_append_right_inj _).mpr fun hpart => ?_
      refine ⟨(List.prefix_append_right_inj _).mpr hpart.1, fun kept' hwanting => ?_⟩
      refine hpart.2 kept' (hwanting ▸ scan_congr ?_)
      rw [List.append_assoc, scan_eq_wanting hscan, skipLineEnds_append]
    | faulty fault kept =>
      -- what is at hand is enough, and no piece is read any more
      rw [receiveFrom_of_faulty hscan]
      exact ⟨[], rfl, .inr ⟨List.nil_prefix, by simp [hscan]⟩⟩
    | whole body rest =>
      rw [receiveFrom_of_whole hscan]
      exact ⟨[], rfl, .inr ⟨List.nil_prefix, by simp [hscan]⟩⟩

/-- What is enough of a stream that starts with a header block holds the block. -/
theorem exists_terminated_of_prefix {block rest read : Bytes} (hblock : IsHeaderBlock block)
    {stray : ℕ} (hreached : read <+: blanks stray ++ terminated block rest)
    (hsettled : ∀ kept, scan read ≠ .wanting kept) :
    ∃ rest', read = blanks stray ++ terminated block rest' := by
  obtain ⟨more, hmore⟩ := hreached
  obtain ⟨stray', hread⟩ := exists_blanks_append read
  cases hsplit : splitBlock (skipLineEnds read) with
  | none =>
    refine absurd ?_ (hsettled (skipLineEnds read))
    rw [scan]
    simp only [hsplit]
  | some found =>
    obtain ⟨block', rest'⟩ := found
    -- the empty lines and the block are those of the whole stream
    have hskip : skipLineEnds (blanks stray ++ terminated block rest) =
        skipLineEnds read ++ more := by
      rw [← hmore, skipLineEnds_append_of_splitBlock hsplit]
    rw [skipLineEnds_blanks_append, skipLineEnds_eq_self (hblock.not_prefix_terminated rest)]
      at hskip
    have hsame : splitBlock (terminated block rest) = some (block', rest' ++ more) := by
      rw [hskip]
      exact splitBlock_append hsplit more
    rw [splitBlock_eq_some_iff.mpr ⟨rfl, hblock.not_end, hblock.not_inside⟩] at hsame
    obtain ⟨rfl, -⟩ := Prod.mk.inj (Option.some.inj hsame)
    have hterminated := (isHeaderBlock_of_splitBlock hsplit).2
    refine ⟨rest', ?_⟩
    have hblanks : blanks stray ++ (skipLineEnds read ++ more) =
        blanks stray' ++ (skipLineEnds read ++ more) := by
      rw [← hskip, ← hmore, hskip, ← List.append_assoc, ← hread]
    rw [← hterminated, List.append_cancel_right hblanks]
    exact hread

/-- An attempt that gets to read a header block reads it. -/
theorem Intake.Brings.reads {i : Intake ℚ} {timeout clock : ℚ} {block rest : Bytes}
    (hblock : IsHeaderBlock block) {stray : ℕ}
    (h : i.Brings (blanks stray ++ terminated block rest) clock (clock + timeout)) :
    ∃ rest', i.Reads (blanks stray ++ terminated block rest') (i.receive timeout clock).2.1 := by
  obtain ⟨pieces, behind, hpending, hbytes, hin⟩ := h
  obtain ⟨gone, hline, hreach⟩ := receiveFrom_reaches ⟨i.inlet.timed, i.inlet.closed⟩
    ⟨clock + timeout, timeout⟩ clock i.buffer pieces behind hin
  rw [← hpending] at hline
  rw [Intake.receive, if_pos (Timeline.fits_rat timeout)]
  rcases hreach with ⟨more, hmore⟩ | ⟨hreached, hsettled⟩
  · refine ⟨rest ++ more, gone, hline, ?_⟩
    rw [← terminated_append, ← List.append_assoc, ← hbytes, List.append_assoc, hmore]
  · rw [← List.prefix_append_right_inj i.buffer, hbytes] at hreached
    obtain ⟨rest', hrest⟩ := exists_terminated_of_prefix hblock hreached hsettled
    exact ⟨rest', gone, hline, hrest⟩

/-- **Header blocks are accepted exactly by their grammar.**  Let a header block stand on a stream,
behind any number of empty lines and before anything: a block is what reading can find, bytes that
neither start nor end with a line end and have no empty line inside.  An attempt that gets to read
the block with the empty line after it does read them; and an attempt that has read them follows the
grammar.  It refuses the block exactly if the block declares no length, and then keeps the block
and all after it; else the body has just the length that the block declares, and nothing is taken
before the body is there. -/
theorem receive_followsGrammar (c : Channel ℚ)
    (hforeign : ∀ piece ∈ c.intake.inlet.pending, piece.kind.Foreign) (timeout : Option ℚ)
    (clock : ℚ) {block : Bytes} (hblock : IsHeaderBlock block) (stray : ℕ) (rest : Bytes) :
    let done := c.receive timeout clock
    (c.intake.Brings (blanks stray ++ terminated block rest) clock
        (clock + timeout.getD c.readTimeout) →
      ∃ rest', c.intake.Reads (blanks stray ++ terminated block rest') done.2.1.intake) ∧
    (c.intake.Reads (blanks stray ++ terminated block rest) done.2.1.intake →
      FollowsGrammar block rest done.1 done.2.1.intake.buffer) := by
  refine ⟨fun hbrings => hbrings.reads hblock, ?_⟩
  obtain ⟨gone, r, hreceive, hpending, haccounts⟩ := c.intake.receive_accounts
    (Timeline.fits_rat (timeout.getD c.readTimeout)) clock
  simp only [Channel.receive, hreceive]
  rintro ⟨gone', hpending', hread⟩
  obtain rfl : gone' = gone := List.append_cancel_right (hpending'.symm.trans hpending)
  rw [hread] at haccounts
  exact haccounts.followsGrammar hblock fun piece hpiece =>
    hforeign piece (hpending ▸ List.mem_append_left _ hpiece)

/-- A channel on which bytes have come in all at once. -/
def channelWith (bytes : Bytes) : Channel ℚ :=
  channelOn ⟨{ Inlet.empty false with pending := [⟨0, .data bytes⟩] }, []⟩

/-- A block that says its length twice, the last time with blanks, zeros and an underscore. -/
def repeatedBlock : Bytes :=
  Text.utf8 "Content-Length: 9\r\nX: y\r\n content-LENGTH\t: +00_2 \r\nContent-Type: a:b"

theorem receive_followsGrammar_repeatedBlock :
    let c := channelWith (terminated repeatedBlock (Text.utf8 "\x7b\x7dtail"))
    let done := c.receive none 0
    (∃ rest', c.intake.Reads (terminated repeatedBlock rest') done.2.1.intake) ∧
      ¬ RefusesBlock done.1 ∧ done.1 = (readBody (Text.utf8 "\x7b\x7d")).mapError .ofBody ∧
        done.2.1.intake.buffer = Text.utf8 "tail" := by
  have hblock : IsHeaderBlock repeatedBlock := by constructor <;> decide +kernel
  have hdeclares : DeclaresLength repeatedBlock 2 := bodyLength_eq_ok_iff.mp (by decide +kernel)
  have hforeign : ∀ piece ∈ (channelWith (terminated repeatedBlock
      (Text.utf8 "\x7b\x7dtail"))).intake.inlet.pending, piece.kind.Foreign := by
    intro piece hpiece
    rw [List.mem_singleton.mp hpiece]
    trivial
  have h := receive_followsGrammar _ hforeign none 0 hblock 0 (Text.utf8 "\x7b\x7dtail")
  have hfilled : terminated repeatedBlock (Text.utf8 "\x7b\x7dtail") ≠ [] := by decide +kernel
  have hbrings := h.1 ⟨[(0, _)], [], rfl, List.append_nil _, fun piece hpiece => by
    rw [List.mem_singleton.mp hpiece]
    exact ⟨hfilled, rfl, fun htimed => nomatch htimed⟩⟩
  have hleft : ((channelWith (terminated repeatedBlock (Text.utf8 "\x7b\x7dtail"))).receive none
      0).2.1.intake.inlet.pending = [] := by decide +kernel
  have hfollows := h.2 ⟨[⟨0, .data _⟩], by rw [hleft]; rfl, List.append_nil _⟩
  exact ⟨hbrings, hfollows.accepted_iff.mpr ⟨2, hdeclares⟩,
    hfollows.of_enough 2 hdeclares (by decide +kernel)⟩

/-! ### Bytes that are no block -/

/-- A header line and an empty one. -/
def trailingBlock : Bytes := Text.utf8 "Content-Length: 32\r\n"

/-- **What ends with a line end, or is nothing, is no block that reading finds.**  Neither declares
a length, though neither starts with a line end or has an empty line inside, and neither is refused
with an empty line after it: the first one is found without its own line end, which belongs to the
empty line then, and of the second one nothing is found. -/
theorem not_refusesBlock_of_not_isHeaderBlock :
    (¬ lineEnd <+: trailingBlock ∧ ¬ lineEnd ++ lineEnd <:+: trailingBlock ∧
      (¬ ∃ n, DeclaresLength trailingBlock n) ∧
      ¬ RefusesBlock ((channelWith (terminated trailingBlock
        (Text.utf8 "\x7b\"jsonrpc\":\"2.0\",\"method\":\"m\"\x7d"))).receive none 0).1) ∧
    (¬ lineEnd <+: ([] : Bytes) ∧ ¬ lineEnd ++ lineEnd <:+: ([] : Bytes) ∧
      (¬ ∃ n, DeclaresLength [] n) ∧
      ¬ RefusesBlock ((channelWith (terminated [] [])).receive none 0).1) := by
  have hmessage : ((channelWith (terminated trailingBlock (Text.utf8
      "\x7b\"jsonrpc\":\"2.0\",\"method\":\"m\"\x7d"))).receive none 0).1.toOption.map
        Message.method? = some (some "m") := by decide +kernel
  have hclosed : ((channelWith (terminated [] [])).receive none 0).1 = .error .outputClosed := rfl
  have hbad : bodyLength trailingBlock = .error (.badLine []) := by decide +kernel
  have hempty : bodyLength [] = .error (.badLine []) := rfl
  refine ⟨⟨by decide +kernel, by decide +kernel, not_declaresLength_of_error hbad, ?_⟩,
    by decide, by decide, not_declaresLength_of_error hempty, ?_⟩
  · rintro ⟨fault, -, heq⟩
    rw [heq] at hmessage
    cases hmessage
  · rintro ⟨fault, -, heq⟩
    rw [hclosed] at heq
    cases heq

end ClassOrder
