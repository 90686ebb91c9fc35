import ClassOrder.Channel.Line
import ClassOrder.Proofs.Framing.Acceptance
import ClassOrder.Proofs.Framing.Deadline

/-!
# What a fault of receiving leaves behind

A header block that is refused stays at the start of the stream, so that nothing is received any
more, whatever happens to the channel.  A body that is no message goes away with its header block,
and what follows is received as if it had come in on a fresh channel.  When the stream ends inside a
frame, or the time is over, nothing goes away but empty lines.

## Main definitions

* `Occurrence`, `Line.after` — what may happen to a line in use, and what it leads to.
* `Line.Stuck` — a refused header block is all that there is to receive.
* `Intake.stream`, `Line.stream` — the bytes that are still to be used.
* `AtHand`, `Line.refreshed` — a fresh channel on which the bytes that were kept are at hand.
* `SameReceipt` — lines on which the same was received.

## Main results

* `Line.Stuck.happen`, `Line.Stuck.after` — **a line that is stuck stays so.**
* `Line.receive_refreshed` — **a fresh channel receives the same.**
* `Line.receive_fault` — **what each fault leaves behind.**
-/

namespace ClassOrder

variable {τ : Type}

/-! ### Use of a line -/

/-- What may happen to a line in use. -/
inductive Occurrence (τ : Type) where
  /-- Somebody receives. -/
  | receive (timeout : Option τ)
  /-- Somebody sends. -/
  | send (m : Message)
  /-- The channel is closed. -/
  | close
  /-- The other end writes. -/
  | arrive (chunks : List (Chunk τ))
  /-- Time goes by. -/
  | pass (time : τ)
  /-- The stream for what is sent breaks, or is repaired. -/
  | change (outlet : Outlet τ)

namespace Line

variable [Timeline τ]

/-- The line after something has happened to it. -/
def happen (l : Line τ) : Occurrence τ → Line τ
  | .receive timeout => ((Line.receive timeout).apply l).2
  | .send m => ((Line.send m).apply l).2
  | .close => (Line.close.apply l).2
  | .arrive chunks =>
    let inlet := l.channel.intake.inlet.feed l.clock chunks
    { l with channel := { l.channel with intake := { l.channel.intake with inlet } } }
  | .pass time => { l with clock := l.clock + time }
  | .change outlet => { l with channel := { l.channel with outlet } }

/-- The line after one thing has happened to it after the other. -/
def after (l : Line τ) (occurrences : List (Occurrence τ)) : Line τ := occurrences.foldl happen l

end Line

/-! ### Refused header blocks -/

/-- The bytes that were read start with a header block that is refused with a given fault. -/
def Line.Stuck (fault : FramingFault) (l : Line τ) : Prop :=
  ∃ kept, scan l.channel.intake.buffer = .faulty fault kept

/-- What a scan keeps of a refused block is refused again. -/
theorem scan_of_scan_faulty {xs kept : Bytes} {fault : FramingFault}
    (h : scan xs = .faulty fault kept) : scan kept = .faulty fault kept := by
  obtain ⟨stray, block, rest, hblock, hlength, rfl, -⟩ := terminated_of_scan_faulty h
  have hscan := scan_terminated hblock 0 rest
  rwa [hlength, blanks_zero, List.nil_append] at hscan

namespace Line.Stuck

variable [Timeline τ] {fault : FramingFault} {l : Line τ}

/-- Who has read a refused block is told so, and keeps it. -/
theorem receive_eq (h : l.Stuck fault) {timeout : Option τ}
    (hfits : Timeline.fits (timeout.getD l.channel.readTimeout) = true) :
    ((Line.receive timeout).apply l).1 = .error (.framing fault) ∧
      ((Line.receive timeout).apply l).2.Stuck fault := by
  obtain ⟨kept, hscan⟩ := h
  simp only [Line.receive, Action.apply_ofFun, Channel.receive, Intake.receive, hfits, if_true,
    receiveFrom_of_faulty hscan]
  exact ⟨trivial, kept, scan_of_scan_faulty hscan⟩

/-- **A line that is stuck stays so**, whatever happens to it. -/
theorem happen (h : l.Stuck fault) (event : Occurrence τ) : (l.happen event).Stuck fault := by
  cases event with
  | receive timeout =>
    by_cases hfits : Timeline.fits (timeout.getD l.channel.readTimeout) = true
    · exact (h.receive_eq hfits).2
    · simp only [Line.happen, Line.receive, Action.apply_ofFun, Channel.receive, Intake.receive,
        if_neg hfits]
      exact h
  | send m => exact h
  | close =>
    simp only [Line.happen, Line.close, Line.closeWriter, Action.apply_ofFun, Outlet.close]
    cases l.channel.outlet.closeFault with
    | none => exact h
    | some fault =>
      dsimp only [closing]
      split <;> exact h
  | arrive chunks => exact h
  | pass time => exact h
  | change outlet => exact h

theorem after (h : l.Stuck fault) (occurrences : List (Occurrence τ)) :
    (l.after occurrences).Stuck fault := by
  induction occurrences generalizing l with
  | nil => exact h
  | cons event occurrences ih => exact ih (h.happen event)

end Line.Stuck

/-! ### The stream -/

/-- The bytes of an intake that are still to be used: those that were read and those in line. -/
def Intake.stream (i : Intake τ) : Bytes := i.buffer ++ i.inlet.pending.flatMap Piece.bytes

/-- The bytes of a line that are still to be used. -/
def Line.stream (l : Line τ) : Bytes := l.channel.intake.stream

section

variable [Timeline τ] {m : Manner} {timeout : τ} {gone : List (Piece τ)} {read : Bytes}
  {r : Receipt τ}

/-- An attempt that finds no whole frame uses nothing but empty lines. -/
theorem Receipt.Accounts.keeps (h : r.Accounts m timeout gone read)
    (hnone : ∀ body rest, scan read ≠ .whole body rest) :
    ∃ stray, read = blanks stray ++ r.buffer := by
  unfold Receipt.Accounts at h
  cases hscan : scan read with
  | whole body rest => exact absurd hscan (hnone body rest)
  | faulty fault kept =>
    rw [hscan] at h
    obtain ⟨stray, block, rest, -, -, -, hread⟩ := terminated_of_scan_faulty hscan
    exact ⟨stray, by rw [h.2]; exact hread⟩
  | wanting kept =>
    rw [hscan] at h
    rw [h.2, scan_eq_wanting hscan]
    exact exists_blanks_append read

/-- A fault of the body uses the frame, and the empty lines before it. -/
theorem Receipt.Accounts.of_decode {fault : DecodeFault} (h : r.Accounts m timeout gone read)
    (hgone : ∀ piece ∈ gone, piece.kind.Foreign) (houtcome : r.outcome = .error (.decode fault)) :
    ∃ stray block body, IsHeaderBlock block ∧ DeclaresLength block body.length ∧
      readBody body = .error (.decode fault) ∧
      read = blanks stray ++ terminated block (body ++ r.buffer) := by
  unfold Receipt.Accounts at h
  rw [houtcome] at h
  cases hscan : scan read with
  | whole body rest =>
    rw [hscan] at h
    obtain ⟨hbody, rfl⟩ := h
    obtain ⟨stray, block, hblock, hlength, hread⟩ := terminated_of_scan_whole hscan
    rcases fault_of_body hbody.symm with ⟨cause, hcause, heq⟩ | heq
    · cases heq
      exact ⟨stray, block, body, hblock, bodyLength_eq_ok_iff.mp hlength, hcause, hread⟩
    · cases heq
  | faulty fault kept =>
    rw [hscan] at h
    cases h.1
  | wanting kept =>
    rw [hscan] at h
    obtain ⟨⟨cause, heq, hcause⟩, -⟩ := h
    cases heq
    -- an attempt that is interrupted fails over the stream and not over a body
    rcases hcause.kinds hgone with heq | hlost | hover | hforeign
    · cases heq
    · cases hlost
    · cases hover
    · cases hforeign

/-- A header block that is refused is one, declares no length, and stays. -/
theorem Receipt.Accounts.of_framing {fault : FramingFault} (h : r.Accounts m timeout gone read)
    (hgone : ∀ piece ∈ gone, piece.kind.Foreign) (hfault : fault ≠ .truncated)
    (houtcome : r.outcome = .error (.framing fault)) : scan r.buffer = .faulty fault r.buffer := by
  unfold Receipt.Accounts at h
  rw [houtcome] at h
  cases hscan : scan read with
  | whole body rest =>
    rw [hscan] at h
    rcases fault_of_body h.1.symm with ⟨cause, -, heq⟩ | heq <;> cases heq
  | faulty fault kept =>
    rw [hscan] at h
    obtain ⟨heq, rfl⟩ := h
    cases heq
    exact scan_of_scan_faulty hscan
  | wanting kept =>
    rw [hscan] at h
    obtain ⟨⟨cause, heq, hcause⟩, -⟩ := h
    cases heq
    exact absurd ⟨fault, hfault, rfl⟩ (hcause.not_refuses hgone)

end

/-! ### A fresh channel -/

/-- Bytes that are at hand at a given time: some were read, and pieces with the others can be read
without waiting. -/
structure AtHand (clock : ℚ) (bytes read : Bytes) (held : List (Piece ℚ)) : Prop where
  filled : ∀ piece ∈ held, ∃ part, part ≠ [] ∧ piece.kind = .data part
  come : ∀ piece ∈ held, piece.time ≤ clock
  holds : read ++ held.flatMap Piece.bytes = bytes

/-- A line with a fresh channel, which holds bytes, and where pieces stand in line ahead of the
others. -/
def Line.refreshed (read : Bytes) (held : List (Piece ℚ)) (l : Line ℚ) : Line ℚ :=
  { l with
    channel := { l.channel with
      intake := ⟨{ l.channel.intake.inlet with
        pending := held ++ l.channel.intake.inlet.pending }, read⟩ } }

/-- Whoever receives may read from the line: the channel is open, and there is time if time
counts. -/
structure Line.MayRead (l : Line ℚ) (timeout : Option ℚ) : Prop where
  isOpen : l.channel.intake.inlet.closed = false
  inTime : l.channel.intake.inlet.timed = true → 0 < timeout.getD l.channel.readTimeout

/-- Two lines on which somebody has received are alike: the same came of it, at the same time, with
the same log and the same bytes left. -/
structure SameReceipt (a b : Except (Fault ℚ) Message × Line ℚ) : Prop where
  outcome : a.1 = b.1
  clock : a.2.clock = b.2.clock
  log : a.2.log = b.2.log
  stream : a.2.stream = b.2.stream

/-- **Bytes that stand in line at hand are as good as bytes that were read**: by induction on the
pieces, of which each is read unless those before it are enough. -/
theorem receiveFrom_atHand (m : Manner) (patience : Patience ℚ) (clock : ℚ) (buffer : Bytes)
    (held pending : List (Piece ℚ))
    (hfilled : ∀ piece ∈ held, ∃ part, part ≠ [] ∧ piece.kind = .data part)
    (hcome : ∀ piece ∈ held, piece.time ≤ clock)
    (hread : held ≠ [] → m.closed = false ∧ (m.timed = true → clock < patience.deadline)) :
    let r := receiveFrom m patience clock buffer (held ++ pending)
    let s := receiveFrom m patience clock (buffer ++ held.flatMap Piece.bytes) pending
    r.outcome = s.outcome ∧ r.clock = s.clock ∧
      r.buffer ++ r.pending.flatMap Piece.bytes = s.buffer ++ s.pending.flatMap Piece.bytes := by
  dsimp only
  induction held generalizing buffer with
  | nil => simp
  | cons piece held ih =>
    obtain ⟨⟨part, hpart, hkind⟩, hparts⟩ := List.forall_mem_cons.mp hfilled
    obtain ⟨hpiece, hrest⟩ := List.forall_mem_cons.mp hcome
    obtain ⟨hopen, hbefore⟩ := hread (List.cons_ne_nil _ _)
    cases hscan : scan buffer with
    | whole body rest =>
      -- what is enough already is found again in what all the pieces hold
      rw [receiveFrom_of_whole hscan, receiveFrom_of_whole (scan_append_of_whole hscan _)]
      exact ⟨rfl, rfl, by rw [List.flatMap_append, List.append_assoc]⟩
    | faulty fault kept =>
      rw [receiveFrom_of_faulty hscan, receiveFrom_of_faulty (scan_append_of_faulty hscan _)]
      exact ⟨rfl, rfl, by rw [List.flatMap_append, List.append_assoc]⟩
    | wanting kept =>
      have hmore : Unsettled m patience clock buffer kept :=
        ⟨hscan, hopen, fun htimed => by simpa using hbefore htimed, refused?_rat ..⟩
      have harrival : arrival? m patience clock piece = some clock := by
        by_cases htimed : m.timed = true
        · exact (arrival?_eq_some htimed).mpr
            ⟨hpiece.trans (hbefore htimed).le, max_eq_left hpiece⟩
        · simp [arrival?, htimed]
      have hskip : skipLineEnds (buffer ++ (piece :: held).flatMap Piece.bytes) =
          skipLineEnds (kept ++ part ++ held.flatMap Piece.bytes) := by
        rw [List.flatMap_cons, Piece.bytes_of_data hkind, scan_eq_wanting hscan, List.append_assoc,
          skipLineEnds_append]
      rw [receiveFrom_congr hskip, List.cons_append, receiveFrom_cons hmore harrival hkind hpart]
      exact ih (kept ++ part) hparts hrest fun _ => ⟨hopen, hbefore⟩

/-- **A fresh channel on which the bytes that were kept are at hand receives the same**, if those
that are still in line may be read: the same outcome, at the same time, with the same bytes left. -/
theorem Line.receive_refreshed (l : Line ℚ) {read : Bytes} {held : List (Piece ℚ)}
    (hheld : AtHand l.clock l.channel.intake.buffer read held) (timeout : Option ℚ)
    (hread : held ≠ [] → l.MayRead timeout) :
    SameReceipt ((Line.receive timeout).apply (l.refreshed read held))
      ((Line.receive timeout).apply l) := by
  obtain ⟨houtcome, hclock, hstream⟩ := receiveFrom_atHand
    ⟨l.channel.intake.inlet.timed, l.channel.intake.inlet.closed⟩
    ⟨l.clock + timeout.getD l.channel.readTimeout, timeout.getD l.channel.readTimeout⟩ l.clock read
    held l.channel.intake.inlet.pending hheld.filled hheld.come
    fun hne => ⟨(hread hne).isOpen, fun htimed => lt_add_of_pos_right _ ((hread hne).inTime htimed)⟩
  rw [hheld.holds] at houtcome hclock hstream
  refine ⟨houtcome, hclock, ?_, hstream⟩
  simp only [Line.receive, Action.apply_ofFun, Channel.receive, Intake.receive, Timeline.fits_rat,
    if_true, Line.refreshed, houtcome]
  rfl

/-! ### What each fault leaves behind -/

/-- Whoever receives on a line accounts for the bytes that are read. -/
theorem Line.receive_accounts [Timeline τ] (l : Line τ) {timeout : Option τ}
    (hfits : Timeline.fits (timeout.getD l.channel.readTimeout) = true) :
    let done := (Line.receive timeout).apply l
    ∃ (m : Manner) (allowed : τ) (gone : List (Piece τ)) (r : Receipt τ),
      done.1 = r.outcome ∧ done.2.channel.intake.buffer = r.buffer ∧
      l.channel.intake.inlet.pending = gone ++ done.2.channel.intake.inlet.pending ∧
      r.Accounts m allowed gone (l.channel.intake.buffer ++ gone.flatMap Piece.bytes) := by
  obtain ⟨gone, r, hreceive, hpending, haccounts⟩ :=
    l.channel.intake.receive_accounts hfits l.clock
  simp only [Line.receive, Action.apply_ofFun, Channel.receive, hreceive]
  exact ⟨_, _, gone, r, rfl, rfl, hpending, haccounts⟩

/-- A line on which a header block was refused is stuck. -/
theorem Line.stuck_of_receive {l : Line ℚ}
    (hforeign : ∀ piece ∈ l.channel.intake.inlet.pending, piece.kind.Foreign)
    {timeout : Option ℚ} {fault : FramingFault} (hfault : fault ≠ .truncated)
    (h : ((Line.receive timeout).apply l).1 = .error (.framing fault)) :
    ((Line.receive timeout).apply l).2.Stuck fault := by
  obtain ⟨m, allowed, gone, r, houtcome, hbuffer, hpending, haccounts⟩ :=
    l.receive_accounts (Timeline.fits_rat (timeout.getD l.channel.readTimeout))
  refine ⟨r.buffer, hbuffer ▸ haccounts.of_framing ?_ hfault (houtcome.symm.trans h)⟩
  exact fun piece hpiece => hforeign piece (hpending ▸ List.mem_append_left _ hpiece)

/-- A body that is no message is taken off the stream with its header block and the empty lines
before that, and nothing else is. -/
theorem Line.stream_of_receive_decode {l : Line ℚ}
    (hforeign : ∀ piece ∈ l.channel.intake.inlet.pending, piece.kind.Foreign)
    {timeout : Option ℚ} {fault : DecodeFault}
    (h : ((Line.receive timeout).apply l).1 = .error (.decode fault)) :
    ∃ stray block body, IsHeaderBlock block ∧ DeclaresLength block body.length ∧
      readBody body = .error (.decode fault) ∧ l.stream =
        blanks stray ++ terminated block (body ++ ((Line.receive timeout).apply l).2.stream) := by
  obtain ⟨m, allowed, gone, r, houtcome, hbuffer, hpending, haccounts⟩ :=
    l.receive_accounts (Timeline.fits_rat (timeout.getD l.channel.readTimeout))
  obtain ⟨stray, block, body, hblock, hdeclares, hbody, hread⟩ := haccounts.of_decode
    (fun piece hpiece => hforeign piece (hpending ▸ List.mem_append_left _ hpiece))
    (houtcome.symm.trans h)
  refine ⟨stray, block, body, hblock, hdeclares, hbody, ?_⟩
  rw [Line.stream, Intake.stream, hpending, List.flatMap_append, ← List.append_assoc, hread,
    List.append_assoc, terminated_append, List.append_assoc, Line.stream, Intake.stream, hbuffer]

/-- When the stream ended inside a frame or the time was over, nothing is taken off the stream but
empty lines. -/
theorem Line.stream_of_receive_incomplete {l : Line ℚ} {timeout : Option ℚ}
    (h : ((Line.receive timeout).apply l).1 = .error (.framing .truncated) ∨
      gaveUp ((Line.receive timeout).apply l).1 = true) :
    ∃ stray, l.stream = blanks stray ++ ((Line.receive timeout).apply l).2.stream := by
  obtain ⟨m, allowed, gone, r, houtcome, hbuffer, hpending, haccounts⟩ :=
    l.receive_accounts (Timeline.fits_rat (timeout.getD l.channel.readTimeout))
  rw [houtcome] at h
  have hnone : ∀ body rest,
      scan (l.channel.intake.buffer ++ gone.flatMap Piece.bytes) ≠ .whole body rest := by
    intro body rest hscan
    -- a body gives neither of these faults
    rw [Receipt.Accounts, hscan] at haccounts
    rcases h with htruncated | hover
    · rw [htruncated] at haccounts
      rcases fault_of_body haccounts.1.symm with ⟨cause, -, heq⟩ | heq <;> cases heq
    · rw [haccounts.1, gaveUp_ofBody] at hover
      cases hover
  obtain ⟨stray, hread⟩ := haccounts.keeps hnone
  refine ⟨stray, ?_⟩
  rw [Line.stream, Intake.stream, hpending, List.flatMap_append, ← List.append_assoc, hread,
    List.append_assoc, Line.stream, Intake.stream, hbuffer]

/-- **What each fault of receiving leaves behind.**  Let any line be used by whoever receives, where
the trouble in line is foreign.  If a header block is refused, every attempt to receive that comes
later is refused with the same fault, whatever has happened to the line before it.  If a body is no
message, the frame with that body has been taken off the stream, with the empty lines before it and
nothing after it; and the next attempt comes to the same as on a fresh channel with the bytes that
follow, be they read already or, where it may read, in line as well.  If the stream ended inside a
frame, or the time was over, nothing but empty lines has been taken off the stream. -/
theorem Line.receive_fault (l : Line ℚ)
    (hforeign : ∀ piece ∈ l.channel.intake.inlet.pending, piece.kind.Foreign)
    (timeout : Option ℚ) :
    let done := (Line.receive timeout).apply l
    (∀ fault, fault ≠ .truncated → done.1 = .error (.framing fault) →
      ∀ occurrences later, ((Line.receive later).apply (done.2.after occurrences)).1 =
        .error (.framing fault)) ∧
    (∀ fault, done.1 = .error (.decode fault) →
      (∃ stray block body, IsHeaderBlock block ∧ DeclaresLength block body.length ∧
        readBody body = .error (.decode fault) ∧
        l.stream = blanks stray ++ terminated block (body ++ done.2.stream)) ∧
      ∀ read held, AtHand done.2.clock done.2.channel.intake.buffer read held →
        ∀ next, (held ≠ [] → done.2.MayRead next) →
          SameReceipt ((Line.receive next).apply (done.2.refreshed read held))
            ((Line.receive next).apply done.2)) ∧
    (done.1 = .error (.framing .truncated) ∨ gaveUp done.1 = true →
      ∃ stray, l.stream = blanks stray ++ done.2.stream) := by
  refine ⟨fun fault hfault houtcome occurrences later => ?_, fun fault houtcome =>
    ⟨Line.stream_of_receive_decode hforeign houtcome, ?_⟩, Line.stream_of_receive_incomplete⟩
  · exact (((Line.stuck_of_receive hforeign hfault houtcome).after occurrences).receive_eq
      (Timeline.fits_rat _)).1
  · exact fun read held hheld next hread => Line.receive_refreshed _ hheld next hread

/-- A line on which bytes have come in all at once. -/
def lineWith (bytes : Bytes) : Line ℚ := { channel := channelWith bytes, clock := 0 }

theorem foreign_lineWith (bytes : Bytes) :
    ∀ piece ∈ (lineWith bytes).channel.intake.inlet.pending, piece.kind.Foreign := by
  intro piece hpiece
  rw [List.mem_singleton.mp hpiece]
  trivial

/-- Bytes that have come in all at once are read at once. -/
theorem receive_lineWith (bytes : Bytes) (h : bytes ≠ []) :
    ∃ patience : Patience ℚ,
      let r := receiveFrom ⟨false, false⟩ patience 0 bytes []
      let done := (Line.receive none).apply (lineWith bytes)
      done.1 = r.outcome ∧ done.2.channel.intake.buffer = r.buffer ∧ done.2.clock = r.clock := by
  have hnone : scan [] = .wanting [] := rfl
  have hfilled : bytes.isEmpty = false := by simpa using h
  refine ⟨⟨0 + 5, 5⟩, ?_⟩
  simp [Line.receive, lineWith, channelWith, channelOn, Channel.receive, Intake.receive,
    Inlet.empty, receiveFrom, settle, hnone, arrival?, hfilled]

/-- A frame that follows one that is spoiled. -/
def nextFrame : Bytes := Text.utf8 "Content-Length: 2\r\n\r\n\x7b\x7d"

/-- A frame with a body of one letter, and the next frame. -/
def spoiledBody : Bytes := terminated (Text.utf8 "Content-Length: 1") (120 :: nextFrame)

/-- A header line without a colon, and the next frame. -/
def spoiledHeader : Bytes := terminated (Text.utf8 "Content-Length") nextFrame

theorem receive_spoiledBody :
    let done := (Line.receive none).apply (lineWith spoiledBody)
    done.1 = .error (.decode .notJson) ∧ done.2.channel.intake.buffer = nextFrame ∧
      done.2.clock = 0 := by
  obtain ⟨patience, houtcome, hbuffer, hclock⟩ :=
    receive_lineWith spoiledBody (by decide +kernel)
  have hblock : IsHeaderBlock (Text.utf8 "Content-Length: 1") := by constructor <;> decide +kernel
  have hlength : bodyLength (Text.utf8 "Content-Length: 1") = .ok 1 := by decide +kernel
  have hscan : scan spoiledBody = .whole [120] nextFrame := by
    have hblank := scan_terminated hblock 0 (120 :: nextFrame)
    simpa [hlength, spoiledBody] using hblank
  rw [receiveFrom_of_whole hscan] at houtcome hbuffer hclock
  exact ⟨houtcome, hbuffer, hclock⟩

theorem receive_spoiledHeader :
    ((Line.receive none).apply (lineWith spoiledHeader)).1 =
      .error (.framing (.badLine (Text.utf8 "Content-Length"))) := by
  obtain ⟨patience, houtcome, -⟩ :=
    receive_lineWith spoiledHeader (by decide +kernel)
  have hblock : IsHeaderBlock (Text.utf8 "Content-Length") := by constructor <;> decide +kernel
  have hlength : bodyLength (Text.utf8 "Content-Length") =
      .error (.badLine (Text.utf8 "Content-Length")) := by decide +kernel
  have hscan : scan spoiledHeader =
      .faulty (.badLine (Text.utf8 "Content-Length")) spoiledHeader := by
    have hblank := scan_terminated hblock 0 nextFrame
    simpa [hlength, spoiledHeader] using hblank
  rw [receiveFrom_of_faulty hscan] at houtcome
  exact houtcome

theorem Line.receive_fault_spoiled :
    let done := (Line.receive none).apply (lineWith spoiledBody)
    let refused := (Line.receive none).apply (lineWith spoiledHeader)
    (done.1 = .error (.decode .notJson) ∧
      SameReceipt ((Line.receive none).apply (done.2.refreshed [] [⟨0, .data nextFrame⟩]))
        ((Line.receive none).apply done.2)) ∧
    ∀ occurrences later, ((Line.receive later).apply (refused.2.after occurrences)).1 =
      .error (.framing (.badLine (Text.utf8 "Content-Length"))) := by
  obtain ⟨hdecode, hbuffer, hclock⟩ := receive_spoiledBody
  have hbody := Line.receive_fault (lineWith spoiledBody) (foreign_lineWith _) none
  have hheader := Line.receive_fault (lineWith spoiledHeader) (foreign_lineWith _) none
  refine ⟨⟨hdecode, (hbody.2.1 _ hdecode).2 [] _ ⟨?_, ?_, ?_⟩ none fun _ =>
    ⟨rfl, fun htimed => nomatch htimed⟩⟩, hheader.1 _ (by simp) receive_spoiledHeader⟩
  · simpa using fun h => absurd h (by decide +kernel : nextFrame ≠ [])
  · simp [hclock]
  · rw [hbuffer]
    simp [Piece.bytes]

end ClassOrder
