import ClassOrder.Proofs.Framing.Chunking
import ClassOrder.Proofs.Framing.Headers

/-!
# Series of frames

Frames that come one after the other, with empty lines between them, are read one by one.  A body
may hold anything, empty lines and header lines too: its length alone says where the next frame
starts, so that a body that is no message costs nothing but itself.

## Main definitions

* `WrittenFrame` — a frame as anyone may write it.
* `seriesOf` — frames one after the other, with empty lines after the last one.
* `WrittenFrame.outcome` — what the body of a frame gives.

## Main results

* `scan_frame` — the frame at the start of the input is found.
* `nextOutcome_iterate_seriesOf` — what is left of a series after a number of frames.
* `receiveAll_series` — **every frame is received as if it were alone.**
-/

namespace ClassOrder

/-- A frame as anyone may write it, with the empty lines before it. -/
structure WrittenFrame where
  /-- How many empty lines come before it. -/
  blankLines : Nat
  /-- The header lines before the one that decides the length. -/
  before : List HeaderLine
  /-- The last header line that gives a length. -/
  length : HeaderLine
  /-- The header lines after it. -/
  after : List HeaderLine
  body : Bytes
  length_name : length.header.name = lengthName
  length_value : Number.integer? length.header.value.toList = some (body.length : Int)
  after_name : ∀ l ∈ after, l.header.name ≠ lengthName

/-- Empty lines. -/
def blanks (count : Nat) : Bytes := (List.replicate count lineEnd).flatten

@[simp] theorem blanks_zero : blanks 0 = [] := rfl

@[simp] theorem blanks_succ (count : Nat) : blanks (count + 1) = 13 :: 10 :: blanks count := by
  simp [blanks, List.replicate_succ, lineEnd]

namespace WrittenFrame

/-- The header block. -/
def block (f : WrittenFrame) : Bytes := blockOf (f.before ++ f.length :: f.after)

/-- The frame as it is written. -/
def bytes (f : WrittenFrame) : Bytes :=
  blanks f.blankLines ++ (f.block ++ (lineEnd ++ (lineEnd ++ f.body)))

/-- What the body of the frame gives: a message, or why it is none. -/
def outcome (f : WrittenFrame) : Except (Fault ℚ) Message := (readBody f.body).mapError .ofBody

end WrittenFrame

/-- Frames one after the other, with `stray` empty lines after the last one. -/
def seriesOf (frames : List WrittenFrame) (stray : Nat) : Bytes :=
  frames.flatMap WrittenFrame.bytes ++ blanks stray

theorem seriesOf_cons (f : WrittenFrame) (frames : List WrittenFrame) (stray : Nat) :
    seriesOf (f :: frames) stray = f.bytes ++ seriesOf frames stray := by
  rw [seriesOf, List.flatMap_cons, List.append_assoc, ← seriesOf]

/-! ### One frame -/

theorem skipLineEnds_blanks_append (count : Nat) (rest : Bytes) :
    skipLineEnds (blanks count ++ rest) = skipLineEnds rest := by
  induction count with
  | zero => rfl
  | succ count ih =>
    rw [blanks_succ, List.cons_append, List.cons_append, skipLineEnds_cons_cons, ih]

/-- A header block starts with no empty line. -/
theorem skipLineEnds_blockOf (l : HeaderLine) (lines : List HeaderLine) (rest : Bytes) :
    skipLineEnds (blockOf (l :: lines) ++ 13 :: rest) = blockOf (l :: lines) ++ 13 :: rest := by
  rw [skipLineEnds]
  exact fun body => blockOf_append_ne l lines rest body

/-- **The frame at the start of the input is found**, whatever its body holds and whatever comes
after it. -/
theorem scan_frame (f : WrittenFrame) (rest : Bytes) :
    scan (f.bytes ++ rest) = .whole f.body rest := by
  obtain ⟨l, lines, hlines⟩ : ∃ l lines, f.before ++ f.length :: f.after = l :: lines :=
    List.exists_cons_of_ne_nil (by simp)
  have hlength : bodyLength f.block = .ok f.body.length :=
    bodyLength_blockOf f.before f.length f.after f.length_name f.length_value f.after_name
  have hbytes : f.bytes ++ rest =
      blanks f.blankLines ++ (f.block ++ 13 :: 10 :: 13 :: 10 :: (f.body ++ rest)) := by
    simp [WrittenFrame.bytes, lineEnd]
  rw [WrittenFrame.block, hlines] at hlength hbytes
  refine scan_eq_whole_iff.mpr ⟨_, ?_, hlength⟩
  rw [hbytes, skipLineEnds_blanks_append, skipLineEnds_blockOf]
  exact splitBlock_blockOf l lines (f.body ++ rest)

theorem scan_blanks (stray : Nat) : scan (blanks stray) = .wanting [] := by
  have hskip : skipLineEnds (blanks stray) = [] := by
    simpa [skipLineEnds] using skipLineEnds_blanks_append stray []
  rw [scan, hskip]
  rfl

/-! ### One frame after the other -/

/-- What a series says to its reader after as many frames have been read. -/
def seriesOutcome (frames : List WrittenFrame) (k : Nat) : Except (Fault ℚ) Message :=
  (frames[k]?.map WrittenFrame.outcome).getD (.error .outputClosed)

theorem nextOutcome_iterate_blanks (stray k : Nat) :
    nextOutcome (τ := ℚ) (afterNext^[k] (blanks stray)) = .error .outputClosed := by
  have hnil : afterNext [] = [] := rfl
  cases k with
  | zero => rw [Function.iterate_zero_apply, nextOutcome, scan_blanks]; rfl
  | succ k =>
    rw [Function.iterate_succ_apply, afterNext, scan_blanks, Function.iterate_fixed hnil]
    rfl

/-- Reading a frame leaves the frames after it. -/
theorem nextOutcome_iterate_seriesOf (frames : List WrittenFrame) (stray k : Nat) :
    nextOutcome (afterNext^[k] (seriesOf frames stray)) = seriesOutcome frames k := by
  induction frames generalizing k with
  | nil => exact nextOutcome_iterate_blanks stray k
  | cons f frames ih =>
    have hscan := scan_frame f (seriesOf frames stray)
    rw [seriesOf_cons]
    cases k with
    | zero =>
      rw [Function.iterate_zero_apply, nextOutcome, hscan]
      rfl
    | succ k =>
      rw [Function.iterate_succ_apply, afterNext, hscan, ih, seriesOutcome, seriesOutcome,
        List.getElem?_cons_succ]

theorem outcomesOf_seriesOf (frames : List WrittenFrame) (stray count : Nat) :
    outcomesOf count (seriesOf frames stray) = (List.range count).map (seriesOutcome frames) := by
  rw [outcomesOf]
  exact List.map_congr_left fun k _ => nextOutcome_iterate_seriesOf frames stray k

/-! ### The whole -/

/-- **Every frame is received as if it were alone.**  Let a series of frames come in any pieces.
If they need not be waited for, the attempts to receive give what the bodies give, one after the
other, and from then on the end of the stream, whatever the times they are allowed.  If the pieces
arrive at times of their own, the attempts that are not given up give just that. -/
theorem receiveAll_series (frames : List WrittenFrame) (stray : Nat) (d : Delivery)
    (hbytes : d.bytes = seriesOf frames stray) (c : Channel ℚ) (clock : ℚ)
    (attempts : List Attempt) :
    (Channel.receiveAll attempts clock { c with intake := d.intake false }).1 =
        (List.range attempts.length).map (seriesOutcome frames) ∧
      ∀ timed, got (Channel.receiveAll attempts clock { c with intake := d.intake timed }).1 =
        (List.range (got (Channel.receiveAll attempts clock
          { c with intake := d.intake timed }).1).length).map (seriesOutcome frames) := by
  have hgot (timed : Bool) :
      got (Channel.receiveAll attempts clock { c with intake := d.intake timed }).1 =
        (List.range (got (Channel.receiveAll attempts clock
          { c with intake := d.intake timed }).1).length).map (seriesOutcome frames) := by
    have hprogress := (Progress.receiveAll attempts (c := { c with intake := d.intake timed })
      (d.progress_intake timed clock)).1.eq_outcomesOf
    rwa [List.nil_append, hbytes, outcomesOf_seriesOf] at hprogress
  refine ⟨?_, hgot⟩
  -- nobody gives up who does not wait
  have hall := (Progress.receiveAll attempts (c := { c with intake := d.intake false })
    (d.progress_intake false clock)).2 rfl
  have hseries := hgot false
  rwa [hall, length_receiveAll] at hseries

/-- A header line with a name of length in capitals and blanks around it, and a value with zeros
before it. -/
def paddedLength (value : Bytes) (hvalue : Text.isAscii value = true)
    (hunbroken : ¬ lineEnd <:+: Text.utf8 " CONTENT-Length " ++ 58 :: value) : HeaderLine where
  name := Text.utf8 " CONTENT-Length "
  value
  ascii_name := by decide +kernel
  ascii_value := hvalue
  noColon := by decide +kernel
  unbroken := hunbroken

/-- A frame whose body looks like the end of a header block and ends inside an empty line; its
header block says the length twice, and only the last time right. -/
def misleadingFrame : WrittenFrame where
  blankLines := 1
  before := [paddedLength (Text.utf8 "1") (by decide +kernel) (by decide +kernel)]
  length := paddedLength (Text.utf8 " 009 ") (by decide +kernel) (by decide +kernel)
  after := []
  body := Text.utf8 "a: 1\r\n\r\n\r"
  length_name := by decide +kernel
  length_value := by decide +kernel
  after_name := by decide +kernel

/-- A frame with a notification. -/
def notificationFrame : WrittenFrame where
  blankLines := 0
  before := []
  length := paddedLength (Text.utf8 "30") (by decide +kernel) (by decide +kernel)
  after := []
  body := Text.utf8 "\x7b\"jsonrpc\":\"2.0\",\"method\":\"m\"\x7d"
  length_name := by decide +kernel
  length_value := by decide +kernel
  after_name := by decide +kernel

/-- A stream that comes byte by byte. -/
def byteByByte (bytes : Bytes) : Delivery where
  pieces := bytes.map fun b => (1, [b])
  filled := by simp
  ending := none

theorem bytes_byteByByte (bytes : Bytes) : (byteByByte bytes).bytes = bytes := by
  simp [Delivery.bytes, byteByByte, joined, List.flatMap_map]

theorem receiveAll_series_misleading :
    ((Channel.receiveAll (List.replicate 3 ⟨0, le_rfl, none⟩) 0 (channelOn
        ((byteByByte (seriesOf [misleadingFrame, notificationFrame] 2)).intake false))).1.map
      fun r => r.toOption.map Message.method?) = [none, some (some "m"), none] := by
  let series := byteByByte (seriesOf [misleadingFrame, notificationFrame] 2)
  have h := (receiveAll_series [misleadingFrame, notificationFrame] 2 series (bytes_byteByByte _)
    (channelOn (series.intake false)) 0 (List.replicate 3 ⟨0, le_rfl, none⟩)).1
  refine (congrArg (List.map _) h).trans ?_
  decide +kernel

end ClassOrder
