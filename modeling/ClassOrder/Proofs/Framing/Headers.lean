import ClassOrder.Proofs.Framing.Scan
import ClassOrder.Proofs.Number.Digits

/-!
# Header blocks as anyone may write them

A header block is written line by line: a name, a colon and a value, with blanks around either, the
name in letters of either case.  Reading finds the end of the block at the empty line after it and
nowhere before, and finds in it the lines that were written.

## Main definitions

* `HeaderLine` — a header line.
* `blockOf` — the block of some lines.

## Main results

* `splitBlock_blockOf` — where a block ends.
* `headerBlock_blockOf` — the headers of a block.
* `bodyLength_blockOf` — the last line with the length decides.
-/

namespace ClassOrder

/-- A header line as anyone may write it: what stands before its first colon and what stands after
it, with the blanks around them. -/
structure HeaderLine where
  name : Bytes
  value : Bytes
  ascii_name : Text.isAscii name = true
  ascii_value : Text.isAscii value = true
  /-- The first colon comes after the name. -/
  noColon : 58 ∉ name
  /-- The line does not end before its end. -/
  unbroken : ¬ lineEnd <:+: name ++ 58 :: value

namespace HeaderLine

/-- The line as it is written. -/
def bytes (l : HeaderLine) : Bytes := l.name ++ 58 :: l.value

/-- The header that the line writes. -/
def header (l : HeaderLine) : Header where
  name := String.ofList (Number.lower (Text.trim (Text.ofAscii l.name)))
  value := String.ofList (Text.trim (Text.ofAscii l.value))

theorem unbroken_bytes (l : HeaderLine) : ¬ lineEnd <:+: l.bytes := l.unbroken

end HeaderLine

/-- The header block of some lines. -/
def blockOf (lines : List HeaderLine) : Bytes := lineEnd.intercalate (lines.map HeaderLine.bytes)

@[simp] theorem blockOf_singleton (l : HeaderLine) : blockOf [l] = l.bytes := by
  simp [blockOf]

@[simp] theorem blockOf_cons_cons (l l' : HeaderLine) (lines : List HeaderLine) :
    blockOf (l :: l' :: lines) = l.bytes ++ 13 :: 10 :: blockOf (l' :: lines) := by
  simp [blockOf, lineEnd]

/-! ### The end of a block -/

theorem unbroken_of_cons {b : UInt8} {line : Bytes} (h : ¬ lineEnd <:+: b :: line) :
    ¬ lineEnd <:+: line :=
  fun hline => h (hline.trans (List.suffix_cons b line).isInfix)

/-- No line end begins inside a line, and none begins with its last byte. -/
theorem no_lineEnd_inside {b : UInt8} {line : Bytes} (h : ¬ lineEnd <:+: b :: line) (hb : b = 13)
    (rest more : Bytes) : line ++ 13 :: rest ≠ 10 :: more := by
  intro heq
  cases line with
  | nil => simp at heq
  | cons c line =>
    obtain ⟨rfl, -⟩ := List.cons_eq_cons.mp heq
    exact h ⟨[], line, by simp [lineEnd, hb]⟩

/-- A block goes on after a line that no empty line follows. -/
theorem splitBlockFrom_line {line : Bytes} (h : ¬ lineEnd <:+: line) {rest : Bytes}
    (hrest : ∀ body, rest ≠ 13 :: 10 :: body) (read : Bytes) :
    splitBlockFrom read (line ++ 13 :: 10 :: rest) =
      splitBlockFrom (10 :: 13 :: (line.reverse ++ read)) rest := by
  induction line generalizing read with
  | nil =>
    rw [List.nil_append, splitBlockFrom, splitBlockFrom]
    · rfl
    · rintro body hten -
      simp at hten
    · rintro body - heq
      exact hrest body (List.cons_eq_cons.mp heq).2
  | cons b line ih =>
    rw [List.cons_append, splitBlockFrom, ih (unbroken_of_cons h)]
    · simp
    · rintro body hb heq
      exact no_lineEnd_inside h hb _ _ heq

/-- A block ends with a line that an empty line follows. -/
theorem splitBlockFrom_last {line : Bytes} (h : ¬ lineEnd <:+: line) (read body : Bytes) :
    splitBlockFrom read (line ++ 13 :: 10 :: 13 :: 10 :: body) =
      some (read.reverse ++ line, body) := by
  induction line generalizing read with
  | nil => simp [splitBlockFrom]
  | cons b line ih =>
    rw [List.cons_append, splitBlockFrom, ih (unbroken_of_cons h)]
    · simp
    · rintro more hb heq
      exact no_lineEnd_inside h hb _ _ heq

/-- A block starts with no empty line, whatever follows it. -/
theorem blockOf_append_ne (l : HeaderLine) (lines : List HeaderLine) (rest body : Bytes) :
    blockOf (l :: lines) ++ 13 :: rest ≠ 13 :: 10 :: body := by
  have hline (more : Bytes) : l.bytes ++ 13 :: more ≠ 13 :: 10 :: body := by
    intro heq
    have hunbroken := l.unbroken_bytes
    cases hbytes : l.bytes with
    | nil => simp [HeaderLine.bytes] at hbytes
    | cons b line =>
      rw [hbytes] at heq hunbroken
      obtain ⟨hb, htail⟩ := List.cons_eq_cons.mp heq
      exact no_lineEnd_inside hunbroken hb _ _ htail
  cases lines with
  | nil => simpa using hline rest
  | cons l' lines => simpa using hline _

theorem splitBlockFrom_blockOf (l : HeaderLine) (lines : List HeaderLine) (read body : Bytes) :
    splitBlockFrom read (blockOf (l :: lines) ++ 13 :: 10 :: 13 :: 10 :: body) =
      some (read.reverse ++ blockOf (l :: lines), body) := by
  induction lines generalizing l read with
  | nil =>
    rw [blockOf_singleton]
    exact splitBlockFrom_last l.unbroken_bytes read body
  | cons l' lines ih =>
    rw [blockOf_cons_cons, List.append_assoc, List.cons_append, List.cons_append,
      splitBlockFrom_line l.unbroken_bytes (blockOf_append_ne l' lines _), ih]
    simp [HeaderLine.bytes]

/-- **A block ends at the empty line after it**, whatever the body after that holds. -/
theorem splitBlock_blockOf (l : HeaderLine) (lines : List HeaderLine) (body : Bytes) :
    splitBlock (blockOf (l :: lines) ++ 13 :: 10 :: 13 :: 10 :: body) =
      some (blockOf (l :: lines), body) := by
  simpa [splitBlock] using splitBlockFrom_blockOf l lines [] body

/-! ### The lines of a block -/

theorem linesFrom_line {line : Bytes} (h : ¬ lineEnd <:+: line) (start rest : Bytes) :
    linesFrom start (line ++ 13 :: 10 :: rest) = (start.reverse ++ line) :: linesFrom [] rest := by
  induction line generalizing start with
  | nil => simp [linesFrom]
  | cons b line ih =>
    rw [List.cons_append, linesFrom, ih (unbroken_of_cons h)]
    · simp
    · rintro more hb heq
      exact no_lineEnd_inside h hb _ _ heq

theorem linesFrom_last {line : Bytes} (h : ¬ lineEnd <:+: line) (start : Bytes) :
    linesFrom start line = [start.reverse ++ line] := by
  induction line generalizing start with
  | nil => simp [linesFrom]
  | cons b line ih =>
    rw [linesFrom, ih (unbroken_of_cons h)]
    · simp
    · rintro more rfl rfl
      exact h ⟨[], more, by simp [lineEnd]⟩

/-- The lines of a block are those that were written. -/
theorem headerLines_blockOf (l : HeaderLine) (lines : List HeaderLine) :
    headerLines (blockOf (l :: lines)) = (l :: lines).map HeaderLine.bytes := by
  induction lines generalizing l with
  | nil =>
    rw [headerLines, blockOf_singleton, linesFrom_last l.unbroken_bytes]
    rfl
  | cons l' lines ih =>
    rw [headerLines, blockOf_cons_cons, linesFrom_line l.unbroken_bytes, ← headerLines, ih]
    rfl

/-! ### Headers -/

/-- A byte of ASCII is the number of its character. -/
theorem toNat_char_of_ascii {b : UInt8} (h : b < 0x80) : (Char.ofNat b.toNat).toNat = b.toNat := by
  have hlt : b.toNat < 128 := h
  have hvalid : b.toNat.isValidChar := .inl (by omega)
  rw [Char.ofNat, dif_pos hvalid]
  rfl

theorem ofNat_toNat_ne_colon {b : UInt8} (hascii : b < 0x80) (hb : b ≠ 58) :
    Char.ofNat b.toNat ≠ ':' := by
  intro heq
  have htoNat := toNat_char_of_ascii hascii
  rw [heq] at htoNat
  exact hb (UInt8.toNat_inj.mp htoNat.symm)

/-- A line writes its header. -/
theorem readHeader_bytes (l : HeaderLine) : readHeader l.bytes = .ok l.header := by
  have hascii : Text.isAscii l.bytes = true := by
    have hname := l.ascii_name
    have hvalue := l.ascii_value
    simp only [Text.isAscii, List.all_eq_true] at hname hvalue
    simp only [HeaderLine.bytes, Text.isAscii, List.all_append, List.all_cons, Bool.and_eq_true,
      List.all_eq_true]
    exact ⟨hname, by decide, hvalue⟩
  have htext : Text.ofAscii l.bytes = Text.ofAscii l.name ++ ':' :: Text.ofAscii l.value := by
    simp only [HeaderLine.bytes, Text.ofAscii, List.map_append, List.map_cons]
    rfl
  have hname : ∀ c ∈ Text.ofAscii l.name, (c != ':') = true := by
    intro c hc
    obtain ⟨b, hb, rfl⟩ := List.mem_map.mp hc
    have hsmall := l.ascii_name
    simp only [Text.isAscii, List.all_eq_true, decide_eq_true_eq] at hsmall
    rw [bne_iff_ne]
    exact ofNat_toNat_ne_colon (hsmall b hb) fun h => l.noColon (h ▸ hb)
  have hspan : (Text.ofAscii l.bytes).span (· != ':') =
      (Text.ofAscii l.name, ':' :: Text.ofAscii l.value) := by
    rw [htext, List.span_eq_takeWhile_dropWhile, List.takeWhile_append_of_pos hname,
      List.dropWhile_append_of_pos hname]
    simp
  simp only [readHeader, hascii, hspan, Bool.not_true, Bool.false_eq_true, if_false]
  rfl

theorem mapM_readHeader (lines : List HeaderLine) :
    (lines.map HeaderLine.bytes).mapM readHeader = .ok (lines.map HeaderLine.header) := by
  induction lines with
  | nil => rfl
  | cons l lines ih =>
    rw [List.map_cons, List.mapM_cons, readHeader_bytes, ih]
    rfl

/-- The headers of a block are those that its lines write. -/
theorem headerBlock_blockOf (l : HeaderLine) (lines : List HeaderLine) :
    headerBlock (blockOf (l :: lines)) = .ok ((l :: lines).map HeaderLine.header) := by
  rw [headerBlock, headerLines_blockOf, mapM_readHeader]

/-! ### The length of the body -/

theorem lastValue?_append_cons {name : String} {h : Header} (hname : h.name = name)
    (before : List Header) {after : List Header} (hafter : ∀ h ∈ after, h.name ≠ name) :
    lastValue? name (before ++ h :: after) = some h.value := by
  have hnone : after.reverse.find? (·.name = name) = none := by
    rw [List.find?_eq_none]
    intro h' hh'
    simpa using hafter h' (List.mem_reverse.mp hh')
  simp [lastValue?, List.find?_append, hnone, hname]

/-- **The last line that gives the length decides**, whatever the lines before it say. -/
theorem bodyLength_blockOf (before : List HeaderLine) (l : HeaderLine) (after : List HeaderLine)
    {n : Nat} (hname : l.header.name = lengthName)
    (hvalue : Number.integer? l.header.value.toList = some (n : Int))
    (hafter : ∀ l' ∈ after, l'.header.name ≠ lengthName) :
    bodyLength (blockOf (before ++ l :: after)) = .ok n := by
  obtain ⟨first, lines, hlines⟩ : ∃ first lines, before ++ l :: after = first :: lines :=
    List.exists_cons_of_ne_nil (by simp)
  have hlast : lastValue? lengthName ((before ++ l :: after).map HeaderLine.header) =
      some l.header.value := by
    rw [List.map_append, List.map_cons]
    refine lastValue?_append_cons hname _ fun h hh => ?_
    obtain ⟨l', hl', rfl⟩ := List.mem_map.mp hh
    exact hafter l' hl'
  rw [hlines] at hlast ⊢
  rw [bodyLength, headerBlock_blockOf]
  simp only [hlast, hvalue]

end ClassOrder
