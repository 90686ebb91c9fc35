import ClassOrder.Proofs.Framing.Headers
import ClassOrder.Proofs.Number.Grouped
import ClassOrder.Proofs.Number.Written
import ClassOrder.Proofs.Text.Trim

/-!
# The grammar of header blocks

A header block gives a length if its lines are header lines and the last of them that is named for
the length has a whole number for a value.  The grammar says so of the bytes, without reading them;
reading comes to a length for just the blocks of the grammar, and to the length that they write.

## Main definitions

* `IsHeaderBlank` — the bytes that may surround a name or a value.
* `HeaderLine.NamesLength`, `HeaderLine.WritesLength` — a line that is named for the length, and
  the length that a line writes.
* `DeclaresLength` — **the grammar of header blocks.**

## Main results

* `HeaderLine.header_name_eq_iff`, `HeaderLine.integer?_header_value_iff` — what a header says.
* `exists_lines_of_headerBlock` — the lines of a block that can be read.
* `bodyLength_eq_ok_iff` — **reading follows the grammar.**
-/

namespace ClassOrder

open Text Number

/-- The bytes that may surround a name or a value. -/
def IsHeaderBlank (b : UInt8) : Prop := (0x09 ≤ b ∧ b ≤ 0x0D) ∨ (0x1C ≤ b ∧ b ≤ 0x20)

namespace HeaderLine

/-- The name of the line is the one of the length, in letters of either case. -/
def NamesLength (l : HeaderLine) : Prop :=
  ∃ word, Padded IsHeaderBlank l.name word ∧ lower (ofAscii word) = lengthName.toList

/-- The value of the line writes a length. -/
def WritesLength (l : HeaderLine) (n : Nat) : Prop :=
  ∃ word, Padded IsHeaderBlank l.value word ∧ WritesInteger (ofAscii word) n

end HeaderLine

/-- A block of header lines of which the last one named for the length writes the length `n`. -/
def DeclaresLength (block : Bytes) (n : Nat) : Prop :=
  ∃ before l after, block = blockOf (before ++ l :: after) ∧ l.NamesLength ∧ l.WritesLength n ∧
    ∀ l' ∈ after, ¬ l'.NamesLength

/-! ### Names and values -/

theorem isBlank_ofNat_iff {b : UInt8} (h : b < 0x80) :
    isBlank (Char.ofNat b.toNat) = true ↔ IsHeaderBlank b := by
  have hlt : b.toNat < 128 := h
  simp only [isBlank, toNat_char_of_ascii h, IsHeaderBlank, UInt8.le_iff_toNat_le, Bool.or_eq_true,
    Bool.and_eq_true, decide_eq_true_eq, beq_iff_eq, UInt8.reduceToNat]
  omega

/-- Blanks around a word of bytes are blanks around the word that they write. -/
theorem exists_padded_ascii_iff {bytes : Bytes} (hascii : isAscii bytes = true)
    (P : List Char → Prop) :
    (∃ word, Padded IsHeaderBlank bytes word ∧ P (ofAscii word)) ↔
      ∃ word, Padded (isBlank · = true) (ofAscii bytes) word ∧ P word := by
  have hsmall : ∀ b ∈ bytes, b < 0x80 := by simpa [isAscii] using hascii
  simp only [ofAscii, padded_map_iff]
  constructor
  · rintro ⟨word, hpadded, hword⟩
    exact ⟨_, ⟨word, hpadded.congr fun b hb => (isBlank_ofNat_iff (hsmall b hb)).mpr, rfl⟩, hword⟩
  · rintro ⟨_, ⟨word, hpadded, rfl⟩, hword⟩
    exact ⟨word, hpadded.congr fun b hb => (isBlank_ofNat_iff (hsmall b hb)).mp, hword⟩

/-- A blank is no letter, so it is the same in lower case. -/
theorem toLower_of_isBlank {c : Char} (h : isBlank c = true) : c.toLower = c := by
  refine dif_neg ?_
  simp only [UInt32.le_iff_toNat_le, ge_iff_le]
  rintro ⟨hlow, hhigh⟩
  have : (65 : Nat) ≤ c.toNat := hlow
  have : c.toNat ≤ (90 : Nat) := hhigh
  simp only [isBlank, Bool.or_eq_true, Bool.and_eq_true, decide_eq_true_eq, beq_iff_eq] at h
  omega

theorem bare_of_lower_eq {word : List Char} (h : lower word = lengthName.toList) :
    Bare (isBlank · = true) word := by
  refine bare_of_forall fun c hc hblank => ?_
  have hmem : c.toLower ∈ lengthName.toList := h ▸ List.mem_map_of_mem hc
  rw [toLower_of_isBlank hblank] at hmem
  have hnone : lengthName.toList.all (!isBlank ·) = true := rfl
  have hblankless := List.all_eq_true.mp hnone _ hmem
  simp [hblank] at hblankless

/-- A sign, a digit or an underscore is no blank. -/
theorem bare_of_writesInteger {word : List Char} {n : Int} (h : WritesInteger word n) :
    Bare (isBlank · = true) word := by
  have hdigit {d : Char} (hd : isAsciiDigit d = true) : ¬ isBlank d = true := by
    have hrange := (isAsciiDigit_iff d).mp hd
    simp only [isBlank, Bool.or_eq_true, Bool.and_eq_true, decide_eq_true_eq, beq_iff_eq]
    omega
  obtain ⟨hmark, htext, -⟩ := h
  refine bare_of_forall fun c hc => ?_
  rcases List.mem_append.mp hc with hmem | hmem
  · cases hmark with
    | absent => cases hmem
    | plus => cases List.mem_singleton.mp hmem; decide
    | minus => cases List.mem_singleton.mp hmem; decide
  · rcases htext.of_mem_text hmem with hd | rfl
    · exact hdigit hd
    · decide

namespace HeaderLine

theorem header_name_eq_iff (l : HeaderLine) : l.header.name = lengthName ↔ l.NamesLength := by
  rw [NamesLength, exists_padded_ascii_iff l.ascii_name (lower · = lengthName.toList),
    exists_padded_iff_trim fun word => bare_of_lower_eq, header, ← String.toList_inj,
    String.toList_ofList]

theorem integer?_header_value_iff (l : HeaderLine) (n : Nat) :
    integer? l.header.value.toList = some (n : Int) ↔ l.WritesLength n := by
  rw [WritesLength, exists_padded_ascii_iff l.ascii_value (WritesInteger · n),
    exists_padded_iff_trim fun word => bare_of_writesInteger, header, String.toList_ofList,
    integer?_eq_some_iff]

end HeaderLine

/-! ### The lines of a block -/

theorem linesFrom_ne_nil (line bytes : Bytes) : linesFrom line bytes ≠ [] := by
  fun_induction linesFrom line bytes with
  | case1 line => simp
  | case2 line rest ih => simp
  | case3 line b rest hne ih => exact ih

/-- The lines of a block are what stands between its line ends, and none is inside a line: by
induction on the block, where no line end has been passed over yet. -/
theorem linesFrom_spec (line bytes : Bytes) (hline : ¬ lineEnd.reverse <:+: line)
    (hedge : ∀ more rest, line = 13 :: more → bytes ≠ 10 :: rest) :
    lineEnd.intercalate (linesFrom line bytes) = line.reverse ++ bytes ∧
      ∀ l ∈ linesFrom line bytes, ¬ lineEnd <:+: l := by
  have hdone {line : Bytes} (h : ¬ lineEnd.reverse <:+: line) : ¬ lineEnd <:+: line.reverse := by
    rwa [← List.reverse_infix, List.reverse_reverse]
  fun_induction linesFrom line bytes with
  | case1 line => exact ⟨by simp, by simpa using hdone hline⟩
  | case2 line rest ih =>
    obtain ⟨heq, hlines⟩ := ih (by simp [lineEnd]) (by simp)
    obtain ⟨next, more, hmore⟩ := List.exists_cons_of_ne_nil (linesFrom_ne_nil [] rest)
    refine ⟨?_, List.forall_mem_cons.mpr ⟨hdone hline, hlines⟩⟩
    rw [hmore] at heq ⊢
    rw [List.intercalate_cons_cons, heq]
    simp [lineEnd]
  | case3 line b rest hne ih =>
    have hnext : ¬ lineEnd.reverse <:+: b :: line := by
      rw [List.infix_cons_iff]
      rintro (⟨more, heq⟩ | hinfix)
      · obtain ⟨rfl, hmore⟩ := List.cons_eq_cons.mp heq
        exact hedge more rest hmore.symm rfl
      · exact hline hinfix
    obtain ⟨heq, hlines⟩ := ih hnext (by rintro more rest' ⟨⟩ rfl; exact hne rest' rfl rfl)
    exact ⟨by rw [heq]; simp, hlines⟩

theorem intercalate_headerLines (block : Bytes) :
    lineEnd.intercalate (headerLines block) = block :=
  (linesFrom_spec [] block (by simp [lineEnd]) (by simp)).1

theorem unbroken_of_mem_headerLines {block line : Bytes} (h : line ∈ headerLines block) :
    ¬ lineEnd <:+: line :=
  (linesFrom_spec [] block (by simp [lineEnd]) (by simp)).2 line h

/-- A line that can be read is a header line, and its header is the one that it writes. -/
theorem exists_line_of_readHeader {line : Bytes} {h : Header} (hunbroken : ¬ lineEnd <:+: line)
    (hread : readHeader line = .ok h) : ∃ l : HeaderLine, l.bytes = line ∧ l.header = h := by
  by_cases hascii : isAscii line = true
  · have hsmall : ∀ b ∈ line, b < 0x80 := by simpa [isAscii] using hascii
    by_cases hcolon : 58 ∈ line
    · obtain ⟨name, value, rfl, hname⟩ := List.eq_append_cons_of_mem hcolon
      let l : HeaderLine :=
        { name, value, noColon := hname, unbroken := hunbroken
          ascii_name := by
            simpa [isAscii] using fun b hb => hsmall b (List.mem_append_left _ hb)
          ascii_value := by
            simpa [isAscii] using fun b hb =>
              hsmall b (List.mem_append_right _ (List.mem_cons_of_mem _ hb)) }
      have hheader : readHeader l.bytes = .ok h := hread
      rw [readHeader_bytes] at hheader
      exact ⟨l, rfl, Except.ok.inj hheader⟩
    · -- without a colon there is nothing after the name
      have hnone : (ofAscii line).dropWhile (· != ':') = [] := by
        rw [List.dropWhile_eq_nil_iff]
        intro c hc
        obtain ⟨b, hb, rfl⟩ := List.mem_map.mp hc
        rw [bne_iff_ne]
        exact ofNat_toNat_ne_colon (hsmall b hb) fun heq => hcolon (heq ▸ hb)
      simp [readHeader, hascii, List.span_eq_takeWhile_dropWhile, hnone] at hread
  · simp [readHeader, hascii] at hread

theorem exists_lines_of_mapM {lines : List Bytes} {headers : List Header}
    (hunbroken : ∀ line ∈ lines, ¬ lineEnd <:+: line)
    (h : lines.mapM readHeader = .ok headers) :
    ∃ ls : List HeaderLine,
      ls.map HeaderLine.bytes = lines ∧ ls.map HeaderLine.header = headers := by
  induction lines generalizing headers with
  | nil =>
    cases h
    exact ⟨[], rfl, rfl⟩
  | cons line lines ih =>
    obtain ⟨hline, hlines⟩ := List.forall_mem_cons.mp hunbroken
    rw [List.mapM_cons] at h
    cases hread : readHeader line with
    | error fault =>
      rw [hread] at h
      cases h
    | ok first =>
      rw [hread] at h
      cases hmore : lines.mapM readHeader with
      | error fault =>
        rw [hmore] at h
        cases h
      | ok more =>
        rw [hmore] at h
        cases h
        obtain ⟨l, hbytes, hheader⟩ := exists_line_of_readHeader hline hread
        obtain ⟨ls, hls, hheaders⟩ := ih hlines hmore
        exact ⟨l :: ls, by rw [List.map_cons, hbytes, hls],
          by rw [List.map_cons, hheader, hheaders]⟩

/-- **A block that can be read is a block of header lines**, and its headers are theirs. -/
theorem exists_lines_of_headerBlock {block : Bytes} {headers : List Header}
    (h : headerBlock block = .ok headers) :
    ∃ lines : List HeaderLine, block = blockOf lines ∧ headers = lines.map HeaderLine.header := by
  obtain ⟨lines, hbytes, hheaders⟩ :=
    exists_lines_of_mapM (fun line hline => unbroken_of_mem_headerLines hline) h
  exact ⟨lines, by rw [blockOf, hbytes, intercalate_headerLines], hheaders.symm⟩

/-! ### The length -/

theorem exists_last_of_lastValue? {name value : String} {headers : List Header}
    (h : lastValue? name headers = some value) :
    ∃ before header after, headers = before ++ header :: after ∧ header.name = name ∧
      header.value = value ∧ ∀ h' ∈ after, h'.name ≠ name := by
  obtain ⟨header, hfind, hvalue⟩ := Option.map_eq_some_iff.mp h
  obtain ⟨hname, after, before, hreverse, hafter⟩ := List.find?_eq_some_iff_append.mp hfind
  refine ⟨before.reverse, header, after.reverse, ?_, by simpa using hname, hvalue, ?_⟩
  · rw [← List.reverse_reverse headers, hreverse]
    simp
  · intro h' hh'
    simpa using hafter h' (List.mem_reverse.mp hh')

/-- **Reading follows the grammar**: it comes to a length for just the blocks that declare one, and
to the length that they declare. -/
theorem bodyLength_eq_ok_iff {block : Bytes} {n : Nat} :
    bodyLength block = .ok n ↔ DeclaresLength block n := by
  constructor
  · intro h
    unfold bodyLength at h
    split at h
    · cases h
    · next headers hheaders =>
      split at h
      · cases h
      · next value hvalue =>
        split at h
        · next k hinteger =>
          cases h
          obtain ⟨lines, rfl, rfl⟩ := exists_lines_of_headerBlock hheaders
          obtain ⟨before, header, after, heq, hname, rfl, hafter⟩ :=
            exists_last_of_lastValue? hvalue
          obtain ⟨start, more, rfl, rfl, hmore⟩ := List.map_eq_append_iff.mp heq
          obtain ⟨l, rest, rfl, rfl, rfl⟩ := List.map_eq_cons_iff.mp hmore
          refine ⟨start, l, rest, rfl, l.header_name_eq_iff.mp hname,
            (l.integer?_header_value_iff n).mp hinteger, fun l' hl' hnames => ?_⟩
          exact hafter _ (List.mem_map_of_mem hl') (l'.header_name_eq_iff.mpr hnames)
        · cases h
  · rintro ⟨before, l, after, rfl, hname, hvalue, hafter⟩
    exact bodyLength_blockOf before l after (l.header_name_eq_iff.mpr hname)
      ((l.integer?_header_value_iff n).mpr hvalue)
      fun l' hl' hheader => hafter l' hl' (l'.header_name_eq_iff.mp hheader)

/-- A block declares one length at most. -/
theorem DeclaresLength.unique {block : Bytes} {m n : Nat} (hm : DeclaresLength block m)
    (hn : DeclaresLength block n) : m = n :=
  Except.ok.inj ((bodyLength_eq_ok_iff.mpr hm).symm.trans (bodyLength_eq_ok_iff.mpr hn))

end ClassOrder
