import ClassOrder.Proofs.Framing.Series

/-!
# Where a header block is

Reading finds a header block by its end: after the empty lines at the start of the input, whatever
comes before the first empty line is the block.  So the blocks that reading can find are just those
that have no line end at either end and no empty line inside, and each of them is found wherever it
stands with an empty line after it.

## Main definitions

* `IsHeaderBlock` — the blocks that reading can find.
* `terminated` — a block with the empty line after it and what follows.

## Main results

* `splitBlock_eq_some_iff` — where a block ends.
* `scan_terminated` — **what a scan says of a block that stands at the start of the input.**
* `terminated_of_scan_whole`, `terminated_of_scan_faulty` — what a scan speaks of is there.
-/

namespace ClassOrder

/-- A header block that reading can find. -/
structure IsHeaderBlock (block : Bytes) : Prop where
  ne_nil : block ≠ []
  not_start : ¬ lineEnd <+: block
  not_end : ¬ lineEnd <:+ block
  not_inside : ¬ lineEnd ++ lineEnd <:+: block

/-- A header block with the empty line after it and what follows. -/
def terminated (block rest : Bytes) : Bytes := block ++ lineEnd ++ lineEnd ++ rest

theorem terminated_eq (block rest : Bytes) :
    terminated block rest = block ++ 13 :: 10 :: 13 :: 10 :: rest := by
  simp [terminated, lineEnd]

@[simp] theorem terminated_append (block rest more : Bytes) :
    terminated block rest ++ more = terminated block (rest ++ more) := by
  simp [terminated]

/-! ### The end of a block -/

/-- No empty line begins with the first byte of a block, inside it or where it ends. -/
theorem tail_ne_of_not_inside {b : UInt8} {block rest body : Bytes}
    (hend : ¬ lineEnd <:+ b :: block) (hinside : ¬ lineEnd ++ lineEnd <:+: b :: block)
    (hb : b = 13) : terminated block rest ≠ 10 :: 13 :: 10 :: body := by
  subst hb
  rw [terminated_eq]
  match block with
  | [] => simp
  | [c] =>
    intro heq
    obtain ⟨rfl, -⟩ := List.cons_eq_cons.mp heq
    exact hend ⟨[], rfl⟩
  | [c, d] => simp
  | c :: d :: e :: more =>
    intro heq
    simp only [List.cons_append, List.cons.injEq] at heq
    obtain ⟨rfl, rfl, rfl, -⟩ := heq
    exact hinside ⟨[], more, rfl⟩

theorem splitBlockFrom_terminated {block : Bytes} (hend : ¬ lineEnd <:+ block)
    (hinside : ¬ lineEnd ++ lineEnd <:+: block) (read rest : Bytes) :
    splitBlockFrom read (terminated block rest) = some (read.reverse ++ block, rest) := by
  induction block generalizing read with
  | nil => simp [terminated_eq, splitBlockFrom]
  | cons b block ih =>
    have htail : terminated (b :: block) rest = b :: terminated block rest := by
      simp [terminated]
    rw [htail, splitBlockFrom, ih]
    · simp
    · exact fun h => hend (h.trans (List.suffix_cons b block))
    · exact fun h => hinside (h.trans (List.suffix_cons b block).isInfix)
    · exact fun body hb => tail_ne_of_not_inside hend hinside hb

/-- What is found is there, and nothing before it would do: by induction on the input. -/
theorem terminated_of_splitBlockFrom {read xs block rest : Bytes}
    (h : splitBlockFrom read xs = some (block, rest)) :
    ∃ tail, block = read.reverse ++ tail ∧ xs = terminated tail rest ∧
      ¬ lineEnd <:+ tail ∧ ¬ lineEnd ++ lineEnd <:+: tail := by
  fun_induction splitBlockFrom read xs with
  | case1 read => cases h
  | case2 read body =>
    obtain ⟨rfl, rfl⟩ := by simpa using h
    exact ⟨[], by simp, by simp [terminated_eq], by simp [lineEnd], by simp [lineEnd]⟩
  | case3 read b xs hne ih =>
    obtain ⟨tail, rfl, rfl, hend, hinside⟩ := ih h
    refine ⟨b :: tail, by simp, by simp [terminated], ?_, ?_⟩
    · intro hsuffix
      rcases List.suffix_cons_iff.mp hsuffix with heq | hshort
      · obtain ⟨rfl, htail⟩ := List.cons_eq_cons.mp heq
        exact hne (13 :: 10 :: rest) rfl (by simp [← htail, terminated_eq])
      · exact hend hshort
    · intro hinfix
      rcases List.infix_cons_iff.mp hinfix with ⟨more, heq⟩ | hshort
      · obtain ⟨rfl, htail⟩ := List.cons_eq_cons.mp heq
        exact hne _ rfl (by rw [← htail]; simp [terminated_eq]; rfl)
      · exact hinside hshort

/-- **A block is what comes before the first empty line.** -/
theorem splitBlock_eq_some_iff {xs block rest : Bytes} :
    splitBlock xs = some (block, rest) ↔
      xs = terminated block rest ∧ ¬ lineEnd <:+ block ∧ ¬ lineEnd ++ lineEnd <:+: block := by
  constructor
  · intro h
    obtain ⟨tail, rfl, hxs, hend, hinside⟩ := terminated_of_splitBlockFrom h
    exact ⟨hxs, hend, hinside⟩
  · rintro ⟨rfl, hend, hinside⟩
    exact splitBlockFrom_terminated hend hinside [] rest

/-! ### Empty lines before a block -/

/-- What is left without the empty lines at the start had some before it. -/
theorem exists_blanks_append (xs : Bytes) : ∃ stray, xs = blanks stray ++ skipLineEnds xs := by
  fun_induction skipLineEnds xs with
  | case1 rest ih =>
    obtain ⟨stray, hrest⟩ := ih
    exact ⟨stray + 1, by rw [blanks_succ, List.cons_append, List.cons_append, ← hrest]⟩
  | case2 rest h => exact ⟨0, rfl⟩

theorem not_lineEnd_prefix_skipLineEnds (xs : Bytes) : ¬ lineEnd <+: skipLineEnds xs := by
  fun_induction skipLineEnds xs with
  | case1 rest ih => exact ih
  | case2 rest h =>
    rintro ⟨more, heq⟩
    exact h more heq.symm

theorem skipLineEnds_eq_self {xs : Bytes} (h : ¬ lineEnd <+: xs) : skipLineEnds xs = xs := by
  rw [skipLineEnds]
  rintro rest rfl
  exact h ⟨rest, rfl⟩

theorem IsHeaderBlock.not_prefix_terminated {block : Bytes} (h : IsHeaderBlock block)
    (rest : Bytes) : ¬ lineEnd <+: terminated block rest := by
  rintro ⟨more, heq⟩
  rw [terminated_eq] at heq
  match block, h with
  | [], h => exact h.ne_nil rfl
  | [b], h => simp [lineEnd] at heq
  | b :: c :: block, h =>
    simp only [lineEnd, List.cons_append, List.nil_append, List.cons.injEq] at heq
    obtain ⟨rfl, rfl, -⟩ := heq
    exact h.not_start ⟨block, rfl⟩

/-- A block that is found after the empty lines at the start is one that reading can find. -/
theorem isHeaderBlock_of_splitBlock {xs block rest : Bytes}
    (h : splitBlock (skipLineEnds xs) = some (block, rest)) :
    IsHeaderBlock block ∧ skipLineEnds xs = terminated block rest := by
  obtain ⟨heq, hend, hinside⟩ := splitBlock_eq_some_iff.mp h
  have hstart := not_lineEnd_prefix_skipLineEnds xs
  rw [heq] at hstart
  refine ⟨⟨?_, fun hleads => hstart (hleads.trans ?_), hend, hinside⟩, heq⟩
  · rintro rfl
    exact hstart ⟨_, rfl⟩
  · exact ⟨_, (by simp [terminated] : block ++ (lineEnd ++ lineEnd ++ rest) = _)⟩

/-! ### Scans -/

/-- **What a scan says of a block that stands at the start of the input.** -/
theorem scan_terminated {block : Bytes} (h : IsHeaderBlock block) (stray : Nat) (rest : Bytes) :
    scan (blanks stray ++ terminated block rest) =
      match bodyLength block with
      | .error fault => .faulty fault (terminated block rest)
      | .ok n =>
        if rest.length < n then .wanting (terminated block rest)
        else .whole (rest.take n) (rest.drop n) := by
  have hsplit : splitBlock (terminated block rest) = some (block, rest) :=
    splitBlock_eq_some_iff.mpr ⟨rfl, h.not_end, h.not_inside⟩
  have hskip := skipLineEnds_eq_self (h.not_prefix_terminated rest)
  rw [scan, skipLineEnds_blanks_append, hskip]
  cases hlength : bodyLength block <;> simp only [hsplit, hlength]

/-- A frame that a scan finds is there, with the length that its block gives. -/
theorem terminated_of_scan_whole {xs body rest : Bytes} (h : scan xs = .whole body rest) :
    ∃ stray block, IsHeaderBlock block ∧ bodyLength block = .ok body.length ∧
      xs = blanks stray ++ terminated block (body ++ rest) := by
  obtain ⟨stray, hstray⟩ := exists_blanks_append xs
  obtain ⟨block, hsplit, hlength⟩ := scan_eq_whole_iff.mp h
  obtain ⟨hblock, hskip⟩ := isHeaderBlock_of_splitBlock hsplit
  exact ⟨stray, block, hblock, hlength, hskip ▸ hstray⟩

/-- A faulty block that a scan finds is there, and it is kept with all that follows. -/
theorem terminated_of_scan_faulty {xs kept : Bytes} {fault : FramingFault}
    (h : scan xs = .faulty fault kept) :
    ∃ stray block rest, IsHeaderBlock block ∧ bodyLength block = .error fault ∧
      kept = terminated block rest ∧ xs = blanks stray ++ kept := by
  obtain ⟨stray, hstray⟩ := exists_blanks_append xs
  obtain ⟨rfl, block, rest, hsplit, hlength⟩ := scan_eq_faulty_iff.mp h
  obtain ⟨hblock, hskip⟩ := isHeaderBlock_of_splitBlock hsplit
  exact ⟨stray, block, rest, hblock, hlength, hskip, hstray⟩

end ClassOrder
