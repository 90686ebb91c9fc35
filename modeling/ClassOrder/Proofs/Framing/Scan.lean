import ClassOrder.Frame

/-!
# Scanning a growing input

Reading scans the bytes it has again whenever more have come in.  What a scan finds, it finds in
every longer input too: the same frame, or the same faulty header block, with the new bytes after
it.  Empty lines at the start make no difference, whether they are there or have been taken away
before.

## Main results

* `scan_skipLineEnds` — a scan passes over the empty lines at the start.
* `scan_eq_whole_iff`, `scan_eq_faulty_iff` — what a scan finds.
* `scan_append_of_whole`, `scan_append_of_faulty` — what was found is found in longer inputs.
* `scan_eq_wanting` — what is kept when nothing was found.
-/

namespace ClassOrder

/-! ### Empty lines -/

theorem skipLineEnds_cons_cons (rest : Bytes) :
    skipLineEnds (13 :: 10 :: rest) = skipLineEnds rest := by
  rw [skipLineEnds]

theorem length_skipLineEnds_le (xs : Bytes) : (skipLineEnds xs).length ≤ xs.length := by
  fun_induction skipLineEnds xs with
  | case1 rest ih => simp only [List.length_cons]; omega
  | case2 rest h => exact Nat.le_refl _

/-- Empty lines taken away early are the ones that would be taken away later. -/
theorem skipLineEnds_append (xs ys : Bytes) :
    skipLineEnds (skipLineEnds xs ++ ys) = skipLineEnds (xs ++ ys) := by
  fun_induction skipLineEnds xs with
  | case1 rest ih => rw [ih, List.cons_append, List.cons_append, skipLineEnds_cons_cons]
  | case2 rest h => rfl

@[simp] theorem skipLineEnds_idem (xs : Bytes) :
    skipLineEnds (skipLineEnds xs) = skipLineEnds xs := by
  simpa using skipLineEnds_append xs []

/-- Two bytes that are no empty line stay at the start whatever follows. -/
theorem skipLineEnds_append_of_two_le {xs : Bytes} (h : skipLineEnds xs = xs)
    (hlen : 2 ≤ xs.length) (ys : Bytes) : skipLineEnds (xs ++ ys) = xs ++ ys := by
  match xs, hlen with
  | a :: b :: rest, _ =>
    by_cases hab : a = 13 ∧ b = 10
    · -- an empty line at the start would have been taken away
      obtain ⟨rfl, rfl⟩ := hab
      have hle := length_skipLineEnds_le rest
      rw [← skipLineEnds_cons_cons, h] at hle
      simp only [List.length_cons] at hle
      omega
    · rw [List.cons_append, List.cons_append, skipLineEnds]
      rintro rest' ⟨⟩
      exact hab ⟨rfl, rfl⟩

/-! ### The header block -/

theorem four_le_length_of_splitBlockFrom {read xs : Bytes} {found : Bytes × Bytes}
    (h : splitBlockFrom read xs = some found) : 4 ≤ xs.length := by
  fun_induction splitBlockFrom read xs with
  | case1 read => simp at h
  | case2 read body => simp
  | case3 read b rest hne ih =>
    have := ih h
    simp only [List.length_cons]
    omega

theorem splitBlockFrom_append {read xs block rest : Bytes}
    (h : splitBlockFrom read xs = some (block, rest)) (ys : Bytes) :
    splitBlockFrom read (xs ++ ys) = some (block, rest ++ ys) := by
  fun_induction splitBlockFrom read xs with
  | case1 read => simp at h
  | case2 read body =>
    obtain ⟨rfl, rfl⟩ := by simpa using h
    simp [splitBlockFrom]
  | case3 read b tail hne ih =>
    rw [List.cons_append, splitBlockFrom]
    · exact ih h
    · -- the four bytes of the empty line would have to reach into `ys`, but `tail` holds four
      intro body hb htail
      match tail, four_le_length_of_splitBlockFrom h with
      | x :: y :: z :: w, _ =>
        injection htail with hx htail
        injection htail with hy htail
        injection htail with hz htail
        exact hne w hb (by rw [hx, hy, hz])

theorem splitBlock_append {xs block rest : Bytes} (h : splitBlock xs = some (block, rest))
    (ys : Bytes) : splitBlock (xs ++ ys) = some (block, rest ++ ys) :=
  splitBlockFrom_append h ys

/-- Once the header block is whole, the empty lines before it are what they will ever be. -/
theorem skipLineEnds_append_of_splitBlock {xs block rest : Bytes}
    (h : splitBlock (skipLineEnds xs) = some (block, rest)) (ys : Bytes) :
    skipLineEnds (xs ++ ys) = skipLineEnds xs ++ ys := by
  have hlen := four_le_length_of_splitBlockFrom h
  rw [← skipLineEnds_append]
  exact skipLineEnds_append_of_two_le (skipLineEnds_idem xs) (by omega) ys

/-! ### Scans -/

@[simp] theorem scan_skipLineEnds (xs : Bytes) : scan (skipLineEnds xs) = scan xs := by
  simp only [scan, skipLineEnds_idem]

/-- Inputs that differ in empty lines at the start alone hold the same. -/
theorem scan_congr {xs ys : Bytes} (h : skipLineEnds xs = skipLineEnds ys) : scan xs = scan ys := by
  rw [← scan_skipLineEnds xs, h, scan_skipLineEnds]

theorem scan_eq_wanting {xs kept : Bytes} (h : scan xs = .wanting kept) :
    kept = skipLineEnds xs := by
  unfold scan at h
  grind

/-- A frame is found exactly if there is a header block and the body that it gives the length of. -/
theorem scan_eq_whole_iff {xs body rest : Bytes} : scan xs = .whole body rest ↔
    ∃ block, splitBlock (skipLineEnds xs) = some (block, body ++ rest) ∧
      bodyLength block = .ok body.length := by
  constructor
  · intro h
    unfold scan at h
    cases hsplit : splitBlock (skipLineEnds xs) with
    | none => simp [hsplit] at h
    | some found =>
      obtain ⟨block, tail⟩ := found
      simp only [hsplit] at h
      cases hlength : bodyLength block with
      | error fault => simp [hlength] at h
      | ok n =>
        simp only [hlength] at h
        split at h
        · cases h
        · next henough =>
          obtain ⟨rfl, rfl⟩ := by simpa using h
          refine ⟨block, by rw [List.take_append_drop], ?_⟩
          rw [hlength, List.length_take, Nat.min_eq_left (Nat.le_of_not_lt henough)]
  · rintro ⟨block, hsplit, hlength⟩
    have henough : ¬ (body ++ rest).length < body.length := by simp
    simp only [scan, hsplit, hlength, if_neg henough, List.take_left, List.drop_left]

/-- A faulty header block is found exactly if there is one, and it is kept with all after it. -/
theorem scan_eq_faulty_iff {xs kept : Bytes} {fault : FramingFault} :
    scan xs = .faulty fault kept ↔ kept = skipLineEnds xs ∧
      ∃ block rest, splitBlock (skipLineEnds xs) = some (block, rest) ∧
        bodyLength block = .error fault := by
  constructor
  · intro h
    unfold scan at h
    cases hsplit : splitBlock (skipLineEnds xs) with
    | none => simp [hsplit] at h
    | some found =>
      obtain ⟨block, tail⟩ := found
      simp only [hsplit] at h
      cases hlength : bodyLength block with
      | error e =>
        simp only [hlength] at h
        obtain ⟨rfl, rfl⟩ := by simpa using h
        exact ⟨rfl, block, tail, rfl, hlength⟩
      | ok n =>
        simp only [hlength] at h
        split at h <;> cases h
  · rintro ⟨rfl, block, rest, hsplit, hlength⟩
    simp only [scan, hsplit, hlength]

theorem scan_append_of_whole {xs body rest : Bytes} (h : scan xs = .whole body rest) (ys : Bytes) :
    scan (xs ++ ys) = .whole body (rest ++ ys) := by
  obtain ⟨block, hsplit, hlength⟩ := scan_eq_whole_iff.mp h
  refine scan_eq_whole_iff.mpr ⟨block, ?_, hlength⟩
  rw [skipLineEnds_append_of_splitBlock hsplit, splitBlock_append hsplit, List.append_assoc]

theorem scan_append_of_faulty {xs kept : Bytes} {fault : FramingFault}
    (h : scan xs = .faulty fault kept) (ys : Bytes) :
    scan (xs ++ ys) = .faulty fault (kept ++ ys) := by
  obtain ⟨rfl, block, rest, hsplit, hlength⟩ := scan_eq_faulty_iff.mp h
  have hskip := skipLineEnds_append_of_splitBlock hsplit ys
  refine scan_eq_faulty_iff.mpr ⟨hskip.symm, block, rest ++ ys, ?_, hlength⟩
  rw [hskip, splitBlock_append hsplit]

end ClassOrder
