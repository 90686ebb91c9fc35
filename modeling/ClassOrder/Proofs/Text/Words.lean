import ClassOrder.Text.Blank

/-!
# Words

The words of a text are its longest runs of characters that are not blank.  Written with one space
between neighbours they are cut apart again, so the normal form of a text has the same words; it is
the only text with those words in which every blank is a space between two of them.

## Main definitions

* `IsWord`, `IsGap` — characters that are not blank, and blanks.
* `MadeOf` — a text is made of given words with gaps around them.
* `SingleSpaced` — every blank of a text is a space between two characters that are not blank.

## Main results

* `words_eq_iff` — a text is made of its words and of no others.
* `normalize_eq_iff` — the normal form is the one text that is single-spaced and has those words.
* `normalize_preserves_words` — **normalising changes the blanks of a text and none of its words.**
-/

namespace ClassOrder.Text

variable {cs gap rest word : List Char} {ws : List (List Char)} {s t : String}

/-- Blanks alone. -/
def IsGap (gap : List Char) : Prop := ∀ c ∈ gap, isBlank c = true

/-- One character at least, and no blank. -/
structure IsWord (word : List Char) : Prop where
  ne_nil : word ≠ []
  not_blank : ∀ c ∈ word, isBlank c = false

/-- A text is made of words, in order, with gaps around them.  A word goes on as far as it can:
what comes after it is the end of the text or a blank. -/
inductive MadeOf : List Char → List (List Char) → Prop
  /-- There is no word in a gap. -/
  | nil {gap : List Char} (hgap : IsGap gap) : MadeOf gap []
  /-- A gap, a word and the text after it. -/
  | cons {gap word rest : List Char} {ws : List (List Char)} (hgap : IsGap gap)
      (hword : IsWord word) (hends : ∀ c ∈ rest.head?, isBlank c = true)
      (hrest : MadeOf rest ws) : MadeOf (gap ++ (word ++ rest)) (word :: ws)

/-- Every blank of a text is a space with a character that is not blank on either side of it. -/
def SingleSpaced (cs : List Char) : Prop :=
  ∀ before c after, cs = before ++ c :: after → isBlank c = true →
    c = ' ' ∧ (∃ a ∈ before.getLast?, isBlank a = false) ∧ ∃ b ∈ after.head?, isBlank b = false

@[simp] theorem isGap_nil : IsGap [] := by simp [IsGap]

/-! ### Cutting a text apart -/

theorem flush_of_ne_nil (h : word ≠ []) : flush word = [word.reverse] := by
  obtain ⟨c, cs, rfl⟩ := List.exists_cons_of_ne_nil h
  rfl

theorem words_gap_append (hgap : IsGap gap) (cs : List Char) : words (gap ++ cs) = words cs := by
  induction gap with
  | nil => rfl
  | cons c gap ih =>
    have hc : isBlank c = true := hgap c List.mem_cons_self
    have hstep : words (c :: (gap ++ cs)) = words (gap ++ cs) := by
      rw [words, wordsFrom, if_pos hc, flush_nil, List.nil_append, words]
    rw [List.cons_append, hstep, ih fun d hd => hgap d (List.mem_cons_of_mem _ hd)]

theorem wordsFrom_append (hword : ∀ c ∈ word, isBlank c = false) (front rest : List Char) :
    wordsFrom front (word ++ rest) = wordsFrom (word.reverse ++ front) rest := by
  induction word generalizing front with
  | nil => rfl
  | cons c word ih =>
    have hc : ¬ isBlank c = true := by simp [hword c List.mem_cons_self]
    rw [List.cons_append, wordsFrom, if_neg hc, ih fun d hd => hword d (List.mem_cons_of_mem _ hd)]
    simp

theorem wordsFrom_of_ends (hends : ∀ c ∈ rest.head?, isBlank c = true) (front : List Char) :
    wordsFrom front rest = flush front ++ words rest := by
  cases rest with
  | nil => simp [wordsFrom]
  | cons c rest =>
    have hc : isBlank c = true := hends c rfl
    simp [words, wordsFrom, hc]

/-- A word that ends is the first word of a text that starts with it. -/
theorem words_word_append (hword : IsWord word) (hends : ∀ c ∈ rest.head?, isBlank c = true) :
    words (word ++ rest) = word :: words rest := by
  have hne : word.reverse ≠ [] := by simpa using hword.ne_nil
  rw [words, wordsFrom_append hword.not_blank, List.append_nil, wordsFrom_of_ends hends,
    flush_of_ne_nil hne, List.reverse_reverse, List.singleton_append]

/-! ### A text and its words -/

theorem MadeOf.gap_append (hgap : IsGap gap) (h : MadeOf cs ws) : MadeOf (gap ++ cs) ws := by
  have happend {gap' : List Char} (hgap' : IsGap gap') : IsGap (gap ++ gap') := by
    intro c hc
    exact (List.mem_append.mp hc).elim (hgap c) (hgap' c)
  cases h with
  | nil hgap' => exact .nil (happend hgap')
  | cons hgap' hword hends hrest =>
    rw [← List.append_assoc]
    exact .cons (happend hgap') hword hends hrest

theorem MadeOf.isWord (h : MadeOf cs ws) : ∀ word ∈ ws, IsWord word := by
  induction h with
  | nil hgap => simp
  | cons hgap hword hends hrest ih => exact List.forall_mem_cons.mpr ⟨hword, ih⟩

theorem MadeOf.words_eq (h : MadeOf cs ws) : words cs = ws := by
  induction h with
  | nil hgap => simpa using words_gap_append hgap []
  | cons hgap hword hends hrest ih =>
    rw [words_gap_append hgap, words_word_append hword hends, ih]

/-- A word that has been begun ends before a gap and is then the first one. -/
theorem MadeOf.flush_append {front : List Char} (hfront : ∀ c ∈ front, isBlank c = false)
    (hends : ∀ c ∈ rest.head?, isBlank c = true) (hrest : MadeOf rest ws) :
    MadeOf (front.reverse ++ rest) (flush front ++ ws) := by
  by_cases hne : front = []
  · subst hne
    exact hrest
  · have hword : IsWord front.reverse := ⟨by simpa using hne, by simpa using hfront⟩
    rw [flush_of_ne_nil hne]
    exact MadeOf.cons isGap_nil hword hends hrest

/-- The words that are found make up the text: by induction on what is still to be read, where
`front` is in reverse the word that has been begun. -/
theorem madeOf_wordsFrom (front cs : List Char) (hfront : ∀ c ∈ front, isBlank c = false) :
    MadeOf (front.reverse ++ cs) (wordsFrom front cs) := by
  induction cs generalizing front with
  | nil =>
    have hnone : MadeOf [] [] := .nil isGap_nil
    simpa [wordsFrom] using hnone.flush_append hfront (by simp)
  | cons c cs ih =>
    by_cases hc : isBlank c = true
    · have hgap : IsGap [c] := by simpa [IsGap] using hc
      have hcs : MadeOf cs (words cs) := ih [] (by simp)
      have hrest : MadeOf (c :: cs) (words cs) := hcs.gap_append hgap
      rw [wordsFrom, if_pos hc]
      exact hrest.flush_append hfront (by simpa using hc)
    · have hfront' : ∀ d ∈ c :: front, isBlank d = false :=
        List.forall_mem_cons.mpr ⟨by simpa using hc, hfront⟩
      have hcs := ih (c :: front) hfront'
      rw [List.reverse_cons, List.append_assoc, List.singleton_append] at hcs
      rwa [wordsFrom, if_neg hc]

theorem madeOf_words (cs : List Char) : MadeOf cs (words cs) := madeOf_wordsFrom [] cs (by simp)

/-- **A text is made of its words and of no others.** -/
theorem words_eq_iff : words cs = ws ↔ MadeOf cs ws := by
  constructor
  · rintro rfl
    exact madeOf_words cs
  · exact MadeOf.words_eq

theorem isWord_of_mem_words (h : word ∈ words cs) : IsWord word :=
  (madeOf_words cs).isWord word h

/-! ### The normal form -/

/-- Words with one space between neighbours are cut apart again. -/
theorem words_intercalate (hws : ∀ word ∈ ws, IsWord word) :
    words ([' '].intercalate ws) = ws := by
  induction ws with
  | nil => rfl
  | cons word ws ih =>
    obtain ⟨hword, hws⟩ := List.forall_mem_cons.mp hws
    cases ws with
    | nil =>
      have hends : ∀ c ∈ ([] : List Char).head?, isBlank c = true := by simp
      simpa using words_word_append hword hends
    | cons next ws =>
      have hspace : IsGap [' '] := by simp [IsGap, isBlank]
      have hends : ∀ c ∈ ([' '] ++ [' '].intercalate (next :: ws)).head?, isBlank c = true := by
        simp [isBlank]
      rw [List.intercalate_cons_cons, List.append_assoc, words_word_append hword hends,
        words_gap_append hspace, ih hws]

theorem IsWord.exists_head (hword : IsWord word) : ∃ c ∈ word.head?, isBlank c = false := by
  have hmem := List.head_mem hword.ne_nil
  exact ⟨_, List.head?_eq_some_head hword.ne_nil, hword.not_blank _ hmem⟩

theorem IsWord.exists_getLast (hword : IsWord word) : ∃ c ∈ word.getLast?, isBlank c = false := by
  have hmem := List.getLast_mem hword.ne_nil
  exact ⟨_, List.getLast?_eq_some_getLast hword.ne_nil, hword.not_blank _ hmem⟩

theorem singleSpaced_of_not_blank (h : ∀ c ∈ cs, isBlank c = false) : SingleSpaced cs := by
  intro before c after hcs hblank
  have hc : isBlank c = false := h c (by simp [hcs])
  rw [hc] at hblank
  cases hblank

/-- A blank of a text that starts with a word comes after the word. -/
theorem IsWord.blank_after {before after : List Char} {c : Char} (hword : IsWord word)
    (heq : word ++ rest = before ++ c :: after) (hblank : isBlank c = true) :
    ∃ more, before = word ++ more ∧ rest = more ++ c :: after := by
  rcases List.append_eq_append_iff.mp heq with ⟨more, hbefore, hrest⟩ | ⟨more, rfl, hafter⟩
  · exact ⟨more, hbefore, hrest⟩
  · cases more with
    | nil => exact ⟨[], by simp, by simpa using hafter.symm⟩
    | cons d more =>
      obtain ⟨rfl, -⟩ := List.cons_eq_cons.mp hafter
      have hc : isBlank c = false := hword.not_blank c (by simp)
      rw [hc] at hblank
      cases hblank

/-- A word, a space and a single-spaced text that starts with no blank are single-spaced. -/
theorem SingleSpaced.word_space (hword : IsWord word) (hcs : SingleSpaced cs)
    (hstart : ∃ c ∈ cs.head?, isBlank c = false) : SingleSpaced (word ++ ' ' :: cs) := by
  intro before c after heq hblank
  obtain ⟨more, rfl, hmore⟩ := hword.blank_after heq hblank
  cases more with
  | nil =>
    obtain ⟨rfl, rfl⟩ := List.cons_eq_cons.mp hmore
    exact ⟨rfl, by simpa using hword.exists_getLast, hstart⟩
  | cons d more =>
    obtain ⟨rfl, rfl⟩ := List.cons_eq_cons.mp hmore
    obtain ⟨hspace, ⟨a, ha, hnot⟩, hafter⟩ := hcs more c after rfl hblank
    have hlast : a ∈ (word ++ ' ' :: more).getLast? := by
      rw [List.getLast?_append, List.getLast?_cons, ha]
      rfl
    exact ⟨hspace, ⟨a, hlast, hnot⟩, hafter⟩

/-- What comes after a space of a single-spaced text is single-spaced. -/
theorem SingleSpaced.of_space {front : List Char} (h : SingleSpaced (front ++ ' ' :: cs)) :
    SingleSpaced cs := by
  intro before c after heq hblank
  obtain ⟨hspace, ⟨a, ha, hnot⟩, hafter⟩ :=
    h (front ++ ' ' :: before) c after (by simp [heq]) hblank
  refine ⟨hspace, ⟨a, ?_, hnot⟩, hafter⟩
  cases before with
  | nil =>
    obtain rfl : ' ' = a := by simpa using ha
    cases hnot
  | cons d before => simpa using ha

theorem singleSpaced_intercalate (hws : ∀ word ∈ ws, IsWord word) :
    SingleSpaced ([' '].intercalate ws) := by
  induction ws with
  | nil => exact singleSpaced_of_not_blank (by simp)
  | cons word ws ih =>
    obtain ⟨hword, hws⟩ := List.forall_mem_cons.mp hws
    cases ws with
    | nil => simpa using singleSpaced_of_not_blank hword.not_blank
    | cons next ws =>
      obtain ⟨c, hc, hnot⟩ := (hws next List.mem_cons_self).exists_head
      have hstart : c ∈ ([' '].intercalate (next :: ws)).head? := by
        cases ws with
        | nil => rwa [List.intercalate_singleton]
        | cons last ws =>
          rw [List.intercalate_cons_cons, List.append_assoc, List.head?_append, hc]
          rfl
      rw [List.intercalate_cons_cons, List.append_assoc]
      exact (ih hws).word_space hword ⟨c, hstart, hnot⟩

/-- A single-spaced text is its words with one space between neighbours: by induction on what is
still to be read, where `front` is in reverse the word that has been begun. -/
theorem intercalate_wordsFrom (front cs : List Char) (h : SingleSpaced (front.reverse ++ cs)) :
    [' '].intercalate (wordsFrom front cs) = front.reverse ++ cs := by
  induction cs generalizing front with
  | nil =>
    cases front with
    | nil => rfl
    | cons c front => simp [wordsFrom]
  | cons c cs ih =>
    by_cases hc : isBlank c = true
    · obtain ⟨rfl, ⟨a, ha, -⟩, b, hb, -⟩ := h front.reverse c cs rfl hc
      have hne : front ≠ [] := by
        rintro rfl
        cases ha
      have hcs : [' '].intercalate (wordsFrom [] cs) = cs := ih [] h.of_space
      have hwords : wordsFrom [] cs ≠ [] := by
        intro hnone
        rw [hnone] at hcs
        subst hcs
        cases hb
      rw [wordsFrom, if_pos hc, flush_of_ne_nil hne, List.singleton_append,
        List.intercalate_cons_of_ne_nil hwords, hcs, List.append_assoc, List.singleton_append]
    · rw [wordsFrom, if_neg hc, ih (c :: front) (by simpa using h)]
      simp

theorem toList_normalize (s : String) : (normalize s).toList = [' '].intercalate (words s.toList) :=
  String.toList_ofList

theorem words_normalize (s : String) : words (normalize s).toList = words s.toList := by
  rw [toList_normalize, words_intercalate fun word => isWord_of_mem_words]

theorem singleSpaced_normalize (s : String) : SingleSpaced (normalize s).toList := by
  rw [toList_normalize]
  exact singleSpaced_intercalate fun word => isWord_of_mem_words

/-- **The normal form is the one text that is single-spaced and has the same words.** -/
theorem normalize_eq_iff :
    normalize s = t ↔ SingleSpaced t.toList ∧ words t.toList = words s.toList := by
  constructor
  · rintro rfl
    exact ⟨singleSpaced_normalize s, words_normalize s⟩
  · rintro ⟨hspaced, hwords⟩
    have ht : [' '].intercalate (words t.toList) = t.toList :=
      intercalate_wordsFrom [] t.toList hspaced
    rw [← String.toList_inj, toList_normalize, ← hwords, ht]

/-- **Normalising changes the blanks of a text and none of its words.**  The words of a text, which
are the ones that it is made of, are those of its normal form, in order; the only blanks of the
normal form are single spaces between them.  No other text has both, so a second time changes
nothing, and two texts have the same normal form exactly if they have the same words. -/
theorem normalize_preserves_words (s t : String) :
    (∀ ws, words s.toList = ws ↔ MadeOf s.toList ws) ∧
      words (normalize s).toList = words s.toList ∧
      SingleSpaced (normalize s).toList ∧
      (normalize s = t ↔ SingleSpaced t.toList ∧ words t.toList = words s.toList) ∧
      normalize (normalize s) = normalize s ∧
      (normalize s = normalize t ↔ words s.toList = words t.toList) := by
  refine ⟨fun ws => words_eq_iff, words_normalize s, singleSpaced_normalize s, normalize_eq_iff,
    normalize_eq_iff.mpr ⟨singleSpaced_normalize s, rfl⟩, ?_⟩
  rw [normalize_eq_iff, words_normalize, eq_comm (a := words s.toList)]
  exact and_iff_right (singleSpaced_normalize t)

example : normalize "\t flex\u00a0 \u2028p-4\u001f" = "flex p-4" := by decide +kernel

end ClassOrder.Text
