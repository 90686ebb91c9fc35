import ClassOrder.Proofs.Json.Numbers
import ClassOrder.Proofs.Json.Strings

/-!
# Written values read back

The compact form of a value is read back as the value, for every value that can be written: its
whole numbers have as many digits as one may have, the names of an object's fields differ, and
the doubles read back from their full forms.  The induction is over the fuel, with the value and
the rest of the text left open; the characters of a value are fuel enough to read it.

## Main definitions

* `Writable` — the values that can be written and read back.
* `EndsValue` — what a value may be followed by.

## Main results

* `reads` — a written value is read to its end, with as much fuel as it has characters.
* `read_compact` — the compact form reads back.
-/

namespace ClassOrder.Json

open ClassOrder.Text ClassOrder.Number

mutual

/-- The values that can be written and read back. -/
def Writable : Json → Prop
  | int n => (digits n.natAbs).length ≤ digitLimit
  | float x => x.isFinite = true → double? (full x) = some x
  | array items => WritableItems items
  | object fields => (fields.map (·.1)).Nodup ∧ WritableFields fields
  | _ => True

/-- Every item can be written and read back. -/
def WritableItems : List Json → Prop
  | [] => True
  | v :: items => v.Writable ∧ WritableItems items

/-- Every field can be written and read back. -/
def WritableFields : List (String × Json) → Prop
  | [] => True
  | (_, v) :: fields => v.Writable ∧ WritableFields fields

end

/-! ### Around a value -/

/-- A comma or a closing bracket, which a value may be followed by. -/
def EndsValue (rest : List Char) : Prop := ∀ c ∈ rest.head?, c ∈ [',', ']', '}']

theorem endsValue_nil : EndsValue [] := by simp [EndsValue]

theorem endsValue_cons {c : Char} (hc : c ∈ [',', ']', '}']) (rest : List Char) :
    EndsValue (c :: rest) := by
  intro d hd
  obtain rfl : c = d := by simpa using hd
  exact hc

theorem EndsValue.endsNumber {rest : List Char} (h : EndsValue rest) : EndsNumber rest := by
  intro c hc
  have hmem := h c hc
  simp only [List.mem_cons, List.not_mem_nil, or_false] at hmem
  rcases hmem with rfl | rfl | rfl <;> decide

theorem skipSpace_cons {c : Char} (hc : isSpace c = false) (cs : List Char) :
    skipSpace (c :: cs) = c :: cs := by
  simp [skipSpace, hc]

/-- The mark of a number or word, or one that opens a string, an array or an object. -/
def StartsValue (c : Char) : Prop := StartsAtom c ∨ c ∈ ['"', '[', '{']

/-- What is neither a digit nor one of the marks that start a value starts none. -/
theorem StartsValue.ne {c d : Char} (h : StartsValue c) (hdigit : isAsciiDigit d = false)
    (hmarks : d ∉ ['-', 'n', 't', 'f', 'N', 'I', '"', '[', '{']) : d ≠ c := by
  rintro rfl
  rcases h with (h | h) | h
  · exact absurd h (by simp [hdigit])
  · exact hmarks (List.mem_append_left ['"', '[', '{'] h)
  · exact hmarks (List.mem_append_right ['-', 'n', 't', 'f', 'N', 'I'] h)

theorem StartsValue.not_space {c : Char} (h : StartsValue c) : isSpace c = false := by
  have hblank : ' ' ≠ c := h.ne (by decide) (by decide)
  have htab : '\t' ≠ c := h.ne (by decide) (by decide)
  have hline : '\n' ≠ c := h.ne (by decide) (by decide)
  have hreturn : '\r' ≠ c := h.ne (by decide) (by decide)
  simp [isSpace, hblank.symm, htab.symm, hline.symm, hreturn.symm]

theorem StartsAtom.ne {c d : Char} (h : StartsAtom c) (hdigit : isAsciiDigit d = false)
    (hmarks : d ∉ ['-', 'n', 't', 'f', 'N', 'I']) : c ≠ d := by
  rintro rfl
  rcases h with h | h
  · exact absurd h (by simp [hdigit])
  · exact hmarks h

theorem startsValue_chars {v : Json} (hv : v.Writable) :
    ∃ c cs, v.chars = c :: cs ∧ StartsValue c := by
  cases v with
  | null => exact ⟨'n', _, rfl, .inl (.inr (by decide))⟩
  | bool b =>
    cases b with
    | true => exact ⟨'t', _, rfl, .inl (.inr (by decide))⟩
    | false => exact ⟨'f', _, rfl, .inl (.inr (by decide))⟩
  | int n =>
    obtain ⟨c, cs, hcs, hc⟩ := startsAtom_intChars n
    exact ⟨c, cs, hcs, .inl hc⟩
  | float x =>
    obtain ⟨c, cs, hcs, hc⟩ := startsAtom_floatChars (x := x) hv
    exact ⟨c, cs, hcs, .inl hc⟩
  | string s => exact ⟨'"', _, rfl, .inr (by decide)⟩
  | array items => exact ⟨'[', _, rfl, .inr (by decide)⟩
  | object fields => exact ⟨'{', _, rfl, .inr (by decide)⟩

theorem startsValue_itemChars {v : Json} (hv : v.Writable) (items : List Json) :
    ∃ c cs, itemChars (v :: items) = c :: cs ∧ StartsValue c := by
  obtain ⟨c, cs, hcs, hc⟩ := startsValue_chars hv
  cases items with
  | nil => exact ⟨c, cs, hcs, hc⟩
  | cons w items => exact ⟨c, cs ++ ',' :: itemChars (w :: items), by rw [itemChars, hcs]; rfl, hc⟩

/-! ### The steps of reading -/

section Steps

variable {fuel : Nat} {cs rest : List Char}

theorem readValue_atom {c : Char} (hc : StartsAtom c) (cs : List Char) :
    readValue (fuel + 1) (c :: cs) = readAtom (c :: cs) := by
  have hquote : c ≠ '"' := hc.ne (by decide) (by decide)
  have hbracket : c ≠ '[' := hc.ne (by decide) (by decide)
  have hbrace : c ≠ '{' := hc.ne (by decide) (by decide)
  simp [readValue, hquote, hbracket, hbrace]

theorem stringChars_append (s : String) (rest : List Char) :
    stringChars s ++ rest = '"' :: (s.toList.flatMap stringChar ++ '"' :: rest) := by
  simp [stringChars]

theorem readValue_string (s : String) :
    readValue (fuel + 1) (stringChars s ++ rest) = .ok (string s, rest) := by
  rw [stringChars_append, readValue, if_pos rfl, readString_stringChars]
  rfl

/-- An array with items. -/
theorem readValue_array {c : Char} {items : List Json} (hc : StartsValue c)
    (hitems : readItems fuel (c :: cs) = .ok (items, rest)) :
    readValue (fuel + 1) ('[' :: c :: cs) = .ok (array items, rest) := by
  have hclose : c ≠ ']' := (hc.ne (by decide) (by decide)).symm
  rw [readValue, if_neg (by decide), if_pos rfl, skipSpace_cons hc.not_space]
  split
  · next heq => exact absurd (List.cons.inj heq).1 hclose
  · rw [hitems]
    rfl

/-- An object with fields, of which the names differ. -/
theorem readValue_object {fields : List (String × Json)} (hnames : (fields.map (·.1)).Nodup)
    (hfields : readFields fuel ('"' :: cs) = .ok (fields, rest)) :
    readValue (fuel + 1) ('{' :: '"' :: cs) = .ok (object fields, rest) := by
  rw [readValue, if_neg (by decide), if_neg (by decide), if_pos rfl,
    skipSpace_cons (by decide)]
  simp [hfields, Assoc.merge_nil hnames, bind, Except.bind, pure, Except.pure]

/-- The last item of an array. -/
theorem readItems_last {v : Json} (hv : readValue fuel cs = .ok (v, ']' :: rest)) :
    readItems (fuel + 1) cs = .ok ([v], rest) := by
  rw [readItems, hv]
  simp [bind, Except.bind, pure, Except.pure, skipSpace_cons (show isSpace ']' = false by decide)]

/-- An item that another one follows. -/
theorem readItems_more {v : Json} {c : Char} {more : List Char} {items : List Json}
    (hv : readValue fuel cs = .ok (v, ',' :: c :: more)) (hc : isSpace c = false)
    (hmore : readItems fuel (c :: more) = .ok (items, rest)) :
    readItems (fuel + 1) cs = .ok (v :: items, rest) := by
  rw [readItems, hv]
  simp [bind, Except.bind, pure, Except.pure, skipSpace_cons (show isSpace ',' = false by decide),
    skipSpace_cons hc, hmore]

/-- The last field of an object. -/
theorem readFields_last {name : String} {v : Json} {c : Char} (hc : isSpace c = false)
    (hv : readValue fuel (c :: cs) = .ok (v, '}' :: rest)) :
    readFields (fuel + 1) (stringChars name ++ ':' :: c :: cs) = .ok ([(name, v)], rest) := by
  have hname := readString_stringChars name (':' :: c :: cs)
  rw [stringChars_append, readFields]
  simp only [hname]
  simp [bind, Except.bind, pure, Except.pure, skipSpace_cons (show isSpace ':' = false by decide),
    skipSpace_cons hc, hv, skipSpace_cons (show isSpace '}' = false by decide)]

/-- A field that another one follows. -/
theorem readFields_more {name : String} {v : Json} {c d : Char} {more : List Char}
    {fields : List (String × Json)} (hc : isSpace c = false)
    (hv : readValue fuel (c :: cs) = .ok (v, ',' :: d :: more)) (hd : isSpace d = false)
    (hmore : readFields fuel (d :: more) = .ok (fields, rest)) :
    readFields (fuel + 1) (stringChars name ++ ':' :: c :: cs) =
      .ok ((name, v) :: fields, rest) := by
  have hname := readString_stringChars name (':' :: c :: cs)
  rw [stringChars_append, readFields]
  simp only [hname]
  simp [bind, Except.bind, pure, Except.pure, skipSpace_cons (show isSpace ':' = false by decide),
    skipSpace_cons hc, hv, skipSpace_cons (show isSpace ',' = false by decide), skipSpace_cons hd,
    hmore]

end Steps

/-! ### Whole values -/

theorem fieldChars_cons (name : String) (v : Json) (fields : List (String × Json)) :
    ∃ cs, fieldChars ((name, v) :: fields) = '"' :: cs := by
  cases fields <;> exact ⟨_, rfl⟩

/-- A written value with at most `fuel` characters is read to its end. -/
def ReadsValue (fuel : Nat) : Prop :=
  ∀ (v : Json) (rest : List Char), v.Writable → v.chars.length ≤ fuel → EndsValue rest →
    readValue fuel (v.chars ++ rest) = .ok (v, rest)

/-- Written items with fewer than `fuel` characters are read to their closing bracket. -/
def ReadsItems (fuel : Nat) : Prop :=
  ∀ (v : Json) (items : List Json) (rest : List Char), v.Writable → WritableItems items →
    (itemChars (v :: items)).length < fuel →
    readItems fuel (itemChars (v :: items) ++ ']' :: rest) = .ok (v :: items, rest)

/-- Written fields with fewer than `fuel` characters are read to their closing brace. -/
def ReadsFields (fuel : Nat) : Prop :=
  ∀ (name : String) (v : Json) (fields : List (String × Json)) (rest : List Char), v.Writable →
    WritableFields fields → (fieldChars ((name, v) :: fields)).length < fuel →
    readFields fuel (fieldChars ((name, v) :: fields) ++ '}' :: rest) =
      .ok ((name, v) :: fields, rest)

section Induction

variable {fuel : Nat}

theorem readsValue_zero : ReadsValue 0 := by
  intro v rest hv hfuel
  obtain ⟨c, cs, hcs, -⟩ := startsValue_chars hv
  simp [hcs] at hfuel

theorem readsValue_succ (hitems : ReadsItems fuel) (hfields : ReadsFields fuel) :
    ReadsValue (fuel + 1) := by
  intro v rest hv hfuel hrest
  match v with
  | .null => exact readValue_atom (.inr (by decide)) _
  | .bool true => exact readValue_atom (.inr (by decide)) _
  | .bool false => exact readValue_atom (.inr (by decide)) _
  | .int n =>
    obtain ⟨c, cs, hcs, hc⟩ := startsAtom_intChars n
    have hread := readAtom_intChars hv hrest.endsNumber
    rw [hcs] at hread
    rw [chars, hcs]
    exact (readValue_atom hc _).trans hread
  | .float x =>
    obtain ⟨c, cs, hcs, hc⟩ := startsAtom_floatChars (x := x) hv
    have hread := readAtom_floatChars (x := x) hv hrest.endsNumber
    rw [hcs] at hread
    rw [chars, hcs]
    exact (readValue_atom hc _).trans hread
  | .string s => exact readValue_string s
  | .array [] => rfl
  | .array (w :: items) =>
    obtain ⟨c, cs, hcs, hc⟩ := startsValue_itemChars hv.1 items
    -- the brackets take the one step of fuel that the items go without
    have hlen : (itemChars (w :: items)).length < fuel := by
      simp only [chars, List.length_append, List.length_cons, List.length_nil] at hfuel
      omega
    have hread := hitems w items rest hv.1 hv.2 hlen
    rw [hcs] at hread
    rw [chars, hcs]
    simpa using readValue_array hc hread
  | .object [] => rfl
  | .object ((name, w) :: fields) =>
    obtain ⟨cs, hcs⟩ := fieldChars_cons name w fields
    have hlen : (fieldChars ((name, w) :: fields)).length < fuel := by
      simp only [chars, List.length_append, List.length_cons, List.length_nil] at hfuel
      omega
    have hread := hfields name w fields rest hv.2.1 hv.2.2 hlen
    rw [hcs] at hread
    rw [chars, hcs]
    simpa using readValue_object hv.1 hread

theorem readsItems_succ (hvalue : ReadsValue fuel) (hitems : ReadsItems fuel) :
    ReadsItems (fuel + 1) := by
  intro v items rest hv hmore hfuel
  cases items with
  | nil =>
    simp only [itemChars] at hfuel
    exact readItems_last (hvalue v _ hv (by omega) (endsValue_cons (by decide) rest))
  | cons w items =>
    obtain ⟨c, cs, hcs, hc⟩ := startsValue_itemChars hmore.1 items
    simp only [itemChars, List.length_append, List.length_cons] at hfuel
    have hread := hvalue v (',' :: (itemChars (w :: items) ++ ']' :: rest)) hv (by omega)
      (endsValue_cons (by decide) _)
    have hrest := hitems w items rest hmore.1 hmore.2 (by omega)
    rw [hcs] at hread hrest
    rw [itemChars, hcs, List.append_assoc]
    exact readItems_more hread hc.not_space hrest

theorem readsFields_succ (hvalue : ReadsValue fuel) (hfields : ReadsFields fuel) :
    ReadsFields (fuel + 1) := by
  intro name v fields rest hv hmore hfuel
  obtain ⟨c, cs, hcs, hc⟩ := startsValue_chars hv
  cases fields with
  | nil =>
    simp only [fieldChars, List.length_append, List.length_cons] at hfuel
    have hread := hvalue v ('}' :: rest) hv (by omega) (endsValue_cons (by decide) rest)
    rw [hcs] at hread
    rw [fieldChars, hcs]
    simpa using readFields_last hc.not_space hread
  | cons field fields =>
    obtain ⟨other, w⟩ := field
    obtain ⟨ds, hds⟩ := fieldChars_cons other w fields
    simp only [fieldChars, List.length_append, List.length_cons] at hfuel
    have hread := hvalue v (',' :: (fieldChars ((other, w) :: fields) ++ '}' :: rest)) hv
      (by omega) (endsValue_cons (by decide) _)
    have hrest := hfields other w fields rest hmore.1 hmore.2 (by omega)
    rw [hcs, hds] at hread
    rw [hds] at hrest
    rw [fieldChars, hcs, hds]
    simpa using readFields_more hc.not_space hread (by decide) hrest

end Induction

/-- The readers of values, items and fields recur on the fuel, and so does the proof. -/
theorem reads (fuel : Nat) : ReadsValue fuel ∧ ReadsItems fuel ∧ ReadsFields fuel := by
  induction fuel with
  | zero =>
    refine ⟨readsValue_zero, ?_, ?_⟩
    · intro v items rest _ _ hfuel
      exact absurd hfuel (Nat.not_lt_zero _)
    · intro name v fields rest _ _ hfuel
      exact absurd hfuel (Nat.not_lt_zero _)
  | succ fuel ih =>
    obtain ⟨hvalue, hitems, hfields⟩ := ih
    exact ⟨readsValue_succ hitems hfields, readsItems_succ hvalue hitems,
      readsFields_succ hvalue hfields⟩

/-- **The compact form of a value reads back as the value.** -/
theorem read_compact {v : Json} (hv : v.Writable) : read v.compact.toList = .ok v := by
  obtain ⟨c, cs, hcs, hc⟩ := startsValue_chars hv
  have hread := (reads (v.chars.length + 1)).1 v [] hv (Nat.le_succ _) endsValue_nil
  rw [List.append_nil] at hread
  have hskip : skipSpace v.chars = v.chars := by rw [hcs, skipSpace_cons hc.not_space]
  rw [compact, String.toList_ofList, read, hskip, hread]
  rfl

end ClassOrder.Json
