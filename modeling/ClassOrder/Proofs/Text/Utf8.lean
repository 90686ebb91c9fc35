import ClassOrder.Text.Utf8

/-!
# The UTF-8 form reads back

The strict reader takes from the bytes of a text exactly its characters.  A character has one to
four bytes, and the four cases are stated on the bytes alone: what they must be for the reader
to find one character, and which one it is.

## Main results

* `nextChar_utf8EncodeChar` — the bytes of a character, whatever follows, start with it.
* `ofUtf8?_utf8` — the bytes of a text read back as the text.
-/

namespace ClassOrder.Text

@[simp] theorem utf8_append (s t : String) : utf8 (s ++ t) = utf8 s ++ utf8 t := by simp [utf8]

/-! ### One character -/

theorem nextChar_one {a : UInt8} (rest : List UInt8) (ha : a.toNat < 0x80) :
    nextChar (a :: rest) = .char (Char.ofNat a.toNat) rest := by
  simp [nextChar, ha]

theorem nextChar_two {a b : UInt8} (rest : List UInt8) (ha : 0xC2 ≤ a.toNat)
    (ha' : a.toNat < 0xE0) (hb : 0x80 ≤ b.toNat) (hb' : b.toNat ≤ 0xBF) :
    nextChar (a :: b :: rest) = .char (Char.ofNat (a.toNat % 32 * 64 + tailBits b)) rest := by
  have hrange : secondRange a.toNat = (0x80, 0xBF) := by
    simp only [secondRange, beq_iff_eq]
    repeat rw [if_neg (by omega)]
  have hlow : ¬ a.toNat < 0x80 := by omega
  have hlead : ¬ (a.toNat < 0xC2 ∨ 0xF4 < a.toNat) := by omega
  simp [nextChar, hrange, hlow, hlead, ha', isTail, hb, hb']

theorem nextChar_three {a b c : UInt8} (rest : List UInt8) (ha : 0xE0 ≤ a.toNat)
    (ha' : a.toNat < 0xF0) (hb : isTail (secondRange a.toNat).1 (secondRange a.toNat).2 b = true)
    (hc : isTail 0x80 0xBF c = true) :
    nextChar (a :: b :: c :: rest) =
      .char (Char.ofNat (a.toNat % 16 * 4096 + tailBits b * 64 + tailBits c)) rest := by
  have hlow : ¬ a.toNat < 0x80 := by omega
  have hlead : ¬ (a.toNat < 0xC2 ∨ 0xF4 < a.toNat) := by omega
  have htwo : ¬ a.toNat < 0xE0 := by omega
  simp [nextChar, hlow, hlead, htwo, ha', hb, hc]

theorem nextChar_four {a b c d : UInt8} (rest : List UInt8) (ha : 0xF0 ≤ a.toNat)
    (ha' : a.toNat ≤ 0xF4) (hb : isTail (secondRange a.toNat).1 (secondRange a.toNat).2 b = true)
    (hc : isTail 0x80 0xBF c = true) (hd : isTail 0x80 0xBF d = true) :
    nextChar (a :: b :: c :: d :: rest) =
      .char (Char.ofNat (a.toNat % 8 * 262144 + tailBits b * 4096 + tailBits c * 64 + tailBits d))
        rest := by
  have hlow : ¬ a.toNat < 0x80 := by omega
  have hlead : ¬ (a.toNat < 0xC2 ∨ 0xF4 < a.toNat) := by omega
  have htwo : ¬ a.toNat < 0xE0 := by omega
  have hthree : ¬ a.toNat < 0xF0 := by omega
  simp [nextChar, hlow, hlead, htwo, hthree, hb, hc, hd]

/-- The number of a character is a code point and no half of a surrogate pair. -/
theorem charNumber_range (c : Char) :
    c.toNat < 0xD800 ∨ 0xDFFF < c.toNat ∧ c.toNat < 0x110000 := c.valid

theorem toNat_tailByte (n : Nat) : (UInt8.ofNat (n % 64 + 128)).toNat = n % 64 + 128 := by
  rw [UInt8.toNat_ofNat']
  omega

theorem tailBits_tailByte (n : Nat) : tailBits (UInt8.ofNat (n % 64 + 128)) = n % 64 := by
  rw [tailBits, toNat_tailByte]
  omega

theorem isTail_tailByte (n : Nat) : isTail 0x80 0xBF (UInt8.ofNat (n % 64 + 128)) = true := by
  simp only [isTail, toNat_tailByte, Bool.and_eq_true, decide_eq_true_eq]
  omega

/-- The bytes of a character, whatever follows, start with it. -/
theorem nextChar_utf8EncodeChar (c : Char) (rest : List UInt8) :
    nextChar (String.utf8EncodeChar c ++ rest) = .char c rest := by
  have hvalid := charNumber_range c
  have hc : Char.ofNat c.toNat = c := Char.ofNat_toNat c
  have hn : c.val.toNat = c.toNat := rfl
  generalize c.toNat = n at hvalid hc hn
  unfold String.utf8EncodeChar
  simp only [hn]
  split
  · next h =>
    have ha : (UInt8.ofNat n).toNat = n := by rw [UInt8.toNat_ofNat']; omega
    rw [List.cons_append, List.nil_append, nextChar_one rest (by omega), ha, hc]
  split
  · next h h2 =>
    have ha : (UInt8.ofNat (n / 64 % 32 + 192)).toNat = n / 64 + 192 := by
      rw [UInt8.toNat_ofNat']; omega
    have hb := toNat_tailByte n
    simp only [List.cons_append, List.nil_append]
    rw [nextChar_two rest (by omega) (by omega) (by omega) (by omega), tailBits_tailByte, ha]
    have : (n / 64 + 192) % 32 * 64 + n % 64 = n := by omega
    rw [this, hc]
  split
  · next h h2 h3 =>
    have ha : (UInt8.ofNat (n / 4096 % 16 + 224)).toNat = n / 4096 + 224 := by
      rw [UInt8.toNat_ofNat']; omega
    -- a second byte outside its range would belong to an overlong form or to a surrogate
    have hsecond : isTail (secondRange (n / 4096 + 224)).1 (secondRange (n / 4096 + 224)).2
        (UInt8.ofNat (n / 64 % 64 + 128)) = true := by
      simp only [isTail, toNat_tailByte, secondRange, beq_iff_eq, Bool.and_eq_true,
        decide_eq_true_eq]
      (repeat' split) <;> constructor <;> dsimp only <;> omega
    simp only [List.cons_append, List.nil_append]
    rw [nextChar_three rest (by omega) (by omega) (by rw [ha]; exact hsecond) (isTail_tailByte n),
      tailBits_tailByte, tailBits_tailByte, ha]
    have : (n / 4096 + 224) % 16 * 4096 + n / 64 % 64 * 64 + n % 64 = n := by omega
    rw [this, hc]
  · next h h2 h3 =>
    have ha : (UInt8.ofNat (n / 262144 % 8 + 240)).toNat = n / 262144 + 240 := by
      rw [UInt8.toNat_ofNat']; omega
    have hsecond : isTail (secondRange (n / 262144 + 240)).1 (secondRange (n / 262144 + 240)).2
        (UInt8.ofNat (n / 4096 % 64 + 128)) = true := by
      simp only [isTail, toNat_tailByte, secondRange, beq_iff_eq, Bool.and_eq_true,
        decide_eq_true_eq]
      (repeat' split) <;> constructor <;> dsimp only <;> omega
    simp only [List.cons_append, List.nil_append]
    rw [nextChar_four rest (by omega) (by omega) (by rw [ha]; exact hsecond)
        (isTail_tailByte (n / 64)) (isTail_tailByte n),
      tailBits_tailByte, tailBits_tailByte, tailBits_tailByte, ha]
    have : (n / 262144 + 240) % 8 * 262144 + n / 4096 % 64 * 4096 + n / 64 % 64 * 64 + n % 64
        = n := by omega
    rw [this, hc]

/-! ### Whole texts -/

theorem length_le_length_flatMap_utf8EncodeChar (cs : List Char) :
    cs.length ≤ (cs.flatMap String.utf8EncodeChar).length := by
  induction cs with
  | nil => simp
  | cons c cs ih =>
    have := c.utf8Size_pos
    simp only [List.flatMap_cons, List.length_append, List.length_cons,
      String.length_utf8EncodeChar]
    omega

/-- The reader finds the characters one by one, with a unit of fuel for each. -/
theorem charsOfUtf8?_flatMap (cs : List Char) :
    ∀ (fuel : Nat) (read : List Char), cs.length ≤ fuel →
      charsOfUtf8? fuel read (cs.flatMap String.utf8EncodeChar) = some (read.reverse ++ cs) := by
  induction cs with
  | nil =>
    intro fuel read _
    cases fuel <;> simp [charsOfUtf8?, nextChar]
  | cons c cs ih =>
    intro fuel read hfuel
    obtain ⟨fuel, rfl⟩ : ∃ k, fuel = k + 1 := ⟨fuel - 1, by simp at hfuel; omega⟩
    rw [List.flatMap_cons, charsOfUtf8?, nextChar_utf8EncodeChar]
    have hlen : cs.length ≤ fuel := by simpa using hfuel
    simp [ih fuel (c :: read) hlen]

/-- **The bytes of a text read back as the text.** -/
theorem ofUtf8?_utf8 (s : String) : ofUtf8? (utf8 s) = some s := by
  have hlen := length_le_length_flatMap_utf8EncodeChar s.toList
  rw [ofUtf8?, utf8, charsOfUtf8?_flatMap s.toList _ [] hlen]
  simp

end ClassOrder.Text
