/-!
# Blank characters and words

Which characters separate words, and the three things done with them: cutting a text into its
words, trimming its ends, and writing the words again with one space between them.

## Main definitions

* `isBlank` — the characters that separate words.
* `words` — the maximal runs of other characters, in order.
* `trim`, `trimEnd` — a text without the blanks at its ends, or at its end.
* `trimSpaces` — a text without the spaces at its ends, which are fewer than the blanks.
* `normalize` — the words of a text with one space between neighbours.
-/

namespace ClassOrder.Text

/-- A blank separates words: the ASCII spacing controls, the four information separators, the
next-line control and every character of the Unicode space separators. -/
def isBlank (c : Char) : Bool :=
  let n := c.toNat
  (0x09 ≤ n && n ≤ 0x0D) || (0x1C ≤ n && n ≤ 0x20) || n == 0x85 || n == 0xA0 || n == 0x1680 ||
    (0x2000 ≤ n && n ≤ 0x200A) || n == 0x2028 || n == 0x2029 || n == 0x202F || n == 0x205F ||
    n == 0x3000

/-- The word collected so far in reverse, as a list of at most one word. -/
def flush (word : List Char) : List (List Char) :=
  if word.isEmpty then [] else [word.reverse]

@[simp] theorem flush_nil : flush [] = [] := rfl

@[simp] theorem flush_cons (c : Char) (cs : List Char) : flush (c :: cs) = [(c :: cs).reverse] :=
  rfl

/-- The words of `cs`, where `word` holds in reverse what the first of them already has. -/
def wordsFrom (word : List Char) : List Char → List (List Char)
  | [] => flush word
  | c :: cs => if isBlank c then flush word ++ wordsFrom [] cs else wordsFrom (c :: word) cs

/-- The maximal runs of characters that are not blank, in order. -/
def words (cs : List Char) : List (List Char) := wordsFrom [] cs

@[simp] theorem words_nil : words [] = [] := rfl

/-- The text from its first character that is not blank. -/
def trimStart (cs : List Char) : List Char := cs.dropWhile isBlank

/-- The text up to its last character that is not blank. -/
def trimEnd (cs : List Char) : List Char := (cs.reverse.dropWhile isBlank).reverse

/-- The text without the blanks at its two ends. -/
def trim (cs : List Char) : List Char := trimEnd (trimStart cs)

/-- A space is a blank other than the four information separators. -/
def isSpace (c : Char) : Bool := isBlank c && !(0x1C ≤ c.toNat && c.toNat ≤ 0x1F)

/-- The text without the spaces at its two ends. -/
def trimSpaces (cs : List Char) : List Char :=
  ((cs.dropWhile isSpace).reverse.dropWhile isSpace).reverse

/-- The words of a text with one space between neighbours. -/
def normalize (s : String) : String := String.ofList ([' '].intercalate (words s.toList))

end ClassOrder.Text
