import ClassOrder.Text.Utf8

/-!
# Lines of text files

A text file is read with its line ends made alike: a return, with or without a line feed after
it, becomes a line feed.

## Main definitions

* `unifyLines` — a text with its line ends made alike.
* `readText?` — the text of a file's bytes.
-/

namespace ClassOrder.Text

/-- A text with its line ends made alike. -/
def unifyLines : List Char → List Char
  | [] => []
  | '\r' :: '\n' :: cs => '\n' :: unifyLines cs
  | '\r' :: cs => '\n' :: unifyLines cs
  | c :: cs => c :: unifyLines cs

/-- The text of a file's bytes, if they are the bytes of a text. -/
def readText? (bytes : List UInt8) : Option String :=
  (ofUtf8? bytes).map fun s => String.ofList (unifyLines s.toList)

end ClassOrder.Text
