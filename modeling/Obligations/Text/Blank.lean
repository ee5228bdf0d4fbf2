import Obligations.Text.Range

/-! # White space

The white space characters of Unicode together with the four separators `U+001C` to `U+001F`, and
what is left of a text once white space is taken off both ends. Texts of files are taken with every
line ending in the same way.
-/

namespace Obligations.Text

/-- The ranges of white space characters. -/
def blankRanges : List CodeRange :=
  [
    ⟨0x9, 0xd⟩, ⟨0x1c, 0x20⟩, ⟨0x85, 0x85⟩, ⟨0xa0, 0xa0⟩, ⟨0x1680, 0x1680⟩, ⟨0x2000, 0x200a⟩,
    ⟨0x2028, 0x2029⟩, ⟨0x202f, 0x202f⟩, ⟨0x205f, 0x205f⟩, ⟨0x3000, 0x3000⟩]

/-- White space, as it is taken off the ends of a text. -/
def isBlank (c : Char) : Bool :=
  inRanges blankRanges c

/-- The characters of a text without the white space at its start. -/
def trimLeft (chars : List Char) : List Char :=
  chars.dropWhile isBlank

/-- The characters of a text without the white space at its end. -/
def trimRight (chars : List Char) : List Char :=
  (chars.reverse.dropWhile isBlank).reverse

/-- The characters of a text without the white space at either end. -/
def trimChars (chars : List Char) : List Char :=
  trimRight (trimLeft chars)

/-- A text without the white space at either end. -/
def trim (text : String) : String :=
  String.ofList (trimChars text.toList)

theorem trimLeft_cons_of_blank {c : Char} (blank : isBlank c = true) (rest : List Char) :
    trimLeft (c :: rest) = trimLeft rest := by
  simp [trimLeft, blank]

theorem trimLeft_cons_of_not_blank {c : Char} (solid : isBlank c = false) (rest : List Char) :
    trimLeft (c :: rest) = c :: rest := by
  simp [trimLeft, solid]

/-- Characters with one line feed for every way to end a line. -/
def withPlainLineEnds : List Char → List Char
  | '\r' :: '\n' :: rest => '\n' :: withPlainLineEnds rest
  | c :: rest => (if c = '\r' then '\n' else c) :: withPlainLineEnds rest
  | [] => []

/-- A text with one line feed for every way to end a line. -/
def plainLines (content : String) : String :=
  String.ofList (withPlainLineEnds content.toList)

end Obligations.Text
