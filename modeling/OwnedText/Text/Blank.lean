import OwnedText.Text.CodeRange

/-! # Blank characters

The characters that count as space between words in any script: control characters that move the place
of writing, spaces of all widths, and the separators of lines and paragraphs.
-/

namespace OwnedText.Blank

/-- Space characters. -/
def blankRanges : List (Nat × Nat) := [
  (0x9, 0xd), (0x20, 0x20), (0x85, 0x85), (0xa0, 0xa0), (0x1680, 0x1680), (0x2000, 0x200a),
  (0x2028, 0x2029), (0x202f, 0x202f), (0x205f, 0x205f), (0x3000, 0x3000)]

def isBlank (c : Char) : Bool := CodeRange.covers blankRanges c.toNat

/-- The text without the blanks at its start. -/
def trimStart (text : List Char) : List Char := text.dropWhile isBlank

/-- The text without the blanks at its start and its end. -/
def trim (text : List Char) : List Char := (trimStart (trimStart text).reverse).reverse

end OwnedText.Blank
