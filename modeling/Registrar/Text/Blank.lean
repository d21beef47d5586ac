import Registrar.Text.Ranges

/-!
# Blank texts

A text is blank if it holds nothing but white space, as the Unicode property `White_Space` has it.

## Main definitions

* `isWhiteSpace` — the property of a character.
* `isBlankText` — whether a text holds nothing else; `trim` removes it from both ends.
-/

namespace Registrar

/-- Code points with the property `White_Space`. -/
def whiteSpaceRanges : List (Nat × Nat) :=
  [(0x9, 0xd), (0x20, 0x20), (0x85, 0x85), (0xa0, 0xa0), (0x1680, 0x1680), (0x2000, 0x200a),
    (0x2028, 0x2029), (0x202f, 0x202f), (0x205f, 0x205f), (0x3000, 0x3000)]

/-- Whether a character is white space. -/
def isWhiteSpace (c : Char) : Bool :=
  inRanges whiteSpaceRanges c.toNat

/-- Whether a text holds nothing but white space. -/
def isBlankText (text : String) : Bool :=
  text.toList.all isWhiteSpace

/-- The text after the white space at its front. -/
def trimLeft (text : List Char) : List Char :=
  text.dropWhile isWhiteSpace

end Registrar
