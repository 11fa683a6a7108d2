/-
TermRef/Unicode/Blank.lean

Blank characters, and text trimmed of them.

Blank is wider than Unicode's white space property: the four information
separators U+001C to U+001F count as well.  `strip` removes blanks from both
ends; `isBlankText` says that nothing would be left.
-/
import TermRef.Unicode.Ranges

namespace TermRef.Unicode

/-- Code points of the blank characters. -/
def blankRanges : Ranges := [
  (0x9, 0xd), (0x1c, 0x20), (0x85, 0x85), (0xa0, 0xa0), (0x1680, 0x1680), (0x2000, 0x200a),
  (0x2028, 0x2029), (0x202f, 0x202f), (0x205f, 0x205f), (0x3000, 0x3000)]

/-- The characters that trimming removes. -/
def isBlank (c : Char) : Bool := blankRanges.mem c

/-- Text without the blanks at its start. -/
def stripLeft (s : List Char) : List Char := s.dropWhile isBlank

/-- Text without the blanks at its end. -/
def stripRight (s : List Char) : List Char := (s.reverse.dropWhile isBlank).reverse

/-- Text without the blanks at either end. -/
def strip (s : List Char) : List Char := stripRight (stripLeft s)

/-- The text holds no character that is not blank. -/
def isBlankText (s : List Char) : Bool := s.all isBlank

end TermRef.Unicode
