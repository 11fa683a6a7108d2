/-
TermRef/Text/Lines.lean

Lines of a text: counting them, and reading line ends.

A position lies on the line whose number is one more than the newlines before
it.  A position counted from the end is negative; one outside the text is
taken to its nearer end.
-/
namespace TermRef.Lines

/-- A position, possibly counted from the end, brought into a text of `size`
characters. -/
def clampPosition (size : Nat) (i : Int) : Nat :=
  if i < 0 then (i + size).toNat else min i.toNat size

/-- The number, from 1, of the line that position `i` of the text lies on. -/
def lineOf (s : List Char) (i : Nat) : Nat := (s.take i).count '\n' + 1

/-- The number, from 1, of the line of a position that may count from the end. -/
def lineNumber (s : List Char) (i : Int) : Nat := lineOf s (clampPosition s.length i)

/-- The text with every line end, be it a line feed, a carriage return or both,
written as a line feed. -/
def unifyEnds : List Char → List Char
  | [] => []
  | '\r' :: '\n' :: r => '\n' :: unifyEnds r
  | '\r' :: r => '\n' :: unifyEnds r
  | c :: r => c :: unifyEnds r

end TermRef.Lines
