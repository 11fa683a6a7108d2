/-
TermRef/Yaml/Place.lean

Places in a YAML text, and the classes of characters that its layout is made of.

A place knows what follows, how far in it is, and its line and column.  Past the
end of the text stands the null character, which no text holds.
-/
namespace TermRef.Yaml

/-- A place in a text. -/
structure Place where
  rest : List Char
  index : Nat := 0
  line : Nat := 0
  column : Nat := 0
  deriving DecidableEq, Repr

/-- Stands past the end of the text. -/
def endMark : Char := '\x00'

/-- The characters that end a line. -/
def isBreak (c : Char) : Bool :=
  c == '\n' || c == '\r' || c == '\u0085' || c == '\u2028' || c == '\u2029'

/-- The end of a line or of the text. -/
def isBreakOrEnd (c : Char) : Bool := c == endMark || isBreak c

/-- A space, or the end of a line or of the text. -/
def isSpaceOrEnd (c : Char) : Bool := c == ' ' || isBreakOrEnd c

/-- A space or tab, or the end of a line or of the text. -/
def isGap (c : Char) : Bool := c == '\t' || isSpaceOrEnd c

/-- A space or a tab. -/
def isSpaceOrTab (c : Char) : Bool := c == ' ' || c == '\t'

/-- The characters of names. -/
def isNameChar (c : Char) : Bool := c.isAlphanum || c == '-' || c == '_'

/-- The characters that a text may hold at all. -/
def isAllowed (c : Char) : Bool :=
  c == '\t' || c == '\n' || c == '\r' || (' ' ≤ c && c ≤ '~') || c == '\u0085' ||
    ('\u00a0' ≤ c && c.toNat ≤ 0xfffd) || c.toNat ≥ 0x10000

/-- The character at a place. -/
def Place.head (p : Place) : Char := p.rest.headD endMark

/-- The character `n` places on. -/
def Place.ahead (p : Place) (n : Nat) : Char := (p.rest.drop n).headD endMark

/-- The place after the next character.  A line ends after its break, and a byte
order mark takes no column. -/
def Place.step (p : Place) : Place :=
  match p.rest with
  | [] => p
  | c :: r =>
    if isBreak c && !(c == '\r' && r.head? == some '\n') then
      ⟨r, p.index + 1, p.line + 1, 0⟩
    else ⟨r, p.index + 1, p.line, if c == '\ufeff' then p.column else p.column + 1⟩

/-- The place `n` characters on. -/
def Place.skip : Nat → Place → Place
  | 0, p => p
  | n + 1, p => Place.skip n p.step

/-- The characters that satisfy `f` from a place on, and the place after them. -/
def Place.takeWhile (f : Char → Bool) (p : Place) : List Char × Place :=
  let cs := p.rest.takeWhile f
  (cs, p.skip cs.length)

/-- The place after the characters that satisfy `f`. -/
def Place.dropWhile (f : Char → Bool) (p : Place) : Place := (p.takeWhile f).2

/-- The line break at a place, if there is one, as it counts in text, and the
place after it. -/
def Place.lineBreak? (p : Place) : Option (Char × Place) :=
  match p.rest with
  | '\r' :: '\n' :: _ => some ('\n', p.skip 2)
  | c :: _ =>
    if c == '\r' || c == '\n' || c == '\u0085' then some ('\n', p.step)
    else if c == '\u2028' || c == '\u2029' then some (c, p.step)
    else none
  | [] => none

/-- A marker of the start or the end of a document stands here. -/
def Place.isMarker (p : Place) (c : Char) : Bool :=
  p.head == c && p.ahead 1 == c && p.ahead 2 == c && isGap (p.ahead 3)

/-- A marker of either kind stands here. -/
def Place.isAnyMarker (p : Place) : Bool := p.isMarker '-' || p.isMarker '.'

end TermRef.Yaml
