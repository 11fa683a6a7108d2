/-
TermRef/Pattern/Cursor.lean

A place in a text: what lies before it, what follows, and the groups that have
been taken so far.

The text before is kept with the nearest character first, so moving by one
character in either direction is one step.  A group is kept as its start, its
end and the text before its end, from which its own text is read when it is
asked for.
-/
namespace TermRef.Pattern

/-- The part of the text that a group has taken. -/
structure Capture where
  start : Nat
  stop : Nat
  /-- What lies before the end of the group, nearest character first. -/
  back : List Char

/-- The characters of a group. -/
def Capture.text (c : Capture) : List Char := (c.back.take (c.stop - c.start)).reverse

/-- A place in a text. -/
structure Cursor where
  /-- What lies before, nearest character first. -/
  before : List Char
  /-- What follows. -/
  rest : List Char
  /-- The number of characters before. -/
  pos : Nat
  /-- The groups taken, latest first. -/
  groups : List (Nat × Capture)

/-- The start of a text. -/
def Cursor.ofText (s : List Char) : Cursor := ⟨[], s, 0, []⟩

/-- The same place with no group taken. -/
def Cursor.clear (c : Cursor) : Cursor := { c with groups := [] }

/-- The next character and the place after it. -/
def Cursor.next? (c : Cursor) : Option (Char × Cursor) :=
  match c.rest with
  | [] => none
  | x :: r => some (x, ⟨x :: c.before, r, c.pos + 1, c.groups⟩)

/-- The place `n` characters before. -/
def Cursor.back? : Nat → Cursor → Option Cursor
  | 0, c => some c
  | n + 1, c =>
    match c.before with
    | [] => none
    | x :: b => Cursor.back? n ⟨b, x :: c.rest, c.pos - 1, c.groups⟩

/-- The latest text of a group. -/
def Cursor.group? (c : Cursor) (i : Nat) : Option Capture :=
  (c.groups.find? fun g => g.1 == i).map (·.2)

/-- The place `c`, with group `i` taken from `start` up to here. -/
def Cursor.capture (c : Cursor) (i : Nat) (start : Nat) : Cursor :=
  { c with groups := (i, ⟨start, c.pos, c.before⟩) :: c.groups.filter fun g => g.1 != i }

/-- The characters from the place `start` up to the place `stop` of a text. -/
def Cursor.textFrom (start stop : Cursor) : List Char :=
  (stop.before.take (stop.pos - start.pos)).reverse

end TermRef.Pattern
