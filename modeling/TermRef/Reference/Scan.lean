/-
TermRef/Reference/Scan.lean

Finding the references of a text.

The text is searched from the left.  A match that takes no character is passed
over, and so is one right after a backslash or a backtick, which escape it; the
search then goes on one character after its start.  Any other match is a
reference, and the search goes on at its end.  So the references found are in
order and do not overlap.
-/
import TermRef.Reference.Basic
import TermRef.Reference.Grammar

namespace TermRef

open Pattern

/-- The character before a place escapes what starts there. -/
def isEscape (c : Char) : Bool := c == '\\' || c == '\x60'

/-- What a scan comes upon: a reference, or a match that is escaped. -/
inductive Finding where
  | found (o : Occurrence)
  | escaped (start : Nat) (text : String)
  deriving DecidableEq, Repr

/-- The reference that a match with a pattern denotes. -/
def Grammar.interpret (g : Grammar) (stop : Cursor) : Reference :=
  Reference.ofParts fun name => (g.pattern.group? stop name).map String.ofList

/-- The occurrence between the two places of a match. -/
def Grammar.occurrence (g : Grammar) (start stop : Cursor) : Occurrence where
  start := start.pos
  stop := stop.pos
  text := String.ofList (start.textFrom stop)
  reference := g.interpret stop

/-- What comes right before a place escapes it. -/
def isEscaped (start : Cursor) : Bool :=
  match start.before with
  | [] => false
  | c :: _ => isEscape c

/-- A match that is no reference: it takes no character, or it is escaped. -/
def isPassedOver (start stop : Cursor) : Bool := stop.pos == start.pos || isEscaped start

/-- The finding that a match passed over leaves. -/
def passedOver (start stop : Cursor) : List Finding :=
  if stop.pos == start.pos then []
  else [.escaped start.pos (String.ofList (start.textFrom stop))]

/-- Scans a text from a place on.  Every step moves on by a character at least,
so one more than the characters left is fuel enough. -/
def Grammar.scanFrom (g : Grammar) : Nat → Cursor → List Finding
  | 0, _ => []
  | fuel + 1, c =>
    match g.pattern.search? c with
    | none => []
    | some (start, stop) =>
      if isPassedOver start stop then
        passedOver start stop ++
          match start.next? with
          | some (_, d) => g.scanFrom fuel d
          | none => []
      else .found (g.occurrence start stop) :: g.scanFrom fuel stop.clear

/-- All that a scan of a text comes upon. -/
def Grammar.findings (g : Grammar) (s : String) : List Finding :=
  g.scanFrom (s.length + 1) (.ofText s.toList)

/-- The reference of a finding that is one. -/
def Finding.occurrence? : Finding → Option Occurrence
  | .found o => some o
  | .escaped _ _ => none

/-- The references of a text, in order. -/
def Grammar.scan (g : Grammar) (s : String) : List Occurrence :=
  (g.findings s).filterMap Finding.occurrence?

end TermRef
