/-
TermRef/Files/Wildcard.lean

Wildcards in the names of files.

A star stands for any characters, a question mark for any one, and a set in square
brackets for one of its members, or for any other character if the set starts with an
exclamation mark.  A bracket that is not closed stands for itself, and so does one
right after the opening of a set.
-/
namespace TermRef

/-- A member of a set: the characters from one to another. -/
structure WildRange where
  first : Char
  last : Char
  deriving DecidableEq, Repr

/-- The character is one of the range. -/
def WildRange.holds (m : WildRange) (c : Char) : Bool := m.first ≤ c && c ≤ m.last

/-- A part of a wildcard. -/
inductive WildPart where
  /-- The character itself. -/
  | char (c : Char)
  /-- Any one character. -/
  | any
  /-- Any characters. -/
  | star
  /-- A character of the set, or one that is not if it is `negated`. -/
  | set (negated : Bool) (members : List WildRange)
  deriving DecidableEq, Repr

namespace WildPart

/-! ### Reading -/

/-- The members of a set.  A hyphen between two characters makes a range of them. -/
def members : List Char → List WildRange
  | [] => []
  | a :: '-' :: b :: r => ⟨a, b⟩ :: members r
  | a :: r => ⟨a, a⟩ :: members r

/-- What is up to the next closing bracket, and what follows it. -/
def upToBracket? (s : List Char) : Option (List Char × List Char) :=
  match s.span (· != ']') with
  | (_, []) => none
  | (a, _ :: r) => some (a, r)

/-- The body of a set, which is not empty, and what follows its closing bracket. -/
def setBody? : List Char → Option (List Char × List Char)
  | [] => none
  | c :: r => (upToBracket? r).map fun (a, b) => (c :: a, b)

/-- The set at the start of a text after an opening bracket, and what follows it. -/
def set? : List Char → Option (WildPart × List Char)
  | '!' :: s => (setBody? s).map fun (a, r) => (.set true (members a), r)
  | s => (setBody? s).map fun (a, r) => (.set false (members a), r)

/-- The part that a character other than an opening bracket stands for. -/
def ofChar (c : Char) : WildPart :=
  if c == '*' then .star else if c == '?' then .any else .char c

/-- The parts of a text.  Every part takes a character, so one more than there are is
fuel enough. -/
def ofCharsFrom : Nat → List Char → List WildPart
  | 0, _ => []
  | _, [] => []
  | fuel + 1, c :: r =>
    match if c == '[' then set? r else none with
    | some (p, s) => p :: ofCharsFrom fuel s
    | none => ofChar c :: ofCharsFrom fuel r

/-- The parts of a wildcard. -/
def ofText (s : String) : List WildPart := ofCharsFrom (s.length + 1) s.toList

/-- The text has a character with a meaning of its own. -/
def isMagic (s : List Char) : Bool := s.any fun c => c == '*' || c == '?' || c == '['

/-! ### Matching -/

/-- The part stands for the character. -/
def accepts : WildPart → Char → Bool
  | .char d, c => c == d
  | .any, _ => true
  | .star, _ => true
  | .set negated ms, c => (ms.any fun m => m.holds c) != negated

/-- What can be left of a text when characters are taken off its front. -/
def suffixes : List Char → List (List Char)
  | [] => [[]]
  | c :: r => (c :: r) :: suffixes r

/-- The parts stand for the text as a whole. -/
def acceptsAll : List WildPart → List Char → Bool
  | [], s => s.isEmpty
  | .star :: ps, s => (suffixes s).any fun r => acceptsAll ps r
  | p :: ps, s =>
    match s with
    | [] => false
    | c :: r => p.accepts c && acceptsAll ps r

end WildPart

/-- The wildcard stands for the name. -/
def matchesName (wildcard name : String) : Bool :=
  WildPart.acceptsAll (WildPart.ofText wildcard) name.toList

end TermRef
