/-
TermRef/Proofs/Json/Syntax.lean

JSON texts, with the values that they denote.

A tree of this module holds all that the writer of a JSON text can choose: the values, and for
each of them the way it is written, from the white space about it to the letters of an escape.
What is bound by rules carries the proof that it keeps to them (`Blank`, `Numeral`, `Piece`).  So
every tree can be written (`Json.text`), and every JSON text without a lone surrogate is written
from a tree.

A numeral denotes the text that it is written as.  Of the members of an object that have one name,
the last one counts (`Members.entries`).
-/
import TermRef.Value.Basic

namespace TermRef

namespace Json

/-! ### White space -/

/-- White space, possibly none. -/
structure Blank where
  chars : List Char
  legal : chars.all [' ', '\t', '\n', '\r'].contains = true := by decide

/-- No white space. -/
def Blank.none : Blank where
  chars := []

/-! ### Numerals -/

/-- Digits, at least one. -/
structure Digits where
  first : Fin 10
  more : List (Fin 10) := []
  deriving DecidableEq, Repr

def Digits.text (d : Digits) : List Char :=
  (d.first :: d.more).map fun n => n.val.digitChar

/-- An exponent: its mark, its sign, and its digits. -/
structure Exponent where
  capital : Bool
  sign : Option Bool
  digits : Digits
  deriving DecidableEq, Repr

def Exponent.text (e : Exponent) : List Char :=
  (if e.capital then 'E' else 'e') ::
    ((e.sign.map fun negative => if negative then '-' else '+').toList ++ e.digits.text)

/-- A numeral.  Its whole part begins with a zero only if it is zero. -/
structure Numeral where
  negative : Bool := false
  whole : Digits
  fraction : Option Digits := none
  exponent : Option Exponent := none
  legal : whole.first.val = 0 → whole.more = [] := by decide
  deriving DecidableEq, Repr

def Numeral.text (n : Numeral) : List Char :=
  (if n.negative then ['-'] else []) ++ n.whole.text ++
    (n.fraction.map fun d => '.' :: d.text).getD [] ++ (n.exponent.map Exponent.text).getD []

/-! ### Strings -/

/-- A hexadecimal digit, with a small letter or a capital. -/
structure HexDigit where
  value : Fin 16
  capital : Bool := false
  deriving DecidableEq, Repr

def HexDigit.char (d : HexDigit) : Char :=
  if d.capital then d.value.val.digitChar.toUpper else d.value.val.digitChar

/-- Four hexadecimal digits. -/
structure CodeUnit where
  a : HexDigit
  b : HexDigit
  c : HexDigit
  d : HexDigit
  deriving DecidableEq, Repr

namespace CodeUnit

def text (u : CodeUnit) : List Char := ['\\', 'u', u.a.char, u.b.char, u.c.char, u.d.char]

def number (u : CodeUnit) : Nat :=
  ((u.a.value * 16 + u.b.value) * 16 + u.c.value) * 16 + u.d.value

/-- The first half of a surrogate pair. -/
def IsHigh (u : CodeUnit) : Prop := 0xd800 ≤ u.number ∧ u.number < 0xdc00

/-- The second half of a surrogate pair. -/
def IsLow (u : CodeUnit) : Prop := 0xdc00 ≤ u.number ∧ u.number < 0xe000

instance : DecidablePred IsHigh := fun _ => inferInstanceAs (Decidable (_ ∧ _))

instance : DecidablePred IsLow := fun _ => inferInstanceAs (Decidable (_ ∧ _))

end CodeUnit

/-- The characters that have an escape of one letter, with this letter. -/
def shortEscapes : List (Char × Char) :=
  [('"', '"'), ('\\', '\\'), ('/', '/'), ('b', '\x08'), ('f', '\x0c'), ('n', '\n'), ('r', '\r'),
    ('t', '\t')]

/-- One character of a string, as it is written. -/
inductive Piece where
  /-- A character that stands for itself. -/
  | plain (c : Char) (legal : ' ' ≤ c ∧ c ≠ '"' ∧ c ≠ '\\')
  /-- A letter behind a backslash. -/
  | short (letter c : Char) (legal : (letter, c) ∈ shortEscapes)
  /-- The number of a character. -/
  | code (u : CodeUnit) (legal : ¬ u.IsHigh ∧ ¬ u.IsLow)
  /-- The numbers of a surrogate pair. -/
  | pair (high low : CodeUnit) (legal : high.IsHigh ∧ low.IsLow)

namespace Piece

def text : Piece → List Char
  | plain c _ => [c]
  | short letter _ _ => ['\\', letter]
  | code u _ => u.text
  | pair high low _ => high.text ++ low.text

def char : Piece → Char
  | plain c _ => c
  | short _ c _ => c
  | code u _ => Char.ofNat u.number
  | pair high low _ => Char.ofNat (0x10000 + (high.number - 0xd800) * 0x400 + (low.number - 0xdc00))

end Piece

/-- A string, as it is written between its quotes. -/
abbrev Written := List Piece

namespace Written

/-- What stands between the quotes. -/
def body (s : Written) : List Char := s.flatMap Piece.text

def text (s : Written) : List Char := '"' :: s.body ++ ['"']

def value (s : Written) : String := String.ofList (s.map Piece.char)

/-- A text that is written without escapes. -/
def verbatim (s : List Char)
    (h : (s.all fun c => decide (' ' ≤ c ∧ c ≠ '"' ∧ c ≠ '\\')) = true := by decide) : Written :=
  s.attach.map fun c => .plain c.1 (of_decide_eq_true (List.all_eq_true.mp h c.1 c.2))

end Written

end Json

/-! ### Values -/

mutual

/-- A JSON value, as it is written.  Behind an opening bracket there may be white space, and there
may be some before and after every item and every name and value of a member. -/
inductive Json where
  | null
  | bool (b : Bool)
  | number (n : Json.Numeral)
  | string (s : Json.Written)
  | array (inside : Json.Blank) (items : Json.Items)
  | object (inside : Json.Blank) (members : Json.Members)

/-- The items of an array. -/
inductive Json.Items where
  | nil
  | cons (before : Json.Blank) (value : Json) (after : Json.Blank) (rest : Json.Items)

/-- The members of an object. -/
inductive Json.Members where
  | nil
  | cons (before : Json.Blank) (name : Json.Written) (toColon toValue : Json.Blank) (value : Json)
      (after : Json.Blank) (rest : Json.Members)

end

namespace Json

/-- The comma before all items but the first. -/
def comma (first : Bool) : List Char := if first then [] else [',']

mutual

/-- The text of a value. -/
def text : Json → List Char
  | .null => "null".toList
  | .bool b => (if b then "true" else "false").toList
  | .number n => n.text
  | .string s => s.text
  | .array inside items => '[' :: inside.chars ++ items.text true ++ [']']
  | .object inside members => '\x7b' :: inside.chars ++ members.text true ++ ['\x7d']

/-- The text of items. -/
def Items.text (first : Bool) : Items → List Char
  | .nil => []
  | .cons before v after rest =>
    comma first ++ before.chars ++ v.text ++ after.chars ++ rest.text false

/-- The text of members. -/
def Members.text (first : Bool) : Members → List Char
  | .nil => []
  | .cons before name toColon toValue v after rest =>
    comma first ++ before.chars ++ name.text ++ toColon.chars ++ ':' :: toValue.chars ++ v.text ++
      after.chars ++ rest.text false

end

/-- A mapping of members: each takes the place of an earlier one of its name. -/
def ofMembers (ms : List (String × Value)) : Entries :=
  ms.foldl (fun es m => es.put (.text m.1) m.2) []

mutual

/-- The value that is denoted. -/
def value : Json → Value
  | .null => .null
  | .bool b => .bool b
  | .number n => .text (String.ofList n.text)
  | .string s => .text s.value
  | .array _ items => .list items.values
  | .object _ members => .mapping (ofMembers members.named)

/-- The values of items. -/
def Items.values : Items → List Value
  | .nil => []
  | .cons _ v _ rest => v.value :: rest.values

/-- The names and values of members. -/
def Members.named : Members → List (String × Value)
  | .nil => []
  | .cons _ name _ _ v _ rest => (name.value, v.value) :: rest.named

end

/-- A text that consists of an object, with white space about it. -/
structure Document where
  before : Blank := .none
  inside : Blank := .none
  members : Members
  after : Blank := .none

namespace Document

def text (d : Document) : List Char :=
  d.before.chars ++ (Json.object d.inside d.members).text ++ d.after.chars

/-- The entries of the object. -/
def entries (d : Document) : Entries := ofMembers d.members.named

end Document

end Json

end TermRef
