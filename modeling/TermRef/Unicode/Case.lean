/-
TermRef/Unicode/Case.lean

Case of characters and of text.

Lower case of text goes character by character, with two exceptions: the
dotted capital I becomes two characters, and a capital sigma at the end of a
word becomes the final form.  Upper case may turn one character into up to
three.  `fold` is the plain one-to-one lower case that caseless comparison
uses.
-/
import TermRef.Unicode.CaseTable

namespace TermRef.Unicode

/-- The code point mapped by runs, as a character. -/
def CaseRuns.map (t : CaseRuns) (c : Char) : Char := Char.ofNat (t.apply c.toNat)

/-- One-to-one lower case. -/
def fold (c : Char) : Char := lowerRuns.map c

/-- Upper, lower or title case. -/
def isCased (c : Char) : Bool := casedRanges.mem c

/-- Title case. -/
def isTitle (c : Char) : Bool := titleRanges.mem c

/-- Upper case. -/
def isUpper (c : Char) : Bool :=
  (fold c != c && !isTitle c) || unmappedUpperRanges.mem c

/-- Lower case. -/
def isLower (c : Char) : Bool := isCased c && !isUpper c && !isTitle c

/-! ### Lower case of text -/

/-- The nearest character that is not passed over is cased. -/
def casedNext (s : List Char) : Bool :=
  match s.find? fun c => !caseIgnorableRanges.mem c with
  | some c => isCased c
  | none => false

/-- Lower case of one character between what precedes it, nearest first, and
what follows it. -/
def lowerAt (before : List Char) (c : Char) (after : List Char) : List Char :=
  if c == 'İ' then ['i', '̇']
  else if c == 'Σ' then
    [if casedNext before && !casedNext after then 'ς' else 'σ']
  else [fold c]

/-- Lower case of `s` after the text whose reverse is `before`. -/
def lowerFrom (before : List Char) : List Char → List Char
  | [] => []
  | c :: r => lowerAt before c r ++ lowerFrom (c :: before) r

/-- Lower case of a text. -/
def lower (s : List Char) : List Char := lowerFrom [] s

/-! ### Upper and title case of text -/

/-- The characters of an exception, or the one-to-one image. -/
def mapWith (special : List (Nat × List Nat)) (t : CaseRuns) (c : Char) : List Char :=
  match special.find? fun r => r.1 == c.toNat with
  | some r => r.2.map Char.ofNat
  | none => [t.map c]

/-- Upper case of a character. -/
def upperChar (c : Char) : List Char := mapWith upperSpecial upperRuns c

/-- Title case of a character. -/
def titleChar (c : Char) : List Char :=
  match titleSpecial.find? fun r => r.1 == c.toNat with
  | some r => r.2.map Char.ofNat
  | none => upperChar c

/-- Upper case of a text. -/
def upper (s : List Char) : List Char := s.flatMap upperChar

/-- The first character in title case, the rest in lower case. -/
def capitalize : List Char → List Char
  | [] => []
  | c :: r => titleChar c ++ lowerFrom [c] r

/-- Title case of `s`: a letter that follows a cased one is lower case, any
other is title case. -/
def titleFrom (before : List Char) : List Char → List Char
  | [] => []
  | c :: r =>
    (if (before.head?.map isCased).getD false then lowerAt before c r else titleChar c) ++
      titleFrom (c :: before) r

/-- Title case of a text. -/
def title (s : List Char) : List Char := titleFrom [] s

end TermRef.Unicode
