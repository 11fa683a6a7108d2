/-
TermRef/Glossary/Phrases.lean

The further forms of a term.

A term may list phrases, separated by commas, that stand for it as well.  A
phrase can hold a mark for a family of endings, such as the one for a plural;
it then stands for the phrases in which the leftmost mark is replaced by each
ending of its family.  A phrase in which a mark of any kind is left is not used,
and none is used twice.
-/
import TermRef.Text.Pieces

namespace TermRef.Phrases

/-- A family of endings: the mark that stands for it, and the endings. -/
structure Family where
  mark : List Char
  endings : List (List Char)

/-- The families of endings. -/
def families : List Family := [
  ⟨"\x7bss\x7d".toList, ["s".toList]⟩,
  ⟨"\x7byies\x7d".toList, ["ys".toList, "ies".toList]⟩,
  ⟨"\x7bying\x7d".toList, ["ier".toList, "ying".toList, "ies".toList, "ied".toList]⟩]

/-- What follows `lead` in a text that begins with it. -/
def after? (lead s : List Char) : Option (List Char) :=
  if lead.isPrefixOf s then some (s.drop lead.length) else none

/-- The family whose mark a text begins with, and what follows the mark. -/
def familyAt? (s : List Char) : Option (Family × List Char) :=
  families.findSome? fun f => (after? f.mark s).map fun r => (f, r)

/-- The leftmost mark of a text: what precedes it, its family, and what follows. -/
def leftmost? : List Char → Option (List Char × Family × List Char)
  | [] => none
  | c :: r =>
    match familyAt? (c :: r) with
    | some (f, rest) => some ([], f, rest)
    | none => (leftmost? r).map fun (a, f, b) => (c :: a, f, b)

/-- The phrases that a phrase stands for by its leftmost mark. -/
def inflected (s : List Char) : List (List Char) :=
  match leftmost? s with
  | some (a, f, b) => f.endings.map fun e => a ++ e ++ b
  | none => []

/-- A text goes on to a closing brace with no brace before it. -/
def closesNext : List Char → Bool
  | [] => false
  | '\x7d' :: _ => true
  | '\x7b' :: _ => false
  | _ :: r => closesNext r

/-- A text holds a mark: an opening brace and the next brace after it closes. -/
def hasMark : List Char → Bool
  | [] => false
  | c :: r => (c == '\x7b' && closesNext r) || hasMark r

/-- The parts of a text between commas, trimmed, without those that are blank. -/
def parts (s : List Char) : List (List Char) :=
  ((Pieces.cut ',' s).map Unicode.strip).filter fun p => !p.isEmpty

/-- A list without later repetitions of earlier members. -/
def distinct (ps : List (List Char)) : List (List Char) :=
  ps.foldl (fun acc p => if acc.contains p then acc else acc ++ [p]) []

/-- All phrases of a text: those written, then those that marks stand for. -/
def ofChars (s : List Char) : List (List Char) :=
  let written := parts s
  distinct ((written ++ written.flatMap inflected).filter fun p => !hasMark p)

/-- All phrases of a text. -/
def ofText (s : String) : List String := (ofChars s.toList).map String.ofList

end TermRef.Phrases
