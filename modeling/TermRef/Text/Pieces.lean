/-
TermRef/Text/Pieces.lean

Texts taken apart, searched and filled up.

A text can be split at a separator, at runs of blanks or at line ends, from either
end and a limited number of times.  Splitting at a separator loses nothing: with the
separator between them the parts make up the text again.
-/
import TermRef.Unicode.Blank

namespace TermRef.Pieces

/-! ### Searching -/

/-- The first place of a part: how many characters precede it. -/
def find? (part : List Char) : List Char → Option Nat
  | [] => if part.isEmpty then some 0 else none
  | c :: r => if part.isPrefixOf (c :: r) then some 0 else (find? part r).map (· + 1)

/-- The last place of a part. -/
def findLast? (part s : List Char) : Option Nat :=
  (find? part.reverse s.reverse).map fun n => s.length - n - part.length

/-- What precedes the first place of a part, and what follows it. -/
def cutAt? (part s : List Char) : Option (List Char × List Char) :=
  (find? part s).map fun n => (s.take n, s.drop (n + part.length))

/-- What precedes the last place of a part, and what follows it. -/
def cutAtLast? (part s : List Char) : Option (List Char × List Char) :=
  (findLast? part s).map fun n => (s.take n, s.drop (n + part.length))

/-! ### Splitting -/

/-- The parts of a text between occurrences of a character. -/
def cut (x : Char) : List Char → List (List Char)
  | [] => [[]]
  | c :: r =>
    if c == x then [] :: cut x r
    else match cut x r with
      | [] => [[c]]
      | w :: ws => (c :: w) :: ws

/-- The parts of a text between separators, of which `limit` count at most.  A
separator has a character, so the length of the text is fuel enough. -/
def splitFrom (sep : List Char) : Nat → Nat → List Char → List (List Char)
  | 0, _, s => [s]
  | _, 0, s => [s]
  | f + 1, limit + 1, s =>
    match cutAt? sep s with
    | some (a, b) => a :: splitFrom sep f limit b
    | none => [s]

/-- A limit on a number of steps; without one a text of some length allows for as
many. -/
def limitFor (s : List Char) (limit : Option Nat) : Nat := limit.getD (s.length + 1)

/-- The parts of a text between separators, found from the left. -/
def split (sep : List Char) (limit : Option Nat) (s : List Char) : List (List Char) :=
  splitFrom sep (s.length + 1) (limitFor s limit) s

/-- The parts of a text between separators, found from the right. -/
def splitRight (sep : List Char) (limit : Option Nat) (s : List Char) : List (List Char) :=
  ((split sep.reverse limit s.reverse).map List.reverse).reverse

/-- The words of a text between blanks; after `limit` of them the rest is one. -/
def wordsFrom : Nat → Nat → List Char → List (List Char)
  | 0, _, _ => []
  | f + 1, limit, s =>
    let s := Unicode.stripLeft s
    if s.isEmpty then []
    else match limit with
      | 0 => [Unicode.stripRight s]
      | n + 1 =>
        let (w, r) := s.span fun c => !Unicode.isBlank c
        w :: wordsFrom f n r

/-- The words of a text, found from the left. -/
def words (limit : Option Nat) (s : List Char) : List (List Char) :=
  wordsFrom (s.length + 1) (limitFor s limit) s

/-- The words of a text, found from the right. -/
def wordsRight (limit : Option Nat) (s : List Char) : List (List Char) :=
  ((words limit s.reverse).map List.reverse).reverse

/-- The characters that end a line. -/
def endsLine (c : Char) : Bool :=
  ('\n' ≤ c && c ≤ '\r') || ('\x1c' ≤ c && c ≤ '\x1e') || c == '\u0085' || c == '\u2028' ||
    c == '\u2029'

/-- The lines of a text, the current one latest character first; line ends may be kept. -/
def linesFrom (keep : Bool) : List Char → List Char → List (List Char)
  | line, [] => if line.isEmpty then [] else [line.reverse]
  | line, '\r' :: '\n' :: r =>
    (if keep then '\n' :: '\r' :: line else line).reverse :: linesFrom keep [] r
  | line, c :: r =>
    if endsLine c then (if keep then c :: line else line).reverse :: linesFrom keep [] r
    else linesFrom keep (c :: line) r

/-- The lines of a text. -/
def lines (keep : Bool) (s : List Char) : List (List Char) := linesFrom keep [] s

/-! ### Joining and replacing -/

/-- Texts with a separator between them. -/
def join (sep : List Char) (xs : List (List Char)) : List Char := sep.intercalate xs

/-- A text with `new` before each of its first characters, as many as `limit` says,
and at its end if it comes that far. -/
def between (new : List Char) : Nat → List Char → List Char
  | 0, s => s
  | _ + 1, [] => new
  | n + 1, c :: r => new ++ c :: between new n r

/-- A text with a part replaced, from the left and a limited number of times.  The
empty part is at every place. -/
def replace (old new : List Char) (limit : Option Nat) (s : List Char) : List Char :=
  if old.isEmpty then between new (limitFor s limit) s
  else join new (split old limit s)

/-- How often a part is in a text without overlapping. -/
def count (part s : List Char) : Nat :=
  if part.isEmpty then s.length + 1 else (split part none s).length - 1

/-! ### Filling up -/

/-- Text filled up on the right to a width. -/
def padRight (fill : Char) (width : Nat) (s : List Char) : List Char :=
  s ++ List.replicate (width - s.length) fill

/-- Text filled up on the left to a width. -/
def padLeft (fill : Char) (width : Nat) (s : List Char) : List Char :=
  List.replicate (width - s.length) fill ++ s

/-- Text filled up on both sides to a width; of an odd number of characters the
larger half goes to the left if the width is odd. -/
def center (fill : Char) (width : Nat) (s : List Char) : List Char :=
  let room := width - s.length
  let left := room / 2 + (if room % 2 = 1 && width % 2 = 1 then 1 else 0)
  List.replicate left fill ++ s ++ List.replicate (room - left) fill

end TermRef.Pieces
