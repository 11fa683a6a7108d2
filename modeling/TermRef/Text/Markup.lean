/-
TermRef/Text/Markup.lean

Text inside markup.

The characters that markup is made of are written as references when they stand for
themselves; `unescape` reads references by number and by name.
Taking the tags out of markup leaves the words of its text.
-/
import TermRef.Text.Pieces
import TermRef.Text.Entities

namespace TermRef.Markup

/-! ### Escaping -/

/-- A character as it stands in markup. -/
def escapeChar : Char → List Char
  | '&' => "&amp;".toList
  | '<' => "&lt;".toList
  | '>' => "&gt;".toList
  | '\'' => "&#39;".toList
  | '"' => "&#34;".toList
  | c => [c]

/-- A text as it stands in markup. -/
def escape (s : String) : String := String.ofList (s.toList.flatMap escapeChar)

/-! ### References -/

/-- The value of digits of a base. -/
def numberIn (base : Nat) (ds : List Char) : Nat :=
  ds.foldl (fun n c =>
    let v := if c.isDigit then c.toNat - '0'.toNat else c.toLower.toNat - 'a'.toNat + 10
    n * base + v) 0

/-- The digits of a base at the start of a text. -/
def digitsOf (base : Nat) (s : List Char) : List Char × List Char :=
  s.span fun c => c.isDigit || (base == 16 && 'a' ≤ c.toLower && c.toLower ≤ 'f')

/-- The text without a semicolon at its start. -/
def dropSemicolon : List Char → List Char
  | ';' :: r => r
  | s => s

/-- Characters that numbers from 0x80 on denote. -/
def numbered : List Nat := [
  0x20ac, 0x81, 0x201a, 0x192, 0x201e, 0x2026, 0x2020, 0x2021, 0x2c6, 0x2030, 0x160, 0x2039, 0x152,
  0x8d, 0x17d, 0x8f, 0x90, 0x2018, 0x2019, 0x201c, 0x201d, 0x2022, 0x2013, 0x2014, 0x2dc, 0x2122,
  0x161, 0x203a, 0x153, 0x9d, 0x17e, 0x178]

/-- The number denotes no character that may stand in markup. -/
def isExcluded (n : Nat) : Bool :=
  (1 ≤ n && n ≤ 8) || n == 0xb || (0xe ≤ n && n ≤ 0x1f) || n == 0x7f ||
    (0xfdd0 ≤ n && n ≤ 0xfdef) || n % 0x10000 ≥ 0xfffe

/-- The text that a number denotes. -/
def textOf (n : Nat) : List Char :=
  if n = 0 || 0x10ffff < n || (0xd800 ≤ n && n < 0xe000) then ['\ufffd']
  else if 0x80 ≤ n && n ≤ 0x9f then [Char.ofNat (numbered.getD (n - 0x80) 0)]
  else if isExcluded n then []
  else [Char.ofNat n]

/-- A character of names. -/
def isNameChar (c : Char) : Bool := !"\t\n\x0c <&#;".toList.contains c

/-- The longest part at the start of a name that denotes something, of at least two
characters and at most `n`, and the rest of the name. -/
def longestName? (name : List Char) : Nat → Option (List Char)
  | 0 => none
  | 1 => none
  | n + 1 =>
    match Entities.text? (name.take (n + 1)) with
    | some t => some (t ++ name.drop (n + 1))
    | none => longestName? name n

/-- The reference after an ampersand: the text it denotes, and what follows it.  A name of
which only a part at the start denotes something leaves the rest as it is. -/
def reference? (s : List Char) : Option (List Char × List Char) :=
  match s with
  | '#' :: r =>
    let (base, r) := match r with
      | 'x' :: t => (16, t)
      | 'X' :: t => (16, t)
      | t => (10, t)
    match digitsOf base r with
    | ([], _) => none
    | (ds, rest) => some (textOf (numberIn base ds), dropSemicolon rest)
  | s =>
    let name := (s.take 32).takeWhile isNameChar
    let rest := s.drop name.length
    let (name, rest) := match rest with
      | ';' :: r => (name ++ [';'], r)
      | r => (name, r)
    match Entities.text? name with
    | some t => some (t, rest)
    | none => (longestName? name (name.length - 1)).map fun t => (t, rest)

/-- The text that escaped text stands for; its length is fuel enough. -/
def unescapeFrom : Nat → List Char → List Char
  | 0, _ => []
  | _, [] => []
  | f + 1, '&' :: r =>
    match reference? r with
    | some (t, rest) => t ++ unescapeFrom f rest
    | none => '&' :: unescapeFrom f r
  | f + 1, c :: r => c :: unescapeFrom f r

/-- The text that escaped text stands for. -/
def unescape (s : List Char) : List Char := unescapeFrom (s.length + 1) s

/-! ### Tags -/

/-- Takes out what lies from an opening to the next closing mark, as long as there are
both.  Each time the text gets shorter, so its length is fuel enough. -/
def takeOut (opening closing : List Char) : Nat → List Char → List Char
  | 0, s => s
  | f + 1, s =>
    match Pieces.cutAt? opening s with
    | none => s
    | some (before, inner) =>
      match Pieces.cutAt? closing (opening ++ inner) with
      | none => s
      | some (_, after) => takeOut opening closing f (before ++ after)

/-- The words of markup without its comments and tags. -/
def stripTags (s : List Char) : List Char :=
  let s := takeOut "<!--".toList "-->".toList s.length s
  let s := takeOut ['<'] ['>'] s.length s
  unescape (Pieces.join [' '] (Pieces.words none s))

end TermRef.Markup
