/-
TermRef/Template/Address.lean

Addresses in a text, made links of markup.

Every word of the text is looked at on its own, once its characters have been escaped.
Brackets before it and marks after it do not belong to the address, but a closing
bracket does as long as its opening one is inside.  What is left is an address of the
web, of mail, or of one of the schemes asked for, or else no address.
-/
import TermRef.Text.Pieces
import TermRef.Pattern.Reader
import TermRef.Pattern.Walk

namespace TermRef.Template.Address

/-! ### What an address is -/

/-- The pattern in a text, under some flags; a text that is no pattern matches nothing. -/
def patternOf (f : Pattern.Flags) (s : String) : Option Pattern :=
  (Pattern.readWhole f s.toList).toOption

/-- The words start with an address that the pattern describes. -/
def isLike (p : Option Pattern) (s : List Char) : Bool :=
  match p with
  | some p => (p.matchAt? (.ofText s)).isSome
  | none => false

/-- The pattern of addresses of the web: a host with a scheme or under a common domain,
and what may follow it. -/
def webSource : String :=
  "^((https?://|www\\.)(([\\w%-]+\\.)+)?([a-z]\x7b2,63\x7d|xn--[\\w%]\x7b2,59\x7d)" ++
  "|([\\w%-]\x7b2,63\x7d\\.)+(com|net|int|edu|gov|org|info|mil)" ++
  "|(https?://)((([\\d]\x7b1,3\x7d)(\\.[\\d]\x7b1,3\x7d)\x7b3\x7d)" ++
  "|(\\[([\\da-f]\x7b0,4\x7d:)\x7b2\x7d([\\da-f]\x7b0,4\x7d:?)\x7b1,6\x7d])))" ++
  "(?::[\\d]\x7b1,5\x7d)?(?:[/?#]\\S*)?$"

/-- An address of the web. -/
def isWeb (s : List Char) : Bool := isLike (patternOf { caseless := true } webSource) s

/-- An address of mail. -/
def isMail (s : List Char) : Bool := isLike (patternOf {} "^\\S+@\\w[\\w.-]*\\.\\w+$") s

/-- A scheme with its colon, and slashes at most two. -/
def isScheme (s : List Char) : Bool :=
  isLike (patternOf {} "^([\\w.+-]\x7b2,\x7d:(/)\x7b0,2\x7d)\\Z") s

/-! ### What surrounds it -/

/-- The opening marks at the start of a word, and what follows them. -/
def openings : List Char → List Char × List Char
  | '(' :: r => let (a, b) := openings r; ('(' :: a, b)
  | '<' :: r => let (a, b) := openings r; ('<' :: a, b)
  | '&' :: 'l' :: 't' :: ';' :: r => let (a, b) := openings r; ('&' :: 'l' :: 't' :: ';' :: a, b)
  | s => ([], s)

/-- The closing marks at the end of a word that is read backwards, and what precedes
them. -/
def closings : List Char → List Char × List Char
  | ';' :: 't' :: 'g' :: '&' :: r => let (a, b) := closings r; (';' :: 't' :: 'g' :: '&' :: a, b)
  | c :: r =>
    if c == ')' || c == '>' || c == '.' || c == ',' || c == '\n' then
      let (a, b) := closings r; (c :: a, b)
    else ([], c :: r)
  | [] => ([], [])

/-- A word with as many closing marks taken back from behind it as it has opening ones,
one mark after the other. -/
def takeBack (closing : List Char) : Nat → List Char × List Char → List Char × List Char
  | 0, p => p
  | n + 1, (word, behind) =>
    match Pieces.cutAt? closing behind with
    | some (a, b) => takeBack closing n (word ++ a ++ closing, b)
    | none => (word, behind)

/-- A word and what is behind it, with a pair of marks balanced as far as that goes. -/
def balance (p : List Char × List Char) (marks : String × String) : List Char × List Char :=
  let opened := Pieces.count marks.1.toList p.1
  if opened ≤ Pieces.count marks.2.toList p.1 then p
  else takeBack marks.2.toList opened p

/-- The pairs of marks. -/
def markPairs : List (String × String) := [("(", ")"), ("<", ">"), ("&lt;", "&gt;")]

/-! ### Links -/

/-- How links are made. -/
structure Options where
  /-- The number of characters of an address that are shown. -/
  limit : Option Nat := none
  /-- Attributes of links, in writing. -/
  attributes : List Char := []
  /-- Schemes of further addresses. -/
  schemes : List (List Char) := []

namespace Options

/-- What is shown of an address. -/
def shown (o : Options) (s : List Char) : List Char :=
  match o.limit with
  | some n => if n < s.length then s.take n ++ "...".toList else s
  | none => s

/-- A link with attributes, which shows some text. -/
def link (attributes address text : List Char) : List Char :=
  "<a href=\"".toList ++ address ++ '"' :: attributes ++ '>' :: text ++ "</a>".toList

/-- A word made a link if it is an address. -/
def linked (o : Options) (s : List Char) : List Char :=
  let starts := fun (lead : String) => lead.toList.isPrefixOf s
  if isWeb s then
    let address := if starts "https://" || starts "http://" then s else "https://".toList ++ s
    link o.attributes address (o.shown s)
  else if starts "mailto:" && isMail (s.drop 7) then link [] s (s.drop 7)
  else if s.contains '@' && !starts "www." && !starts "@" && !s.contains ':' && isMail s then
    link [] ("mailto:".toList ++ s) s
  else
    o.schemes.foldl (fun s scheme =>
      if s != scheme && scheme.isPrefixOf s then link o.attributes s s else s) s

/-- A word with the address in it made a link. -/
def word (o : Options) (s : List Char) : List Char :=
  let (head, rest) := openings s
  let (behind, before) := closings rest.reverse
  let (address, behind) := markPairs.foldl balance (before.reverse, behind.reverse)
  head ++ o.linked address ++ behind

/-- A text with the addresses in it made links.  `word` are the characters of the current
word, the latest first. -/
def textFrom (o : Options) (current : List Char) : List Char → List Char
  | [] => if current.isEmpty then [] else o.word current.reverse
  | c :: r =>
    if Unicode.isBlank c then
      (if current.isEmpty then [] else o.word current.reverse) ++ c :: textFrom o [] r
    else textFrom o (c :: current) r

/-- A text with the addresses in it made links. -/
def text (o : Options) (s : List Char) : List Char := textFrom o [] s

end Options

end TermRef.Template.Address
