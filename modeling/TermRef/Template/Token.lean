/-
TermRef/Template/Token.lean

The tokens of a template.

Outside of its marks a template is plain text.  `{{ … }}` holds an expression,
`{% … %}` a statement and `{# … #}` a comment.  A minus sign at either end of a mark
removes the blanks outside of that end.  Between the marks of a raw statement all is
plain text.

Inside brackets of an expression the closing mark is not looked for, so an
expression may hold closing braces of its own.
-/
import TermRef.Decimal.Numeral
import TermRef.Unicode.Letter
import TermRef.Unicode.Name
import TermRef.Text.Lines

namespace TermRef.Template

/-- The tokens. -/
inductive Token where
  | data (s : String)
  | printStart
  | printEnd
  | tagStart
  | tagEnd
  | name (s : String)
  | text (s : String)
  | int (n : Int)
  | float (x : Float)
  | sign (s : String)
  deriving Inhabited

/-- The text is no template. -/
inductive Malformed where
  | malformed
  deriving DecidableEq, Repr

/-! ### Pieces of text -/

/-- What follows `lead` in a text that begins with it. -/
def afterLead? (lead : String) (s : List Char) : Option (List Char) :=
  if lead.toList.isPrefixOf s then some (s.drop lead.length) else none

/-- The end of a mark: `close`, or a minus and `close` with the blanks behind, or
a plus and `close` if the mark allows it. -/
def markEnd? (plus : Bool) (close : String) (s : List Char) : Option (List Char) :=
  match s with
  | '-' :: r => (afterLead? close r).map (·.dropWhile Unicode.isBlank)
  | '+' :: r => if plus then afterLead? close r else none
  | _ => afterLead? close s

/-- The sign after the start of a mark, if there is one, and what follows. -/
def markSign (s : List Char) : Bool × List Char :=
  match s with
  | '-' :: r => (true, r)
  | '+' :: r => (false, r)
  | _ => (false, s)

/-- The end of a statement. -/
def tagEnd? : List Char → Option (List Char) := markEnd? true "%\x7d"

/-- The end of an expression. -/
def printEnd? : List Char → Option (List Char) := markEnd? false "\x7d\x7d"

/-- The end of a comment. -/
def commentEnd? : List Char → Option (List Char) := markEnd? true "#\x7d"

/-- The statement of one `word` that begins after its opening mark: whether blanks
before it go, and what follows it. -/
def wordTag? (word : String) (close : List Char → Option (List Char)) (s : List Char) :
    Option (Bool × List Char) :=
  let (strip, r) := markSign s
  match afterLead? word (r.dropWhile Unicode.isBlank) with
  | some r => (close (r.dropWhile Unicode.isBlank)).map fun rest => (strip, rest)
  | none => none

/-- The opening of a raw statement. -/
def rawStart? : List Char → Option (Bool × List Char) :=
  wordTag? "raw" (markEnd? false "%\x7d")

/-- The end of a raw statement. -/
def rawEnd? (s : List Char) : Option (Bool × List Char) :=
  match afterLead? "\x7b%" s with
  | some r => wordTag? "endraw" tagEnd? r
  | none => none

/-- The first place from which `find` finds something: what precedes the place,
latest character first, and what is found. -/
def firstPlace {α : Type} (find : List Char → Option α) : List Char → List Char →
    Option (List Char × α)
  | before, [] => (find []).map fun a => (before, a)
  | before, c :: r =>
    match find (c :: r) with
    | some a => some (before, a)
    | none => firstPlace find (c :: before) r

/-- Plain text, given latest character first; blanks at its end may have to go. -/
def dataToken (strip : Bool) (before : List Char) : List Token :=
  let kept := if strip then before.dropWhile Unicode.isBlank else before
  if kept.isEmpty then [] else [.data (String.ofList kept.reverse)]

/-! ### Numerals and names -/

/-- Digits that satisfy `p`, with single underscores between them if `more` says
that a digit has been read; what is read, latest first, and what follows. -/
def takeDigits (p : Char → Bool) (more : Bool) : List Char → List Char → List Char × List Char
  | done, '_' :: c :: r =>
    if more && p c then takeDigits p true (c :: done) r else (done, '_' :: c :: r)
  | done, c :: r => if p c then takeDigits p true (c :: done) r else (done, c :: r)
  | done, [] => (done, [])

/-- One decimal digit or more, as text. -/
def decimals? (s : List Char) : Option (List Char × List Char) :=
  match takeDigits Unicode.isDecimal false [] s with
  | ([], _) => none
  | (done, r) => some (done.reverse, r)

/-- An exponent, as text. -/
def exponent? : List Char → Option (List Char × List Char)
  | c :: r =>
    if c == 'e' || c == 'E' then
      let (sign, r) := match r with
        | '+' :: r => (['+'], r)
        | '-' :: r => (['-'], r)
        | r => ([], r)
      (decimals? r).map fun (d, rest) => ('e' :: sign ++ d, rest)
    else none
  | [] => none

/-- A point and digits, as text. -/
def fraction? : List Char → Option (List Char × List Char)
  | '.' :: r => (decimals? r).map fun (d, rest) => ('.' :: d, rest)
  | _ => none

/-- A numeral with a point or an exponent. -/
def floatToken? (s : List Char) : Option (Float × List Char) :=
  match decimals? s with
  | none => none
  | some (whole, r) =>
    let (fraction, afterFraction) := (fraction? r).getD ([], r)
    let (exponent, rest) := (exponent? afterFraction).getD ([], afterFraction)
    if fraction.isEmpty && exponent.isEmpty then none
    else (Decimal.readFloat (whole ++ fraction ++ exponent)).map fun x => (x, rest)

/-- A whole number in a base, after the mark for the base. -/
def basedToken? (base : Nat) (s : List Char) : Option (Int × List Char) :=
  let isDigit := fun c => match Decimal.digitValue? c with
    | some v => v < base
    | none => false
  match takeDigits isDigit true [] s with
  | ([], _) => none
  | (done, r) => (Decimal.readInt base done.reverse).map fun n => (n, r)

/-- A whole number. -/
def intToken? (s : List Char) : Option (Int × List Char) :=
  match s with
  | '0' :: c :: r =>
    let base := if c == 'b' || c == 'B' then 2 else if c == 'o' || c == 'O' then 8
      else if c == 'x' || c == 'X' then 16 else 10
    match if base == 10 then none else basedToken? base r with
    | some found => some found
    | none => some (0, (takeDigits (· == '0') true [] (c :: r)).2)
  | ['0'] => some (0, [])
  | c :: r =>
    if '1' ≤ c && c ≤ '9' then
      let (done, rest) := takeDigits Unicode.isDecimal true [c] r
      (Decimal.readInt 10 done.reverse).map fun n => (n, rest)
    else none
  | [] => none

/-- The characters of which names are made. -/
def isNameChar (c : Char) : Bool := Unicode.isWord c || Unicode.isNameContinue c

/-! ### Texts in quotes -/

/-- The character of an escape of one letter. -/
def simpleEscape? : Char → Option Char
  | 'n' => some '\n'
  | 't' => some '\t'
  | 'r' => some '\r'
  | 'a' => some '\x07'
  | 'b' => some '\x08'
  | 'f' => some '\x0c'
  | 'v' => some '\x0b'
  | '\\' => some '\\'
  | '\'' => some '\''
  | '"' => some '"'
  | _ => none

/-- The value of digits of a base. -/
def digitsValue? (base : Nat) (ds : List Char) : Option Nat :=
  ds.foldl (fun acc c => match acc, Decimal.digitValue? c with
    | some n, some v => if v < base && c.toNat < 128 then some (n * base + v) else none
    | _, _ => none) (some 0)

/-- The character written by `width` hexadecimal digits.  Half of a surrogate pair, which is no
character, is read as the null character. -/
def hexEscape? (width : Nat) (s : List Char) : Option (Char × List Char) :=
  let ds := s.take width
  if ds.length < width then none
  else match digitsValue? 16 ds with
    | some n => if n < 0x110000 then some (Char.ofNat n, s.drop width) else none
    | none => none

/-- The octal digits at the start of a text, three at most. -/
def octalDigits (s : List Char) : List Char := (s.take 3).takeWhile fun c => '0' ≤ c && c ≤ '7'

/-- The text that the characters between quotes stand for. -/
def unescape : Nat → List Char → Option (List Char)
  | 0, _ => some []
  | _, [] => some []
  | f + 1, '\\' :: r =>
    match r with
    | [] => none
    | '\n' :: r => unescape f r
    | c :: t =>
      match simpleEscape? c with
      | some d => (unescape f t).map (d :: ·)
      | none =>
        let digits := octalDigits r
        if !digits.isEmpty then
          match digitsValue? 8 digits with
          | some n => (unescape f (r.drop digits.length)).map (Char.ofNat n :: ·)
          | none => none
        else
          let width := if c == 'x' then 2 else if c == 'u' then 4 else if c == 'U' then 8 else 0
          if width = 0 then
            if c == 'N' then none else (unescape f t).map fun s => '\\' :: c :: s
          else match hexEscape? width t with
            | some (d, rest) => (unescape f rest).map (d :: ·)
            | none => none
  | f + 1, c :: r => (unescape f r).map (c :: ·)

/-- What stands before the closing quote `q`, latest character first, and what
follows it. -/
def upToQuote (q : Char) : List Char → List Char → Option (List Char × List Char)
  | _, [] => none
  | done, '\\' :: c :: r => upToQuote q (c :: '\\' :: done) r
  | done, c :: r => if c == q then some (done, r) else upToQuote q (c :: done) r

/-- A text in quotes. -/
def textToken? (q : Char) (s : List Char) : Option (Token × List Char) :=
  match upToQuote q [] s with
  | some (done, rest) =>
    (unescape (done.length + 1) done.reverse).map fun t => (.text (String.ofList t), rest)
  | none => none

/-! ### Tokens of expressions -/

/-- The signs of two characters. -/
def doubleSigns : List String := ["//", "**", "==", "!=", ">=", "<="]

/-- The signs of one character. -/
def singleSigns : List Char := "+-/*%~[]()\x7b\x7d><=.:|,;".toList

/-- A sign. -/
def signToken? (s : List Char) : Option (String × List Char) :=
  match doubleSigns.find? fun d => d.toList.isPrefixOf s with
  | some d => some (d, s.drop 2)
  | none =>
    match s with
    | c :: r => if singleSigns.contains c then some (c.toString, r) else none
    | [] => none

/-- The bracket that closes an opening one. -/
def closer? : String → Option String
  | "(" => some ")"
  | "[" => some "]"
  | "\x7b" => some "\x7d"
  | _ => none

/-- The brackets that are open after a sign; a closing bracket has to fit. -/
def bracketsAfter? (brackets : List String) (sign : String) : Option (List String) :=
  match closer? sign with
  | some c => some (c :: brackets)
  | none =>
    if sign == ")" || sign == "]" || sign == "\x7d" then
      match brackets with
      | b :: r => if b == sign then some r else none
      | [] => none
    else some brackets

/-- A token inside a mark that is no sign; `point` says that a point comes right
before it. -/
def wordToken? (point : Bool) (s : List Char) : Option (Token × List Char) :=
  match if point then none else floatToken? s with
  | some (x, r) => some (.float x, r)
  | none =>
    match intToken? s with
    | some (n, r) => some (.int n, r)
    | none =>
      match s.span isNameChar with
      | ([], c :: r) => if c == '\'' || c == '"' then textToken? c r else none
      | ([], []) => none
      | (w, r) => if Unicode.isName w then some (.name (String.ofList w), r) else none

/-- The tokens from inside a mark that `close` ends up to that end, latest first,
and what follows.  Every step takes a character. -/
def markTokens (close : List Char → Option (List Char)) (last : Token) :
    Nat → List String → Bool → List Token → List Char →
    Except Malformed (List Token × List Char)
  | 0, _, _, done, s => .ok (done, s)
  | _, _, _, done, [] => .ok (done, [])
  | f + 1, brackets, point, done, c :: r =>
    match if brackets.isEmpty then close (c :: r) else none with
    | some rest => .ok (last :: done, rest)
    | none =>
      if Unicode.isBlank c then markTokens close last f brackets false done r
      else match wordToken? point (c :: r) with
        | some (t, rest) => markTokens close last f brackets false (t :: done) rest
        | none =>
          match signToken? (c :: r) with
          | some (sign, rest) =>
            match bracketsAfter? brackets sign with
            | some bs => markTokens close last f bs (sign == ".") (.sign sign :: done) rest
            | none => .error .malformed
          | none => .error .malformed

/-! ### Tokens of a template -/

/-- The openings of marks. -/
inductive Opening where
  | print
  | tag
  | comment
  | raw (rest : List Char)

/-- The mark that a text begins with: whether blanks before it go, what it is, and
what follows its opening. -/
def opening? (s : List Char) : Option (Bool × Opening × List Char) :=
  match s with
  | '\x7b' :: '\x7b' :: r => let (strip, rest) := markSign r; some (strip, .print, rest)
  | '\x7b' :: '#' :: r => let (strip, rest) := markSign r; some (strip, .comment, rest)
  | '\x7b' :: '%' :: r =>
    match rawStart? r with
    | some (strip, rest) => some (strip, .raw rest, rest)
    | none => let (strip, rest) := markSign r; some (strip, .tag, rest)
  | _ => none

/-- What follows a comment. -/
def afterComment (s : List Char) : Except Malformed (List Char) :=
  match firstPlace commentEnd? [] s with
  | some (_, rest) => .ok rest
  | none => if s.isEmpty then .ok [] else .error .malformed

/-- The tokens of a raw statement, and what follows it. -/
def rawTokens (s : List Char) : Except Malformed (List Token × List Char) :=
  match firstPlace rawEnd? [] s with
  | some (before, strip, rest) => .ok (dataToken strip before, rest)
  | none => if s.isEmpty then .ok ([], []) else .error .malformed

/-- The tokens of a template, latest first.  Every mark takes a character. -/
def tokensFrom : Nat → List Token → List Char → Except Malformed (List Token)
  | 0, done, _ => .ok done
  | f + 1, done, s =>
    match firstPlace opening? [] s with
    | none => .ok (dataToken false s.reverse ++ done)
    | some (before, strip, mark, rest) => do
      let done := dataToken strip before ++ done
      match mark with
      | .comment => tokensFrom f done (← afterComment rest)
      | .raw _ =>
        let (ts, rest) ← rawTokens rest
        tokensFrom f (ts ++ done) rest
      | .print =>
        let (done, rest) ← markTokens printEnd? .printEnd (rest.length + 1) [] false
          (.printStart :: done) rest
        tokensFrom f done rest
      | .tag =>
        let (done, rest) ← markTokens tagEnd? .tagEnd (rest.length + 1) [] false
          (.tagStart :: done) rest
        tokensFrom f done rest

/-- The tokens of a template. -/
def Token.ofText (s : List Char) : Except Malformed (List Token) :=
  let s := Lines.unifyEnds s
  (tokensFrom (s.length + 1) [] s).map List.reverse

end TermRef.Template
