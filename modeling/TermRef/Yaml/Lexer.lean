/-
TermRef/Yaml/Lexer.lean

From the text of a document to its tokens.

The lexer keeps the stack of block indentations, the depth of brackets, and for
every depth the place where a key may have begun.  A key is known by the colon
after it: only then its token, and the start of a block mapping if the key
opens one, are put in front of the tokens read since.  Such a key ends on the
line it begins on and within 1024 characters; one that must be a key, because
it stands at the indentation of a block mapping, is a fault if it does not.
-/
import TermRef.Yaml.Scalar
import TermRef.Text.Utf8

namespace TermRef.Yaml

/-- Where a key may have begun: the number of tokens before it, whether it must
be a key, and its place. -/
structure KeyStart where
  tokens : Nat
  required : Bool
  index : Nat
  line : Nat
  column : Nat
  deriving DecidableEq, Repr

/-- The state of the lexer. -/
structure Lexer where
  place : Place
  /-- The tokens read, latest first, and their number. -/
  tokens : List Token := []
  count : Nat := 0
  /-- The depth of brackets. -/
  depth : Nat := 0
  /-- Block indentations, innermost first; outside all of them it is -1. -/
  indents : List Int := []
  /-- A key may begin here. -/
  allowKey : Bool := true
  /-- Where keys may have begun, by depth. -/
  keys : List (Nat × KeyStart) := []

namespace Lexer

/-- A step of the lexer. -/
abbrev Step := Lexer → Except Fault Lexer

/-- The innermost block indentation. -/
def indent (l : Lexer) : Int := l.indents.headD (-1)

/-- One more token. -/
def push (l : Lexer) (t : Token) : Lexer :=
  { l with tokens := t :: l.tokens, count := l.count + 1 }

/-- One more token, put after the first `n`. -/
def insert (l : Lexer) (n : Nat) (t : Token) : Lexer :=
  let later := l.count - n
  { l with tokens := l.tokens.take later ++ t :: l.tokens.drop later, count := l.count + 1 }

/-- The lexer at another place. -/
def moveTo (l : Lexer) (p : Place) : Lexer := { l with place := p }

/-! ### Indentation -/

/-- Ends the blocks that are indented deeper than `column`. -/
def unwindTo (column : Int) : List Int → Lexer → Lexer
  | [], l => { l with indents := [] }
  | i :: r, l =>
    if column < i then unwindTo column r (l.push .blockEnd) else { l with indents := i :: r }

/-- Ends the blocks that are indented deeper than `column`; inside brackets
indentation has no meaning. -/
def unwind (column : Int) (l : Lexer) : Lexer :=
  if l.depth = 0 then unwindTo column l.indents l else l

/-- A block at `column` begins if it is deeper than the innermost one. -/
def addIndent (column : Nat) (l : Lexer) : Option Lexer :=
  if l.indent < column then some { l with indents := (column : Int) :: l.indents } else none

/-! ### Keys -/

/-- Where a key may have begun at the present depth. -/
def keyHere? (l : Lexer) : Option KeyStart :=
  (l.keys.find? fun k => k.1 == l.depth).map (·.2)

/-- The lexer with no key begun at the present depth. -/
def dropKey (l : Lexer) : Lexer := { l with keys := l.keys.filter fun k => k.1 != l.depth }

/-- Gives up the key begun at the present depth. -/
def removeKey (l : Lexer) : Except Fault Lexer :=
  match l.keyHere? with
  | some k => if k.required then .error .malformed else .ok l.dropKey
  | none => .ok l

/-- A key that may have begun can no longer end. -/
def isStale (l : Lexer) (k : KeyStart) : Bool :=
  k.line != l.place.line || k.index + 1024 < l.place.index

/-- Gives up all keys that can no longer end. -/
def dropStale (l : Lexer) : Except Fault Lexer :=
  if l.keys.any fun k => l.isStale k.2 && k.2.required then .error .malformed
  else .ok { l with keys := l.keys.filter fun k => !l.isStale k.2 }

/-- A key may begin here. -/
def saveKey (l : Lexer) : Except Fault Lexer :=
  if l.allowKey then do
    let required := l.depth == 0 && l.indent == (l.place.column : Int)
    let l ← l.removeKey
    let p := l.place
    pure { l with keys := (l.depth, ⟨l.count, required, p.index, p.line, p.column⟩) :: l.keys }
  else .ok l

/-! ### Blanks and comments -/

/-- Passes over blanks, comments and line breaks.  A key may begin on a new line
outside brackets. -/
def skipBlank : Nat → Lexer → Lexer
  | 0, l => l
  | fuel + 1, l =>
    let p := l.place.dropWhile (· == ' ')
    let q := if p.head == '#' then p.dropWhile fun c => !isBreakOrEnd c else p
    match q.lineBreak? with
    | some (_, r) =>
      skipBlank fuel { l with place := r, allowKey := l.allowKey || l.depth == 0 }
    | none => l.moveTo q

/-- Passes over a byte order mark at the start of the text. -/
def skipMark (l : Lexer) : Lexer :=
  if l.place.index == 0 && l.place.head == '\ufeff' then l.moveTo l.place.step else l

/-! ### Directives -/

/-- Digits, at least one. -/
def number (p : Place) : Except Fault (Nat × Place) :=
  match p.takeWhile Char.isDigit with
  | ([], _) => .error .malformed
  | (ds, q) => .ok (ds.foldl (fun n c => n * 10 + (c.toNat - '0'.toNat)) 0, q)

/-- A tag handle: an exclamation mark, alone or with another after a name. -/
def tagHandle (p : Place) : Except Fault (List Char × Place) :=
  if p.head != '!' then .error .malformed
  else
    let q := p.step
    if q.head == ' ' then .ok (['!'], q)
    else
      let (name, r) := q.takeWhile isNameChar
      if r.head == '!' then .ok ('!' :: name ++ ['!'], r.step)
      else .error .malformed

/-- Characters of tags, apart from escapes. -/
def isTagChar (c : Char) : Bool :=
  c.isAlphanum || "-;/?:@&=+$,_.!~*'()[]".toList.contains c

/-- Bytes escaped by percent signs. -/
def escapedBytes : Nat → List UInt8 → Scan (List UInt8)
  | 0, done, p => .ok (done.reverse, p)
  | fuel + 1, done, p =>
    if p.head == '%' then
      match hexNumber? (p.rest.drop 1 |>.take 2) with
      | some n =>
        if (p.rest.drop 1 |>.take 2).length < 2 then .error .malformed
        else escapedBytes fuel (n.toUInt8 :: done) (p.skip 3)
      | none => .error .malformed
    else .ok (done.reverse, p)

/-- The text of a tag, in pieces, latest first. -/
def tagText : Nat → List (List Char) → Scan (List (List Char))
  | 0, done, p => .ok (done, p)
  | fuel + 1, done, p =>
    let (cs, q) := p.takeWhile isTagChar
    let done := if cs.isEmpty then done else cs :: done
    if q.head == '%' then
      match escapedBytes (q.rest.length + 1) [] q with
      | .ok (bytes, r) => match Utf8.decode bytes with
        | .ok s => tagText fuel (s :: done) r
        | .error _ => .error .malformed
      | .error e => .error e
    else .ok (done, q)

/-- The text of a tag, which may not be empty. -/
def tagRest (p : Place) : Except Fault (List Char × Place) := do
  let (done, q) ← tagText (p.rest.length + 1) [] p
  if done.isEmpty then throw .malformed
  pure (done.reverse.flatten, q)

/-- A place where a word of a directive has to end. -/
def wordEnd (p : Place) : Except Fault Unit :=
  if isSpaceOrEnd p.head then .ok () else .error .malformed

/-- A directive from its percent sign on. -/
def directive (p : Place) : Except Fault (Directive × Place) := do
  let (name, q) := p.step.takeWhile isNameChar
  if name.isEmpty then throw .malformed
  wordEnd q
  if name == "YAML".toList then
    let (major, r) ← number (q.dropWhile (· == ' '))
    if r.head != '.' then throw .malformed
    let (minor, s) ← number r.step
    wordEnd s
    pure (.version major minor, ← restOfLine s)
  else if name == "TAG".toList then
    let (handle, r) ← tagHandle (q.dropWhile (· == ' '))
    if r.head != ' ' then throw .malformed
    let (lead, s) ← tagRest (r.dropWhile (· == ' '))
    wordEnd s
    pure (.tag (String.ofList handle) (String.ofList lead), ← restOfLine s)
  else pure (.other, ← restOfLine (q.dropWhile fun c => !isBreakOrEnd c))

/-! ### Anchors and tags -/

/-- The name of an anchor or an alias, from its mark on. -/
def anchorName (p : Place) : Except Fault (String × Place) :=
  let (name, q) := p.step.takeWhile isNameChar
  let c := q.head
  if name.isEmpty then .error .malformed
  else if isGap c || "?:,]\x7d%@\x60".toList.contains c then .ok (String.ofList name, q)
  else .error .malformed

/-- An exclamation mark stands before the next blank. -/
def hasHandle (s : List Char) : Bool :=
  (s.takeWhile fun c => !isSpaceOrEnd c).contains '!'

/-- A tag from its exclamation mark on. -/
def tag (p : Place) : Except Fault (Token × Place) := do
  let c := p.ahead 1
  let (handle, rest, q) ←
    if c == '<' then do
      let (s, q) ← tagRest (p.skip 2)
      if q.head != '>' then throw .malformed
      pure (none, s, q.step)
    else if isGap c then pure (none, ['!'], p.step)
    else if hasHandle (p.rest.drop 1) then do
      let (h, q) ← tagHandle p
      let (s, r) ← tagRest q
      pure (some (String.ofList h), s, r)
    else do
      let (s, r) ← tagRest p.step
      pure (some "!", s, r)
  wordEnd q
  pure (.tag handle (String.ofList rest), q)

/-! ### One token -/

/-- A token that takes one character and after which a key may or may not begin. -/
def mark (t : Token) (allowKey : Bool) (l : Lexer) : Lexer :=
  { l.push t with place := l.place.step, allowKey }

/-- The token of a document marker. -/
def documentMark (t : Token) : Step := fun l => do
  let l ← (l.unwind (-1)).removeKey
  pure { l.push t with place := l.place.skip 3, allowKey := false }

/-- The end of the text. -/
def finish : Step := fun l => do
  let l ← (l.unwind (-1)).removeKey
  pure { l.push .streamEnd with allowKey := false, keys := [] }

/-- An opening bracket. -/
def openBracket (t : Token) : Step := fun l => do
  let l ← l.saveKey
  pure ({ l with depth := l.depth + 1 }.mark t true)

/-- A closing bracket. -/
def closeBracket (t : Token) : Step := fun l => do
  if l.depth = 0 then throw .malformed
  let l ← l.removeKey
  pure ({ l with depth := l.depth - 1 }.mark t false)

/-- A comma. -/
def comma : Step := fun l => do
  let l ← l.removeKey
  pure (l.mark .flowEntry true)

/-- A block starts at the present column, if it is a new one. -/
def startBlock (t : Token) (l : Lexer) : Except Fault Lexer :=
  if l.depth = 0 then
    if l.allowKey then
      match l.addIndent l.place.column with
      | some m => .ok (m.push t)
      | none => .ok l
    else .error .malformed
  else .ok l

/-- A hyphen that introduces an entry. -/
def hyphen : Step := fun l => do
  let l ← l.startBlock .blockSequenceStart
  let l ← l.removeKey
  pure (l.mark .blockEntry true)

/-- A question mark that introduces a key. -/
def question : Step := fun l => do
  let l ← l.startBlock .blockMappingStart
  let l ← l.removeKey
  pure (l.mark .key (l.depth == 0))

/-- A colon: what began before it may turn out to be a key. -/
def colon : Step := fun l => do
  match l.keyHere? with
  | some k =>
    let l := l.dropKey.insert k.tokens .key
    let l := if l.depth = 0 then
        match l.addIndent k.column with
        | some m => m.insert k.tokens .blockMappingStart
        | none => l
      else l
    pure (l.mark .value false)
  | none =>
    let l ← l.startBlock .blockMappingStart
    let l ← l.removeKey
    pure (l.mark .value (l.depth == 0))

/-- A token read by a reader of its own, before which a key may begin. -/
def keyed (read : Place → Except Fault (Token × Place)) : Step := fun l => do
  let l ← l.saveKey
  let (t, p) ← read l.place
  pure { l.push t with place := p, allowKey := false }

/-- A quoted scalar. -/
def quoted (double : Bool) : Step := keyed fun p => do
  let (s, q) ← quotedScalar double p
  pure (.scalar (String.ofList s) false, q)

/-- A plain scalar; after one that ends in a line break a key may begin. -/
def plain : Step := fun l => do
  let l ← l.saveKey
  let (done, fresh, p) :=
    plainFrom (l.depth != 0) (l.indent + 1) (l.place.rest.length + 1) [] false [] l.place
  pure { l.push (.scalar (String.ofList done.reverse.flatten) true) with
    place := p, allowKey := fresh }

/-- A block scalar. -/
def block (folded : Bool) : Step := fun l => do
  let l ← l.removeKey
  let (s, p) ← blockScalar folded l.indent l.place
  pure { l.push (.scalar (String.ofList s) false) with place := p, allowKey := true }

/-- Characters that a plain scalar cannot begin with. -/
def isIndicator (c : Char) : Bool :=
  isGap c || "-?:,[]\x7b\x7d#&*!|>'\"%@\x60".toList.contains c

/-- A plain scalar may begin here. -/
def startsPlain (l : Lexer) : Bool :=
  let c := l.place.head
  !isIndicator c ||
    (!isGap (l.place.ahead 1) && (c == '-' || (l.depth == 0 && (c == '?' || c == ':'))))

/-- Reads the next token, at a place that is no blank. -/
def token : Step := fun l =>
  let p := l.place
  let c := p.head
  let gap := isGap (p.ahead 1)
  let inFlow := l.depth != 0
  if p.rest.isEmpty then l.finish
  else if c == '%' && p.column == 0 then do
    let l ← (l.unwind (-1)).removeKey
    let (d, q) ← directive p
    pure { l.push (.directive d) with place := q, allowKey := false }
  else if p.column == 0 && p.isMarker '-' then l.documentMark .documentStart
  else if p.column == 0 && p.isMarker '.' then l.documentMark .documentEnd
  else if c == '[' then l.openBracket .flowSequenceStart
  else if c == '\x7b' then l.openBracket .flowMappingStart
  else if c == ']' then l.closeBracket .flowSequenceEnd
  else if c == '\x7d' then l.closeBracket .flowMappingEnd
  else if c == ',' then l.comma
  else if c == '-' && gap then l.hyphen
  else if c == '?' && (inFlow || gap) then l.question
  else if c == ':' && (inFlow || gap) then l.colon
  else if c == '*' then l.keyed fun p => do
    let (name, q) ← anchorName p
    pure (.alias name, q)
  else if c == '&' then l.keyed fun p => do
    let (name, q) ← anchorName p
    pure (.anchor name, q)
  else if c == '!' then l.keyed tag
  else if c == '|' && !inFlow then l.block false
  else if c == '>' && !inFlow then l.block true
  else if c == '\'' then l.quoted false
  else if c == '"' then l.quoted true
  else if l.startsPlain then l.plain
  else .error .malformed

/-- Reads tokens until the text ends.  Every token but the last takes a character. -/
def run : Nat → Lexer → Except Fault (List Token)
  | 0, _ => .error .malformed
  | fuel + 1, l => do
    let l ← (l.skipMark.skipBlank (l.place.rest.length + 1)).dropStale
    let l ← token (l.unwind l.place.column)
    if l.tokens.head? = some .streamEnd then pure l.tokens.reverse
    else run fuel l

end Lexer

/-- The tokens of a text. -/
def Token.ofText (s : List Char) : Except Fault (List Token) :=
  if s.all isAllowed then Lexer.run (s.length + 2) { place := { rest := s } }
  else .error .malformed

end TermRef.Yaml
