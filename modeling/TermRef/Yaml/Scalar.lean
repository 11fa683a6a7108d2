/-
TermRef/Yaml/Scalar.lean

Reading scalars: quoted, plain and block.

Each reader starts at a place and gives the characters of the scalar and the
place after it.  Inside a scalar a single line break counts as a space, and
further breaks count as they are; a block scalar in literal style keeps every
break.
-/
import TermRef.Yaml.Token
import TermRef.Yaml.Place

namespace TermRef.Yaml

/-- A reader from a place. -/
abbrev Scan (α : Type) := Place → Except Fault (α × Place)

/-- The text that a line break followed by further breaks counts as. -/
def foldBreaks (first : Char) (more : List Char) : List Char :=
  (if first != '\n' then [first] else if more.isEmpty then [' '] else []) ++ more

/-! ### Quoted scalars -/

/-- Line breaks with blanks about them, latest first.  A document marker may not
stand among them. -/
def quotedBreaks : Nat → List Char → Scan (List Char)
  | 0, done, p => .ok (done.reverse, p)
  | fuel + 1, done, p =>
    if p.isAnyMarker then .error .malformed
    else
      let q := p.dropWhile isSpaceOrTab
      match q.lineBreak? with
      | some (c, r) => quotedBreaks fuel (c :: done) r
      | none => .ok (done.reverse, q)

/-- The space between the words of a quoted scalar. -/
def quotedSpaces (p : Place) : Except Fault (List Char × Place) :=
  let (blanks, q) := p.takeWhile isSpaceOrTab
  if q.rest.isEmpty then .error .malformed
  else match q.lineBreak? with
    | some (c, r) => do
      let (more, s) ← quotedBreaks (r.rest.length + 1) [] r
      pure (foldBreaks c more, s)
    | none => .ok (blanks, q)

/-- The characters that escapes in double quotes stand for. -/
def escapeChar? (c : Char) : Option Char :=
  match c with
  | '0' => some '\x00'
  | 'a' => some '\x07'
  | 'b' => some '\x08'
  | 't' => some '\t'
  | '\t' => some '\t'
  | 'n' => some '\n'
  | 'v' => some '\x0b'
  | 'f' => some '\x0c'
  | 'r' => some '\r'
  | 'e' => some '\x1b'
  | ' ' => some ' '
  | '"' => some '"'
  | '\\' => some '\\'
  | '/' => some '/'
  | 'N' => some '\u0085'
  | '_' => some '\u00a0'
  | 'L' => some '\u2028'
  | 'P' => some '\u2029'
  | _ => none

/-- The number of hexadecimal digits after an escape. -/
def escapeWidth? (c : Char) : Option Nat :=
  match c with
  | 'x' => some 2
  | 'u' => some 4
  | 'U' => some 8
  | _ => none

/-- The value of a hexadecimal digit. -/
def hexValue? (c : Char) : Option Nat :=
  if c.isDigit then some (c.toNat - '0'.toNat)
  else if 'a' ≤ c && c ≤ 'f' then some (c.toNat - 'a'.toNat + 10)
  else if 'A' ≤ c && c ≤ 'F' then some (c.toNat - 'A'.toNat + 10)
  else none

/-- The value of hexadecimal digits. -/
def hexNumber? (cs : List Char) : Option Nat :=
  cs.foldl (fun acc c => match acc, hexValue? c with
    | some n, some v => some (n * 16 + v)
    | _, _ => none) (some 0)

/-- The character of a numbered escape with `width` digits.  Half of a surrogate pair is no
character, whether or not the other half follows. -/
def numberedEscape (width : Nat) (p : Place) : Except Fault (List Char × Place) :=
  let cs := p.rest.take width
  match hexNumber? cs with
  | none => .error .malformed
  | some n =>
    if cs.length < width then .error .malformed
    else if n ≥ 0x110000 then .error (.codePoint (n ≥ Nat.pow 2 31))
    else if n < 0xd800 || 0xe000 ≤ n then .ok ([Char.ofNat n], p.skip width)
    else .error .halfPair

/-- The characters that stand for themselves in a quoted scalar. -/
def isQuotedPlain (c : Char) : Bool :=
  !(c == '\'' || c == '"' || c == '\\' || isGap c)

/-- What an escape stands for, from the place after the backslash. -/
def escapeAt (p : Place) : Except Fault (List Char × Place) :=
  match escapeChar? p.head with
  | some c => .ok ([c], p.step)
  | none =>
    match escapeWidth? p.head with
    | some width => numberedEscape width p.step
    | none =>
      match p.lineBreak? with
      | some (_, q) => quotedBreaks (q.rest.length + 1) [] q
      | none => .error .malformed

/-- The words of a quoted scalar up to a blank or the closing quote, given in
pieces, latest first. -/
def quotedWords (double : Bool) : Nat → List (List Char) → Scan (List (List Char))
  | 0, done, p => .ok (done, p)
  | fuel + 1, done, p =>
    let (word, q) := p.takeWhile isQuotedPlain
    let done := if word.isEmpty then done else word :: done
    let c := q.head
    if !double && c == '\'' && q.ahead 1 == '\'' then
      quotedWords double fuel (['\''] :: done) (q.skip 2)
    else if (double && c == '\'') || (!double && (c == '"' || c == '\\')) then
      quotedWords double fuel ([c] :: done) q.step
    else if double && c == '\\' then
      match escapeAt q.step with
      | .ok (cs, r) => quotedWords double fuel (cs :: done) r
      | .error e => .error e
    else .ok (done, q)

/-- The rest of a quoted scalar up to its closing quote, in pieces. -/
def quotedRest (double : Bool) : Nat → List (List Char) → Scan (List (List Char))
  | 0, _, _ => .error .malformed
  | fuel + 1, done, p => do
    if p.head == (if double then '"' else '\'') then pure (done, p.step)
    else
      let (space, q) ← quotedSpaces p
      let (done, r) ← quotedWords double (q.rest.length + 1) (space :: done) q
      quotedRest double fuel done r

/-- A quoted scalar, from its opening quote on. -/
def quotedScalar (double : Bool) (p : Place) : Except Fault (List Char × Place) := do
  let q := p.step
  let (done, r) ← quotedWords double (q.rest.length + 1) [] q
  let (done, s) ← quotedRest double (r.rest.length + 1) done r
  pure (done.reverse.flatten, s)

/-! ### Plain scalars -/

/-- Characters that mean something inside brackets. -/
def isFlowMark (c : Char) : Bool :=
  c == ',' || c == '[' || c == ']' || c == '\x7b' || c == '\x7d'

/-- The characters of a plain word from a text on: up to a blank, up to a colon
that a blank follows, and inside brackets up to a character that means something
there. -/
def plainWord (flow : Bool) : List Char → List Char
  | [] => []
  | c :: r =>
    let next := r.headD endMark
    if isGap c || (c == ':' && (isGap next || (flow && isFlowMark next))) ||
        (flow && (c == '?' || isFlowMark c)) then []
    else c :: plainWord flow r

/-- Line breaks and spaces between the lines of a plain scalar: the breaks, latest
first, or nothing if a document marker stands there. -/
def plainBreaks : Nat → List Char → Place → Option (List Char) × Place
  | 0, done, p => (some done.reverse, p)
  | fuel + 1, done, p =>
    if p.head == ' ' then plainBreaks fuel done p.step
    else match p.lineBreak? with
      | some (c, q) =>
        if q.isAnyMarker then (none, q) else plainBreaks fuel (c :: done) q
      | none => (some done.reverse, p)

/-- The space after a word of a plain scalar, and whether it holds a line break. -/
def plainSpaces (p : Place) : List Char × Bool × Place :=
  let (blanks, q) := p.takeWhile (· == ' ')
  match q.lineBreak? with
  | some (c, r) =>
    if r.isAnyMarker then ([], true, r)
    else match plainBreaks (r.rest.length + 1) [] r with
      | (some more, s) => (foldBreaks c more, true, s)
      | (none, s) => ([], true, s)
  | none => (blanks, false, q)

/-- A plain scalar at indentation `indent`, in pieces, latest first; `space` is
what precedes the next word.  `fresh` says whether the scalar so far ends in a
line break, after which a key may begin. -/
def plainFrom (flow : Bool) (indent : Int) :
    Nat → List Char → Bool → List (List Char) → Place → List (List Char) × Bool × Place
  | 0, _, fresh, done, p => (done, fresh, p)
  | fuel + 1, space, fresh, done, p =>
    if p.head == '#' then (done, fresh, p)
    else
      let word := plainWord flow p.rest
      if word.isEmpty then (done, fresh, p)
      else
        let (next, broken, q) := plainSpaces (p.skip word.length)
        let done := word :: space :: done
        if next.isEmpty || q.head == '#' || (!flow && (q.column : Int) < indent) then
          (done, broken, q)
        else plainFrom flow indent fuel next broken done q

/-! ### Block scalars -/

/-- What happens to the line breaks at the end of a block scalar. -/
inductive Chomp where
  | clip
  | strip
  | keep
  deriving DecidableEq, Repr

/-- The header of a block scalar: what happens at its end, and its indentation if
that is given. -/
def blockHeader (p : Place) : Except Fault ((Chomp × Option Nat) × Place) := do
  let chomp? : Char → Option Chomp := fun c =>
    if c == '+' then some .keep else if c == '-' then some .strip else none
  let digit? : Char → Option Nat := fun c =>
    if c.isDigit then some (c.toNat - '0'.toNat) else none
  let (chomp, width, q) := match chomp? p.head with
    | some c => match digit? p.step.head with
      | some n => (c, some n, p.skip 2)
      | none => (c, none, p.step)
    | none => match digit? p.head with
      | some n => match chomp? p.step.head with
        | some c => (c, some n, p.skip 2)
        | none => (.clip, some n, p.step)
      | none => (.clip, none, p)
  if width = some 0 then throw .malformed
  if !isSpaceOrEnd q.head then throw .malformed
  pure ((chomp, width), q)

/-- Passes over blanks and a comment up to the end of the line. -/
def restOfLine (p : Place) : Except Fault Place :=
  let q := p.dropWhile (· == ' ')
  let r := if q.head == '#' then q.dropWhile fun c => !isBreakOrEnd c else q
  if isBreakOrEnd r.head then
    .ok (match r.lineBreak? with
      | some (_, s) => s
      | none => r)
  else .error .malformed

/-- Empty lines before the first line of a block scalar: their breaks, latest
first, and the widest indentation among them. -/
def blockIndent : Nat → List Char → Nat → Place → List Char × Nat × Place
  | 0, done, widest, p => (done.reverse, widest, p)
  | fuel + 1, done, widest, p =>
    if p.head == ' ' then
      let q := p.step
      blockIndent fuel done (max widest q.column) q
    else match p.lineBreak? with
      | some (c, q) => blockIndent fuel (c :: done) widest q
      | none => (done.reverse, widest, p)

/-- Spaces up to a column. -/
def spacesUpTo (indent : Nat) : Nat → Place → Place
  | 0, p => p
  | fuel + 1, p =>
    if p.column < indent && p.head == ' ' then spacesUpTo indent fuel p.step else p

/-- Empty lines of a block scalar: their breaks, latest first. -/
def blockBreaks (indent : Nat) : Nat → List Char → Place → List Char × Place
  | 0, done, p => (done.reverse, p)
  | fuel + 1, done, p =>
    let q := spacesUpTo indent indent p
    match q.lineBreak? with
    | some (c, r) => blockBreaks indent fuel (c :: done) r
    | none => (done.reverse, q)

/-- The lines of a block scalar, in pieces, latest first; `breaks` are the empty
lines before the next one. -/
def blockLines (folded : Bool) (indent : Nat) :
    Nat → List Char → List (List Char) → Place →
      List (List Char) × List Char × List Char × Place
  | 0, breaks, done, p => (done, [], breaks, p)
  | fuel + 1, breaks, done, p =>
    let flush := !isSpaceOrTab p.head
    let (line, q) := p.takeWhile fun c => !isBreakOrEnd c
    let (ending, r) := match q.lineBreak? with
      | some (c, r) => ([c], r)
      | none => ([], q)
    let (more, s) := blockBreaks indent (r.rest.length + 1) [] r
    let done := line :: breaks :: done
    if s.column == indent && !s.rest.isEmpty then
      let joint :=
        if folded && ending == ['\n'] && flush && !isSpaceOrTab s.head then
          (if more.isEmpty then [' '] else [])
        else ending
      blockLines folded indent fuel more (joint :: done) s
    else (done, ending, more, s)

/-- A block scalar from its mark on, under the indentation `outer`. -/
def blockScalar (folded : Bool) (outer : Int) (p : Place) :
    Except Fault (List Char × Place) := do
  let ((chomp, width), q) ← blockHeader p.step
  let r ← restOfLine q
  let least := max 1 (outer + 1).toNat
  let (indent, breaks, s) := match width with
    | some n =>
      let indent := least + n - 1
      let (breaks, s) := blockBreaks indent (r.rest.length + 1) [] r
      (indent, breaks, s)
    | none =>
      let (breaks, widest, s) := blockIndent (r.rest.length + 1) [] 0 r
      (max least widest, breaks, s)
  let (done, ending, more, t) :=
    if s.column == indent && !s.rest.isEmpty then
      blockLines folded indent (s.rest.length + 1) breaks [] s
    else ([], [], breaks, s)
  let tail := match chomp with
    | .strip => []
    | .clip => ending
    | .keep => ending ++ more
  pure (done.reverse.flatten ++ tail, t)

end TermRef.Yaml
