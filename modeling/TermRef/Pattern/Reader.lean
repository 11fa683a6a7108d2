/-
TermRef/Pattern/Reader.lean

Reading the text of a pattern.

The notation is that of backtracking pattern languages: sets in brackets,
groups in parentheses with their `(?` extensions, greedy, lazy and possessive
repetitions, anchors, classes and escapes, comments and flags.  Flags for the
whole pattern stand at its very start; flags for a part stand in a group.

A text that is no pattern is refused; `Fault` keeps apart the refusals that are not
about the notation: a repetition count beyond the limit, flags that ask for ASCII and
for Unicode at once, and characters by their names, of which there is no table here.
Patterns may be nested as deeply as they like.
-/
import TermRef.Pattern.Syntax
import TermRef.Unicode.Name
import TermRef.Decimal.Numeral

namespace TermRef.Pattern

/-- Why a text is refused as a pattern. -/
inductive Fault where
  /-- It does not follow the notation. -/
  | malformed
  /-- A repetition count reaches the limit. -/
  | countTooLarge
  /-- ASCII and Unicode are asked for at once. -/
  | flagsClash
  /-- A character is asked for by its name, which is not known here. -/
  | characterName
  deriving DecidableEq, Repr

/-- Switches that change what a pattern means. -/
structure Flags where
  caseless : Bool := false
  multiline : Bool := false
  dotAll : Bool := false
  verbose : Bool := false
  ascii : Bool := false
  unicode : Bool := false
  /-- Refuses repetitions. -/
  plain : Bool := false
  deriving DecidableEq, Repr

/-- How characters are compared. -/
def Flags.fold (f : Flags) : Fold :=
  if f.caseless then (if f.ascii then .ascii else .full) else .exact

/-- What the reader keeps of a part of the pattern: its tree, the least and the
greatest number of characters it takes, and what may be done with it. -/
structure Part where
  node : Node
  least : Nat
  most : Nat
  /-- A bare anchor, which cannot be repeated. -/
  isAnchor : Bool := false
  /-- A bare repetition, which cannot be repeated again. -/
  isRepetition : Bool := false

/-- Widths above this are not told apart. -/
def widthCap : Nat := Nat.pow 2 64

/-- Repetition counts and widths of conditions have to stay below this. -/
def countCap : Nat := Nat.pow 2 32 - 1

/-- The state of the reader: the text to come, the flags of the whole pattern,
and the groups met so far with the widths of the closed ones. -/
structure State where
  text : List Char
  flags : Flags
  names : List (String × Nat) := []
  /-- Widths by group number, latest first; an open group has none. -/
  widths : List (Nat × Option (Nat × Nat)) := []
  groupCount : Nat := 0
  /-- The number of groups when the outermost condition on preceding text began. -/
  behind : Option Nat := none
  /-- The highest group number used as a condition. -/
  highestCondition : Nat := 0
  /-- A condition on preceding text has no fixed width. -/
  unfixed : Bool := false
  /-- A repetition has been read. -/
  repeats : Bool := false

/-- Reading steps. -/
abbrev Reader := StateT State (Except Fault)

/-- Refuses the text. -/
def refuse {α : Type} : Reader α := throw .malformed

/-! ### Single characters and escapes -/

/-- Takes the given character if it comes next. -/
def accept (c : Char) : Reader Bool := do
  let s ← get
  match s.text with
  | x :: r => if x = c ∧ c ≠ '\\' then set { s with text := r }; pure true else pure false
  | [] => pure false

/-- An item of the text: a character, or a character after a backslash. -/
inductive Item where
  | plain (c : Char)
  | escaped (c : Char)

/-- Takes the next item. -/
def takeItem : Reader (Option Item) := do
  let s ← get
  match s.text with
  | [] => pure none
  | ['\\'] => refuse
  | '\\' :: c :: r => set { s with text := r }; pure (some (.escaped c))
  | c :: r => set { s with text := r }; pure (some (.plain c))

/-- Takes the next item if it is a plain character. -/
def takePlain : Reader Char := do
  match ← takeItem with
  | some (.plain c) => pure c
  | _ => refuse

/-- The value of a digit in the given base. -/
def digitIn (base : Nat) (c : Char) : Option Nat :=
  let v? :=
    if c.isDigit then some (c.toNat - '0'.toNat)
    else if 'a' ≤ c && c ≤ 'f' then some (c.toNat - 'a'.toNat + 10)
    else if 'A' ≤ c && c ≤ 'F' then some (c.toNat - 'A'.toNat + 10)
    else none
  v?.filter (· < base)

/-- Digits of a base from the front of a text, at most `n`: their number, their
value on top of `acc`, and the rest. -/
def digitsFrom (base : Nat) : Nat → Nat → Nat → List Char → Nat × Nat × List Char
  | 0, count, acc, s => (count, acc, s)
  | n + 1, count, acc, c :: r =>
    match digitIn base c with
    | some v => digitsFrom base n (count + 1) (acc * base + v) r
    | none => (count, acc, c :: r)
  | _, count, acc, [] => (count, acc, [])

/-- Takes at most `n` digits of a base: their number and value. -/
def takeDigits (base n : Nat) : Reader (Nat × Nat) := do
  let s ← get
  let (count, v, r) := digitsFrom base n 0 0 s.text
  set { s with text := r }
  pure (count, v)

/-- Takes exactly `n` hexadecimal digits. -/
def takeHex (n : Nat) : Reader Nat := do
  let (count, v) ← takeDigits 16 n
  if count = n then pure v else refuse

/-- The code points that letters stand for after a backslash. -/
def controlCode (c : Char) : Option Nat :=
  match c with
  | 'a' => some 7
  | 'b' => some 8
  | 'f' => some 12
  | 'n' => some 10
  | 'r' => some 13
  | 't' => some 9
  | 'v' => some 11
  | '\\' => some 92
  | _ => none

/-- The classes that letters stand for after a backslash; upper case stands for
what is outside. -/
def kindOf (c : Char) : Option (CharKind × Bool) :=
  match c with
  | 'd' => some (.digit, true)
  | 'D' => some (.digit, false)
  | 's' => some (.blank, true)
  | 'S' => some (.blank, false)
  | 'w' => some (.word, true)
  | 'W' => some (.word, false)
  | _ => none

/-- An escape that stands for one code point by its number. -/
def takeCode (c : Char) : Reader (Option Nat) := do
  if c = 'x' then some <$> takeHex 2
  else if c = 'u' then some <$> takeHex 4
  else if c = 'U' then do
    let n ← takeHex 8
    if n < 0x110000 then pure (some n) else refuse
  else pure none

/-- There is a name up to the closing brace; a brace behind a backslash does not close it. -/
def hasName (begun : Bool) : List Char → Bool
  | [] => false
  | ['\\'] => false
  | '\\' :: _ :: r => hasName true r
  | c :: r => if c == '\x7d' then begun else hasName true r

/-- The text begins with a name in braces. -/
def beginsWithName : List Char → Bool
  | '\x7b' :: r => hasName false r
  | _ => false

/-- Refuses a character by its name, and as no pattern only if there is no name. -/
def refuseNamed {α : Type} : Reader α := do
  if beginsWithName (← get).text then throw .characterName else refuse

/-- A member of a set after a backslash. -/
def takeSetEscape (ascii : Bool) (c : Char) : Reader SetItem := do
  match controlCode c with
  | some n => return .code n
  | none => pure ()
  match kindOf c with
  | some (k, inside) => return .kind k ascii inside
  | none => pure ()
  match ← takeCode c with
  | some n => return .code n
  | none => pure ()
  match digitIn 8 c with
  | some v =>
    let s ← get
    let (_, n, r) := digitsFrom 8 2 0 v s.text
    set { s with text := r }
    if n > 0o377 then refuse else return .code n
  | none => pure ()
  if c = 'N' then refuseNamed
  else if c.isDigit || c.isAlpha then refuse
  else return .code c.toNat

/-! ### Sets -/

/-- Items without later repetitions of earlier ones. -/
def distinct (items : List SetItem) : List SetItem :=
  items.foldl (fun acc i => if acc.contains i then acc else acc ++ [i]) []

/-- The members of a set up to its closing bracket, latest first. -/
def takeMembers (ascii : Bool) : Nat → List SetItem → Reader (List SetItem)
  | 0, _ => refuse
  | fuel + 1, done => do
    let member : Item → Reader SetItem := fun i => match i with
      | .plain c => pure (.code c.toNat)
      | .escaped c => takeSetEscape ascii c
    match ← takeItem with
    | none => refuse
    | some (.plain ']') =>
      if done.isEmpty then afterMember (.code ']'.toNat) member fuel done else pure done
    | some i => afterMember (← member i) member fuel done
where
  /-- What follows a member: a hyphen makes it the start of a range, unless the
  set ends there. -/
  afterMember (first : SetItem) (member : Item → Reader SetItem) (fuel : Nat)
      (done : List SetItem) : Reader (List SetItem) := do
    if ← accept '-' then
      match ← takeItem with
      | none => refuse
      | some (.plain ']') => pure (.code '-'.toNat :: first :: done)
      | some i =>
        match first, ← member i with
        | .code lo, .code hi =>
          if hi < lo then refuse else takeMembers ascii fuel (.range lo hi :: done)
        | _, _ => refuse
    else takeMembers ascii fuel (first :: done)

/-- A set after its opening bracket. -/
def takeSet (f : Flags) : Reader CharSet := do
  let negated ← accept '^'
  let items ← takeMembers f.ascii ((← get).text.length + 1) []
  match distinct items.reverse with
  | [.code n] => pure (.ofCode f.fold negated n)
  | items => pure (.ofItems f.fold negated items)

/-! ### Groups met so far -/

/-- The text up to a closing character, which is taken as well. -/
def takeName (close : Char) : Reader (List Char) := do
  let s ← get
  match s.text.span (· != close) with
  | ([], _) => refuse
  | (_, []) => refuse
  | (name, _ :: r) =>
    if endsOpen name then refuse
    else set { s with text := r }; pure name
where
  /-- An odd number of backslashes at the end escapes the closing character. -/
  endsOpen (name : List Char) : Bool :=
    (name.reverse.takeWhile (· == '\\')).length % 2 == 1

/-- Opens a group and gives its number. -/
def openGroup (name : Option String) : Reader Nat := do
  let s ← get
  let i := s.groupCount + 1
  match name with
  | some n => if s.names.any (·.1 == n) then refuse else pure ()
  | none => pure ()
  set { s with
    groupCount := i
    widths := (i, none) :: s.widths
    names := match name with
      | some n => s.names ++ [(n, i)]
      | none => s.names }
  pure i

/-- Closes a group whose widths are known. -/
def closeGroup (i : Nat) (p : Part) : Reader Unit :=
  modify fun s => { s with widths := (i, some (p.least, p.most)) :: s.widths }

/-- The widths of a closed group. -/
def closedWidths? (s : State) (i : Nat) : Option (Nat × Nat) :=
  match s.widths.find? fun w => w.1 == i with
  | some (_, w) => w
  | none => none

/-- Inside a condition on preceding text only groups closed before it may be
referred to. -/
def checkBehind (i : Nat) : Reader Unit := do
  let s ← get
  match s.behind with
  | some n => if (closedWidths? s i).isNone || i > n then refuse else pure ()
  | none => pure ()

/-- The text of a closed group once more. -/
def takeAgain (f : Flags) (i : Nat) : Reader Part := do
  match closedWidths? (← get) i with
  | some (lo, hi) =>
    checkBehind i
    pure ⟨.again i f.fold, lo, hi, false, false⟩
  | none => refuse

/-! ### Escapes outside sets -/

/-- A part that takes one character. -/
def Part.one (s : CharSet) : Part := ⟨.one s, 1, 1, false, false⟩

/-- A part that is an anchor. -/
def Part.anchor (a : Anchor) : Part := ⟨.anchor a, 0, 0, true, false⟩

/-- A decimal escape: three octal digits are a code point, otherwise it is the
number of a group. -/
def takeNumbered (f : Flags) (c : Char) : Reader Part := do
  let s ← get
  match s.text with
  | d :: e :: r =>
    if d.isDigit && (digitIn 8 c).isSome && (digitIn 8 d).isSome && (digitIn 8 e).isSome then
      let n := (digitsFrom 8 3 0 0 [c, d, e]).2.1
      set { s with text := r }
      if n > 0o377 then refuse else return .one (.ofCode f.fold false n)
  | _ => pure ()
  match s.text with
  | d :: r =>
    if d.isDigit then
      set { s with text := r }
      takeAgain f ((digitsFrom 10 2 0 0 [c, d]).2.1)
    else takeAgain f ((digitsFrom 10 1 0 0 [c]).2.1)
  | [] => takeAgain f ((digitsFrom 10 1 0 0 [c]).2.1)

/-- What a backslash and a character stand for. -/
def takeEscape (f : Flags) (c : Char) : Reader Part := do
  let code := fun n => Part.one (.ofCode f.fold false n)
  match c with
  | 'A' => return .anchor .textStart
  | 'Z' => return .anchor .textEnd
  | 'b' => return .anchor (.boundary f.ascii true)
  | 'B' => return .anchor (.boundary f.ascii false)
  | _ => pure ()
  match kindOf c with
  | some (k, inside) => return .one ⟨[.kind k f.ascii inside], false, .exact⟩
  | none => pure ()
  match controlCode c with
  | some n => return code n
  | none => pure ()
  match ← takeCode c with
  | some n => return code n
  | none => pure ()
  if c = '0' then
    let (_, n) ← takeDigits 8 2
    return code n
  if c.isDigit then takeNumbered f c
  else if c = 'N' then refuseNamed
  else if c.isAlpha then refuse
  else return code c.toNat

/-! ### Flags -/

/-- Switches a flag on by its letter. -/
def Flags.add (f : Flags) (c : Char) : Option Flags :=
  match c with
  | 'i' => some { f with caseless := true }
  | 'm' => some { f with multiline := true }
  | 's' => some { f with dotAll := true }
  | 'x' => some { f with verbose := true }
  | 'a' => some { f with ascii := true }
  | 'u' => some { f with unicode := true }
  | 't' => some { f with plain := true }
  | _ => none

/-- Flags of either set; ASCII and Unicode in the second replace the first's. -/
def Flags.join (f g : Flags) : Flags where
  caseless := f.caseless || g.caseless
  multiline := f.multiline || g.multiline
  dotAll := f.dotAll || g.dotAll
  verbose := f.verbose || g.verbose
  ascii := if g.ascii || g.unicode then g.ascii else f.ascii
  unicode := if g.ascii || g.unicode then g.unicode else f.unicode
  plain := f.plain || g.plain

/-- Flags of the first set that are not in the second. -/
def Flags.without (f g : Flags) : Flags where
  caseless := f.caseless && !g.caseless
  multiline := f.multiline && !g.multiline
  dotAll := f.dotAll && !g.dotAll
  verbose := f.verbose && !g.verbose
  ascii := f.ascii && !g.ascii
  unicode := f.unicode && !g.unicode
  plain := f.plain && !g.plain

/-- Some flag is in both sets. -/
def Flags.meets (f g : Flags) : Bool :=
  (f.caseless && g.caseless) || (f.multiline && g.multiline) || (f.dotAll && g.dotAll) ||
    (f.verbose && g.verbose) || (f.ascii && g.ascii) || (f.unicode && g.unicode) ||
    (f.plain && g.plain)

/-- Letters of flags, from `c` on, up to one of the closing characters. -/
def takeFlags (closing : List Char) : Nat → Flags → Char → Reader (Flags × Char)
  | 0, _, _ => refuse
  | fuel + 1, f, c => do
    match f.add c with
    | none => refuse
    | some g =>
      if g.ascii && g.unicode then refuse
      let d ← takePlain
      if closing.contains d then pure (g, d) else takeFlags closing fuel g d

/-- What the letters after `(?` ask for: flags for the whole pattern, or flags to
switch on and off for a group. -/
def takeFlagGroup (c : Char) : Reader (Option (Flags × Flags)) := do
  let fuel := (← get).text.length + 1
  let (on, stop) ←
    if c = '-' then pure (({} : Flags), '-') else takeFlags [')', '-', ':'] fuel {} c
  if stop = ')' then
    modify fun s => { s with flags :=
      { Flags.join s.flags on with
        ascii := s.flags.ascii || on.ascii
        unicode := s.flags.unicode || on.unicode } }
    return none
  if on.plain then refuse
  if stop = '-' then
    let d ← takePlain
    let (off, _) ← takeFlags [':'] fuel {} d
    if off.ascii || off.unicode || off.plain || on.meets off then refuse
    return some (on, off)
  return some (on, {})

/-! ### Repetitions -/

/-- The least and greatest count of a repetition mark; `none` if a brace opens no
count and stands for itself. -/
def takeCounts (c : Char) : Reader (Option (Nat × Option Nat)) := do
  match c with
  | '?' => return some (0, some 1)
  | '*' => return some (0, none)
  | '+' => return some (1, none)
  | _ => pure ()
  let s ← get
  if s.text.head? = some '\x7d' then return none
  let fuel := s.text.length
  let (nlo, lo) ← takeDigits 10 fuel
  let (nhi, hi) ← if ← accept ',' then takeDigits 10 fuel else pure (nlo, lo)
  if !(← accept '\x7d') then
    set s
    return none
  if nlo > 0 && lo ≥ countCap then throw .countTooLarge
  if nhi > 0 then
    if hi ≥ countCap then throw .countTooLarge
    if hi < lo then refuse
    return some (lo, some hi)
  return some (lo, none)

/-- The mode that the character after a repetition mark asks for. -/
def takeMode : Reader Mode := do
  if ← accept '?' then pure .lazy
  else if ← accept '+' then pure .possessive
  else pure .greedy

/-- A part repeated. -/
def Part.repeated (p : Part) (mode : Mode) (lo : Nat) (hi : Option Nat) : Part where
  node := match p.node with
    | .one s => .run mode lo hi s
    | a => .rep mode lo hi a
  least := min (p.least * lo) widthCap
  most := match hi with
    | none => if p.most = 0 then 0 else widthCap
    | some n => min (p.most * n) widthCap
  isRepetition := true

/-! ### Sequences and alternatives -/

/-- One part after the other; the first is given latest part first. -/
def Part.sequence (parts : List Part) : Part :=
  let inOrder := parts.reverse
  match inOrder with
  | [p] => p
  | _ =>
    { node := .chain (inOrder.map (·.node))
      least := min ((inOrder.map (·.least)).foldr (· + ·) 0) widthCap
      most := min ((inOrder.map (·.most)).foldr (· + ·) 0) widthCap }

/-- One of several parts. -/
def Part.choice : List Part → Part
  | [] => ⟨.empty, 0, 0, false, false⟩
  | [p] => p
  | p :: r =>
    let q := Part.choice r
    { node := .alt p.node q.node, least := min p.least q.least, most := max p.most q.most }

/-- A part that repetition takes as a whole. -/
def Part.whole (p : Part) : Part := { p with isAnchor := false, isRepetition := false }

/-- Blanks that the verbose form passes over. -/
def isLayout (c : Char) : Bool := c == ' ' || ('\t' ≤ c && c ≤ '\r')

/-- Text after the next plain character `stop`; escaped characters are passed
over.  With no such character the result is `atEnd`. -/
def dropPast (stop : Char) (atEnd : Option (List Char)) : List Char → Option (List Char)
  | [] => atEnd
  | ['\\'] => none
  | '\\' :: _ :: r => dropPast stop atEnd r
  | c :: r => if c == stop then some r else dropPast stop atEnd r

/-- Passes over a comment that ends with the character `stop`, or with the
pattern if `mayEnd` says so. -/
def skipComment (stop : Char) (mayEnd : Bool) : Reader Unit := do
  let s ← get
  match dropPast stop (if mayEnd then some [] else none) s.text with
  | some r => set { s with text := r }
  | none => refuse

/-- What a parenthesis opens. -/
inductive Opening where
  | group (name : Option String)
  | plain (on off : Flags)
  | atomic
  | look (behind present : Bool)
  | condition (i : Nat)
  | again (name : String)
  | flags
  | comment

/-- What a parenthesis leaves among the parts. -/
inductive Opened where
  | part (p : Part)
  /-- A comment, which leaves nothing. -/
  | comment
  /-- Flags for the whole pattern. -/
  | flags

/-- The number of the group with a name. -/
def groupNamed (name : List Char) : Reader Nat := do
  match (← get).names.find? fun g => g.1 == String.ofList name with
  | some (_, i) => pure i
  | none => refuse

/-- The group that a condition names or numbers. -/
def takeCondition : Reader Nat := do
  let name ← takeName ')'
  let i ← if Unicode.isName name then groupNamed name
    else match Decimal.readInt 10 name with
      | some (.ofNat (n + 1)) => do
        modify fun s => { s with highestCondition := max s.highestCondition (n + 1) }
        pure (n + 1)
      | _ => refuse
  checkBehind i
  pure i

/-- Reads what follows an opening parenthesis up to the contents of the group. -/
def takeOpening : Reader Opening := do
  if !(← accept '?') then return .group none
  match ← takePlain with
  | 'P' =>
    if ← accept '<' then
      let name ← takeName '>'
      if Unicode.isName name then return .group (some (String.ofList name)) else refuse
    else if ← accept '=' then
      let name ← takeName ')'
      if Unicode.isName name then return .again (String.ofList name) else refuse
    else refuse
  | ':' => return .plain {} {}
  | '#' =>
    skipComment ')' false
    return .comment
  | '=' => return .look false true
  | '!' => return .look false false
  | '<' =>
    match ← takePlain with
    | '=' => return .look true true
    | '!' => return .look true false
    | _ => refuse
  | '(' => return .condition (← takeCondition)
  | '>' => return .atomic
  | c =>
    match ← takeFlagGroup c with
    | some (on, off) => return .plain on off
    | none => return .flags

/-- The anchor at the caret. -/
def Flags.caret (f : Flags) : Anchor := if f.multiline then .lineStart else .textStart

/-- The anchor at the dollar sign. -/
def Flags.dollar (f : Flags) : Anchor := if f.multiline then .lineEnd else .lastLineEnd

/-- The set of the dot. -/
def Flags.dot (f : Flags) : CharSet := if f.dotAll then .all else .line

/-- The tree of a condition on the text around, and whether its width is fixed
when that is needed. -/
def lookPart (behind present : Bool) (p : Part) : Reader Part := do
  if behind then
    if p.least != p.most || p.least > countCap then
      modify fun s => { s with unfixed := true }
    pure ⟨.look (some p.least) present p.node, 0, 0, false, false⟩
  else pure ⟨.look none present p.node, 0, 0, false, false⟩

/-- Repeats the latest of the parts read so far. -/
def repeatLast (c : Char) (parts : List Part) (dflt : Part) : Reader (List Part) := do
  match ← takeCounts c with
  | none => pure (dflt :: parts)
  | some (lo, hi) =>
    match parts with
    | [] => refuse
    | p :: r =>
      if p.isAnchor || p.isRepetition then refuse
      let mode ← takeMode
      modify fun s => { s with repeats := true }
      pure (p.repeated mode lo hi :: r)

/-- Takes the parenthesis that closes a group. -/
def takeClose : Reader Unit := do
  if ← accept ')' then pure () else refuse

mutual

/-- Alternatives up to the end of a group.  `top` says that this is the whole
pattern; `f` are the flags in force, of which the whole pattern's may still be
set while nothing has been read. -/
def takeChoice : Nat → Flags → Bool → List Part → Reader Part
  | 0, _, _, _ => refuse
  | fuel + 1, f, top, done => do
    let p ← takeSequence fuel f (top && done.isEmpty) []
    let now := (← get).flags
    let f := if top then now else f
    if ← accept '|' then takeChoice fuel f top (p :: done)
    else match done with
      | [] => pure p
      | _ => pure (Part.choice ((p :: done).reverse)).whole

/-- Parts one after the other up to a bar or a closing parenthesis; `first` says
that flags for the whole pattern may stand here. -/
def takeSequence : Nat → Flags → Bool → List Part → Reader Part
  | 0, _, _, _ => refuse
  | fuel + 1, f, first, parts => do
    let s ← get
    match s.text.head? with
    | none => return Part.sequence parts
    | some '|' => return Part.sequence parts
    | some ')' => return Part.sequence parts
    | some _ => pure ()
    let literal := fun (c : Char) => Part.one (.ofCode f.fold false c.toNat)
    match ← takeItem with
    | none => return Part.sequence parts
    | some (.escaped c) => takeSequence fuel f first ((← takeEscape f c) :: parts)
    | some (.plain c) =>
      if f.verbose && isLayout c then takeSequence fuel f first parts
      else if f.verbose && c == '#' then
        skipComment '\n' true
        takeSequence fuel f first parts
      else match c with
        | '[' => takeSequence fuel f first (Part.one (← takeSet f) :: parts)
        | '*' | '+' | '?' | '\x7b' =>
          takeSequence fuel f first (← repeatLast c parts (literal c))
        | '.' => takeSequence fuel f first (Part.one f.dot :: parts)
        | '^' => takeSequence fuel f first (Part.anchor f.caret :: parts)
        | '$' => takeSequence fuel f first (Part.anchor f.dollar :: parts)
        | '(' =>
          match ← takeGroup fuel f with
          | .part p => takeSequence fuel f first (p :: parts)
          | .comment => takeSequence fuel f first parts
          | .flags =>
            let g := (← get).flags
            if first && parts.isEmpty then takeSequence fuel g first parts else refuse
        | _ => takeSequence fuel f first (literal c :: parts)

/-- A group after its opening parenthesis. -/
def takeGroup : Nat → Flags → Reader Opened
  | 0, _ => refuse
  | fuel + 1, f => do
    match ← takeOpening with
    | .group name =>
      let i ← openGroup name
      let p ← takeChoice fuel f false []
      takeClose
      closeGroup i p
      pure (.part ⟨.group i p.node, p.least, p.most, false, false⟩)
    | .plain on off =>
      let p ← takeChoice fuel ((f.join on).without off) false []
      takeClose
      pure (.part p.whole)
    | .atomic =>
      let p ← takeChoice fuel f false []
      takeClose
      pure (.part ⟨.atomic p.node, p.least, p.most, false, false⟩)
    | .look behind present =>
      let outer := (← get).behind
      if behind && outer.isNone then
        modify fun s => { s with behind := some s.groupCount }
      let p ← takeChoice fuel f false []
      if behind then modify fun s => { s with behind := outer }
      takeClose
      Opened.part <$> lookPart behind present p
    | .condition i =>
      let yes ← takeSequence fuel f false []
      if ← accept '|' then
        let no ← takeSequence fuel f false []
        takeClose
        pure (.part ⟨.ifGroup i yes.node no.node, min yes.least no.least,
          max yes.most no.most, false, false⟩)
      else
        takeClose
        pure (.part ⟨.ifGroup i yes.node .empty, 0, yes.most, false, false⟩)
    | .again name => Opened.part <$> takeAgain f (← groupNamed name.toList)
    | .flags => pure .flags
    | .comment => pure .comment

end

/-- Reads a whole pattern under the given flags. -/
def readWhole (f : Flags) (s : List Char) : Except Fault Pattern := do
  let start : State := { text := s, flags := f }
  let (p, s) ← (takeChoice (4 * s.length + 8) f true []).run start
  if s.flags.ascii && s.flags.unicode then throw .flagsClash
  if !s.text.isEmpty || s.highestCondition > s.groupCount || s.unfixed ||
      (s.flags.plain && s.repeats) then throw .malformed
  pure ⟨p.node, s.names⟩

end TermRef.Pattern
