/-
TermRef/Yaml/Tree.lean

The tree of a document: scalars, sequences and mappings, each with its tag.

A plain scalar without a tag is a truth value, null, a merge key or a default
value by its spelling, and a text otherwise; numbers and dates stay the text
that was written.  An alias stands for the tree that its anchor names, which
has to be complete by then: a collection that contains itself is no tree.
-/
import TermRef.Yaml.Token

namespace TermRef.Yaml

/-- The tree of a document. -/
inductive Tree where
  | scalar (tag text : String)
  | sequence (tag : String) (items : List Tree)
  | mapping (tag : String) (entries : List (Tree × Tree))
  deriving Inhabited

/-- What the standard tags begin with. -/
def standardTag (name : String) : String := "tag:yaml.org,2002:" ++ name

/-- The tag of a tree. -/
def Tree.tag : Tree → String
  | .scalar t _ => t
  | .sequence t _ => t
  | .mapping t _ => t

/-- The words for truth values. -/
def truthWords : List String :=
  ["yes", "Yes", "YES", "no", "No", "NO", "true", "True", "TRUE", "false", "False", "FALSE",
    "on", "On", "ON", "off", "Off", "OFF"]

/-- The words for null. -/
def nullWords : List String := ["", "~", "null", "Null", "NULL"]

/-- A text less one newline at its end. -/
def chopNewline (s : String) : String :=
  match s.toList.reverse with
  | '\n' :: r => String.ofList r.reverse
  | _ => s

/-- The tag that a plain scalar has by its spelling. -/
def plainTag (s : String) : String :=
  let w := chopNewline s
  if truthWords.contains w then standardTag "bool"
  else if nullWords.contains w then standardTag "null"
  else if w == "<<" then standardTag "merge"
  else if w == "=" then standardTag "value"
  else standardTag "str"

/-! ### Trees from tokens -/

/-- What is kept while a tree is read: the tokens to come, the anchors, of which
one inside its own tree has none yet, and the tag handles. -/
structure Builder where
  tokens : List Token
  anchors : List (String × Option Tree) := []
  handles : List (String × String) := []

/-- Steps of reading. -/
abbrev Build := StateT Builder (Except Fault)

namespace Build

/-- The document is at fault. -/
def fail {α : Type} : Build α := throw .malformed

/-- The next token. -/
def peek : Build Token := do
  match (← get).tokens with
  | t :: _ => pure t
  | [] => pure .streamEnd

/-- Passes over a token. -/
def advance : Build Unit := modify fun b => { b with tokens := b.tokens.drop 1 }

/-- Passes over the given token, which has to come next. -/
def expect (t : Token) : Build Unit := do
  if (← peek) = t then advance else fail

/-- The tag that a handle and the text after it stand for. -/
def expand (handle : Option String) (rest : String) : Build String := do
  match handle with
  | none => pure rest
  | some h =>
    match (← get).handles.find? fun x => x.1 == h with
    | some (_, lead) => pure (lead ++ rest)
    | none => fail

/-- An anchor and a tag in either order; either may be absent. -/
def properties : Build (Option String × Option String) := do
  match ← peek with
  | .anchor a =>
    advance
    match ← peek with
    | .tag h r => advance; return (some a, some (← expand h r))
    | _ => return (some a, none)
  | .tag h r =>
    advance
    match ← peek with
    | .anchor a => advance; return (some a, some (← expand h r))
    | _ => return (none, some (← expand h r))
  | _ => return (none, none)

/-- Begins an anchored tree; an anchor is used once. -/
def openAnchor (a : Option String) : Build Unit := do
  match a with
  | none => pure ()
  | some name =>
    let b ← get
    if b.anchors.any fun x => x.1 == name then fail
    set { b with anchors := (name, none) :: b.anchors }

/-- Completes an anchored tree. -/
def closeAnchor (a : Option String) (t : Tree) : Build Tree := do
  match a with
  | none => pure t
  | some name =>
    modify fun b => { b with anchors := (name, some t) :: b.anchors.filter fun x => x.1 != name }
    pure t

/-- The tree that an alias stands for. -/
def aliased (name : String) : Build Tree := do
  match (← get).anchors.find? fun x => x.1 == name with
  | some (_, some t) => pure t
  | some (_, none) => throw .selfContained
  | none => fail

/-- An empty scalar. -/
def emptyScalar : Tree := .scalar (plainTag "") ""

/-- The tag of a scalar: given, or found by its spelling if it is plain or marked
by a lone exclamation mark. -/
def scalarTag (tag : Option String) (plain : Bool) (s : String) : String :=
  match tag with
  | none => if plain then plainTag s else standardTag "str"
  | some "!" => plainTag s
  | some t => t

/-- The tag of a sequence or mapping, whose kind is `name`. -/
def blockTag (tag : Option String) (name : String) : String :=
  match tag with
  | none => standardTag name
  | some "!" => standardTag name
  | some t => t

mutual

/-- A tree.  `block` says that block collections may stand here, `flat` that a
sequence may begin without an indentation of its own. -/
def tree : Nat → Bool → Bool → Build Tree
  | 0, _, _ => fail
  | fuel + 1, block, flat => do
    match ← peek with
    | .alias name => advance; return ← aliased name
    | _ => pure ()
    let (anchor, tag) ← properties
    openAnchor anchor
    match ← peek with
    | .blockEntry =>
      if flat then
        let items ← flatEntries fuel []
        return ← closeAnchor anchor (.sequence (blockTag tag "seq") items)
    | _ => pure ()
    match ← peek, block with
    | .scalar s plain, _ =>
      advance
      closeAnchor anchor (.scalar (scalarTag tag plain s) s)
    | .flowSequenceStart, _ =>
      advance
      closeAnchor anchor (.sequence (blockTag tag "seq") (← flowItems fuel true []))
    | .flowMappingStart, _ =>
      advance
      closeAnchor anchor (.mapping (blockTag tag "map") (← flowEntries fuel true []))
    | .blockSequenceStart, true =>
      advance
      closeAnchor anchor (.sequence (blockTag tag "seq") (← blockItems fuel []))
    | .blockMappingStart, true =>
      advance
      closeAnchor anchor (.mapping (blockTag tag "map") (← blockEntries fuel []))
    | _, _ =>
      if anchor.isSome || tag.isSome then
        let s := match tag with
          | none => emptyScalar
          | some "!" => emptyScalar
          | some t => .scalar t ""
        closeAnchor anchor s
      else fail

/-- A tree, or an empty scalar if one of the given tokens comes next. -/
def treeUnless : Nat → List Token → Bool → Bool → Build Tree
  | 0, _, _, _ => fail
  | fuel + 1, stops, block, flat => do
    if stops.contains (← peek) then pure emptyScalar else tree fuel block flat

/-- The items of a block sequence up to its end. -/
def blockItems : Nat → List Tree → Build (List Tree)
  | 0, _ => fail
  | fuel + 1, done => do
    match ← peek with
    | .blockEntry =>
      advance
      let t ← treeUnless fuel [.blockEntry, .blockEnd] true false
      blockItems fuel (t :: done)
    | _ => expect .blockEnd; pure done.reverse

/-- The items of a sequence without an indentation of its own. -/
def flatEntries : Nat → List Tree → Build (List Tree)
  | 0, _ => fail
  | fuel + 1, done => do
    match ← peek with
    | .blockEntry =>
      advance
      let t ← treeUnless fuel [.blockEntry, .key, .value, .blockEnd] true false
      flatEntries fuel (t :: done)
    | _ => pure done.reverse

/-- The entries of a block mapping up to its end. -/
def blockEntries : Nat → List (Tree × Tree) → Build (List (Tree × Tree))
  | 0, _ => fail
  | fuel + 1, done => do
    let stops := [.key, .value, .blockEnd]
    match ← peek with
    | .key =>
      advance
      let k ← treeUnless fuel stops true true
      let v ← blockValue fuel
      blockEntries fuel ((k, v) :: done)
    | _ => expect .blockEnd; pure done.reverse

/-- The value of an entry of a block mapping, if a colon introduces one. -/
def blockValue : Nat → Build Tree
  | 0 => fail
  | fuel + 1 => do
    match ← peek with
    | .value => advance; treeUnless fuel [.key, .value, .blockEnd] true true
    | _ => pure emptyScalar

/-- The items of a sequence in brackets.  An item may be a single entry of a
mapping. -/
def flowItems : Nat → Bool → List Tree → Build (List Tree)
  | 0, _, _ => fail
  | fuel + 1, first, done => do
    if (← peek) = .flowSequenceEnd then
      advance
      return done.reverse
    if !first then expect .flowEntry
    match ← peek with
    | .flowSequenceEnd => advance; pure done.reverse
    | .key =>
      advance
      let k ← treeUnless fuel [.value, .flowEntry, .flowSequenceEnd] false false
      let v ← flowValue fuel .flowSequenceEnd
      flowItems fuel false (.mapping (standardTag "map") [(k, v)] :: done)
    | _ =>
      let t ← tree fuel false false
      flowItems fuel false (t :: done)

/-- The value of an entry in brackets, if a colon introduces one. -/
def flowValue : Nat → Token → Build Tree
  | 0, _ => fail
  | fuel + 1, close => do
    match ← peek with
    | .value => advance; treeUnless fuel [.flowEntry, close] false false
    | _ => pure emptyScalar

/-- The entries of a mapping in brackets. -/
def flowEntries : Nat → Bool → List (Tree × Tree) → Build (List (Tree × Tree))
  | 0, _, _ => fail
  | fuel + 1, first, done => do
    if (← peek) = .flowMappingEnd then
      advance
      return done.reverse
    if !first then expect .flowEntry
    match ← peek with
    | .flowMappingEnd => advance; pure done.reverse
    | .key =>
      advance
      let k ← treeUnless fuel [.value, .flowEntry, .flowMappingEnd] false false
      let v ← flowValue fuel .flowMappingEnd
      flowEntries fuel false ((k, v) :: done)
    | _ =>
      let k ← tree fuel false false
      flowEntries fuel false ((k, emptyScalar) :: done)

end

/-! ### Documents -/

/-- The handles that are always there. -/
def standardHandles : List (String × String) := [("!", "!"), ("!!", standardTag "")]

/-- Directives before a document: at most one version, of the first kind, and no
handle twice. -/
def directives : Nat → Bool → List (String × String) → Build (List (String × String))
  | 0, _, _ => fail
  | fuel + 1, versioned, handles => do
    match ← peek with
    | .directive d =>
      advance
      match d with
      | .version major _ =>
        if versioned || major != 1 then fail else directives fuel true handles
      | .tag h lead =>
        if handles.any fun x => x.1 == h then fail
        else directives fuel versioned (handles ++ [(h, lead)])
      | .other => directives fuel versioned handles
    | _ => pure handles

/-- Passes over markers of the end of a document. -/
def skipEnds : Nat → Build Unit
  | 0 => fail
  | fuel + 1 => do
    if (← peek) = .documentEnd then
      advance
      skipEnds fuel

/-- Starts an explicit document. -/
def startDocument (fuel : Nat) : Build Unit := do
  let own ← directives fuel false []
  expect .documentStart
  modify fun b => { b with
    handles := own ++ standardHandles.filter fun h => !own.any fun x => x.1 == h.1 }

/-- A directive or the marker of a start comes next. -/
def isExplicit : Build Bool := do
  match ← peek with
  | .directive _ => pure true
  | .documentStart => pure true
  | _ => pure false

/-- The contents of an explicit document, which may be empty. -/
def contents (fuel : Nat) : Build Tree := do
  match ← peek with
  | .directive _ => pure emptyScalar
  | .documentStart => pure emptyScalar
  | .documentEnd => pure emptyScalar
  | .streamEnd => pure emptyScalar
  | _ => tree fuel true false

/-- The only document of a stream, if there is one. -/
def document (fuel : Nat) : Build (Option Tree) := do
  if (← peek) = .streamEnd then return none
  let t ←
    if ← isExplicit then do
      startDocument fuel
      contents fuel
    else do
      modify fun b => { b with handles := standardHandles }
      tree fuel true false
  skipEnds fuel
  if (← peek) = .streamEnd then pure (some t) else fail

end Build

/-- The tree of the only document in a stream of tokens, if there is one. -/
def Tree.ofTokens (ts : List Token) : Except Fault (Option Tree) :=
  (·.1) <$> (Build.document (3 * ts.length + 8)).run { tokens := ts }

end TermRef.Yaml
