/-
TermRef/Reference/Grammar.lean

The ways in which a text can write references.

There are two grammars by name and any number of custom ones:

* the default one, `[showtext](id#trait@scopetag:vsntag)`;
* the alternate one, `[showtext@scopetag:vsntag](id#trait)`;
* a pattern given by its text, or by a literal `/text/flags`, whose named
  groups are the parts of a reference.

Both named grammars are patterns too: they look ahead over the whole reference
with wider sets before they take it apart.
-/
import TermRef.Pattern.Walk
import TermRef.Pattern.Reader
import TermRef.Text.Quoted

namespace TermRef

open Pattern

/-- Which grammar a text is read with. -/
inductive GrammarKind where
  | default
  | alternate
  | custom
  deriving DecidableEq, Repr

/-- The name of the kind. -/
def GrammarKind.name : GrammarKind → String
  | .default => "default"
  | .alternate => "alt"
  | .custom => "custom"

/-- A grammar: its kind and the pattern that finds references. -/
structure Grammar where
  kind : GrammarKind
  pattern : Pattern
  deriving Repr

namespace Grammar

/-! ### The named grammars -/

/-- Members of a set: lower case letters, digits, underscore and hyphen, and
further characters. -/
def tagItems (more : List Char) : List SetItem :=
  [.range 97 122, .range 48 57, .code 95, .code 45] ++ more.map fun c => .code c.toNat

/-- The set of characters of tags, with further ones. -/
def tagSet (more : List Char) : CharSet := ⟨tagItems more, false, .exact⟩

/-- The set of all characters but the given ones. -/
def notIn (cs : List Char) : CharSet := ⟨cs.map fun c => .code c.toNat, true, .exact⟩

/-- Any number of characters of a set. -/
def many (s : CharSet) : Node := .run .greedy 0 none s

/-- One or more characters of a set. -/
def several (s : CharSet) : Node := .run .greedy 1 none s

/-- The words shown: no newline, closing bracket or at sign. -/
def showSet : CharSet := notIn ['\n', ']', '@']

/-- What the look-ahead lets stand for the words shown. -/
def aheadShowSet : CharSet := notIn ['@', ']']

/-- `[showtext](id#trait@scopetag:vsntag)`. -/
def standardNode : Node :=
  .chain [
    .char '[',
    .look none true (.chain [
      several aheadShowSet, .char ']', .char '(', many (tagSet ['#']), .char '@',
      many (tagSet [':', '.']), .char ')']),
    .group 1 (several showSet),
    .char ']', .char '(',
    .optional (.chain [
      .optional (.group 2 (many (tagSet []))),
      .optional (.chain [.char '#', .group 3 (several (tagSet []))])]),
    .char '@',
    .group 4 (many (tagSet [])),
    .optional (.chain [.char ':', .group 5 (several (tagSet ['.']))]),
    .char ')']

/-- The default grammar. -/
def standard : Grammar where
  kind := .default
  pattern := ⟨standardNode,
    [("showtext", 1), ("id", 2), ("trait", 3), ("scopetag", 4), ("vsntag", 5)]⟩

/-- `[showtext@scopetag:vsntag](id#trait)`. -/
def alternateNode : Node :=
  .chain [
    .char '[',
    .look none true (.chain [
      several aheadShowSet, .char '@', many (tagSet [':', '.']), .char ']',
      .optional (.chain [.char '(', several (tagSet ['#']), .char ')'])]),
    .group 1 (.run .lazy 1 none showSet),
    .char '@',
    .group 2 (many (tagSet [])),
    .optional (.chain [.char ':', .group 3 (.run .lazy 1 none (tagSet ['.']))]),
    .char ']',
    .optional (.chain [
      .char '(',
      .group 4 (many (tagSet [])),
      .optional (.chain [.char '#', .group 5 (.run .lazy 1 none (tagSet []))]),
      .char ')'])]

/-- The alternate grammar. -/
def alternate : Grammar where
  kind := .alternate
  pattern := ⟨alternateNode,
    [("showtext", 1), ("scopetag", 2), ("vsntag", 3), ("id", 4), ("trait", 5)]⟩

/-! ### Custom grammars -/

/-- Why a text is refused as a custom grammar. -/
inductive Error where
  /-- A flag of a literal that has no meaning. -/
  | unsupportedFlag (flag : Char) (source : String)
  /-- The text is no pattern. -/
  | malformed (source : String)
  /-- A repetition count reaches the limit. -/
  | countTooLarge
  /-- ASCII and Unicode are asked for at once. -/
  | flagsClash
  /-- A character is asked for by its name, which is not known here. -/
  | characterName
  deriving DecidableEq, Repr

/-- The text of the error.  What exactly is wrong with a pattern is left open. -/
def Error.message : Error → String
  | .unsupportedFlag flag source =>
    "Unsupported pattern flag '" ++ flag.toString ++ "' in " ++ source
  | .malformed source => "Invalid term reference pattern " ++ Quoted.ofText source ++ ": <detail>"
  | .countTooLarge => "the repetition number is too large"
  | .flagsClash => "ASCII and UNICODE flags are incompatible"
  | .characterName => "<a character by its name>"

/-- The body and the flags of a literal `/body/flags`.  The body reaches to the
last slash, and a newline may follow the flags. -/
def splitLiteral (s : List Char) : Option (List Char × List Char) :=
  match s with
  | '/' :: r =>
    match r.reverse.span (· != '/') with
    | (_, []) => none
    | (tail, _ :: body) =>
      let flags := match tail with
        | '\n' :: t => t.reverse
        | t => t.reverse
      if flags.all Char.isLower then some (body.reverse, flags) else none
  | _ => none

/-- A flag of a literal, added to those before it.  Matching is always global and
not anchored, so the flags that ask for this change nothing. -/
def addLiteralFlag (f : Flags) (c : Char) : Option Flags :=
  if c == 'i' || c == 'm' || c == 's' || c == 'x' then f.add c
  else if c == 'g' || c == 'y' || c == 'u' || c == 'd' then some f
  else none

/-- Named groups `(?<name>` written as `(?P<name>`. -/
def nameGroups : List Char → List Char
  | '(' :: '?' :: '<' :: r =>
    match r with
    | '=' :: _ | '!' :: _ => '(' :: '?' :: '<' :: nameGroups r
    | _ => '(' :: '?' :: 'P' :: '<' :: nameGroups r
  | c :: r => c :: nameGroups r
  | [] => []

/-- The flags of a literal, or the first that has no meaning. -/
def literalFlags : Flags → List Char → Except Char Flags
  | f, [] => .ok f
  | f, c :: r =>
    match addLiteralFlag f c with
    | some g => literalFlags g r
    | none => .error c

/-- The pattern of a custom grammar. -/
def readCustom (source : String) : Except Error Pattern := do
  let (body, letters) := (splitLiteral source.toList).getD (source.toList, [])
  let flags ← match literalFlags {} letters with
    | .ok f => .ok f
    | .error c => .error (.unsupportedFlag c source)
  match readWhole flags (nameGroups body) with
  | .ok p => .ok p
  | .error .malformed => .error (.malformed source)
  | .error .countTooLarge => .error .countTooLarge
  | .error .flagsClash => .error .flagsClash
  | .error .characterName => .error .characterName

/-- The grammar that a text names, in any case, or the custom one it writes. -/
def ofText (source : String) : Except Error Grammar :=
  let key := String.ofList (Unicode.lower source.toList)
  if key == "default" || key == "standard" then .ok standard
  else if key == "alt" || key == "alternate" then .ok alternate
  else (readCustom source).map fun p => ⟨.custom, p⟩

end Grammar

end TermRef
