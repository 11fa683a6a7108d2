/-
TermRef/Settings/EnvFile.lean

Files of environment variables.

A line binds a name to a value, with an equals sign between them; a name alone is bound
to nothing.  The word "export" may come first.  A name may stand in single quotes, a
value in single or double ones, where it may span lines and hold escapes.  A value
without quotes ends at the end of the line, or before a comment that follows a blank.  A
line that is none of this is passed over.

A value may name variables, with a dollar sign and braces; a default may follow.  They
stand for what has been bound before, or for what the environment has.
-/
import TermRef.Unicode.Blank

namespace TermRef

/-- A name, and the value it is bound to, if any. -/
structure Binding where
  name : String
  value : Option String
  deriving DecidableEq, Repr

namespace EnvFile

open Unicode

/-! ### Places in a line -/

/-- The character ends a line. -/
def isEnd (c : Char) : Bool := c == '\n' || c == '\r'

/-- The character is a blank within a line. -/
def isInlineBlank (c : Char) : Bool := isBlank c && !isEnd c

/-- A text without the blanks at its start, as far as the line goes. -/
def skipInline (s : List Char) : List Char := s.dropWhile isInlineBlank

/-- What follows the line that a text starts with. -/
def skipLine (s : List Char) : List Char := (s.dropWhile fun c => !isEnd c).drop 1

/-- What follows the end of a line, if nothing but blanks comes before it. -/
def atEnd? (s : List Char) : Option (List Char) :=
  match skipInline s with
  | [] => some []
  | '\r' :: '\n' :: r => some r
  | c :: r => if isEnd c then some r else none

/-- A text without the comment at its start. -/
def skipComment (s : List Char) : List Char :=
  match skipInline s with
  | '#' :: r => r.dropWhile fun c => !isEnd c
  | _ => s

/-- A text without the word "export" at its start. -/
def skipExport (s : List Char) : List Char :=
  match s with
  | 'e' :: 'x' :: 'p' :: 'o' :: 'r' :: 't' :: c :: r => if isInlineBlank c then skipInline r else s
  | _ => s

/-! ### Quotes -/

/-- What is before the closing quote, and what follows it.  A quote behind a backslash
does not close, unless no other does. -/
def upToQuote? (q : Char) : List Char → Option (List Char × List Char)
  | [] => none
  | '\\' :: c :: r =>
    if c == q then
      match upToQuote? q r with
      | some (a, b) => some ('\\' :: c :: a, b)
      | none => some (['\\'], r)
    else (upToQuote? q (c :: r)).map fun (a, b) => ('\\' :: a, b)
  | c :: r => if c == q then some ([], r) else (upToQuote? q r).map fun (a, b) => (c :: a, b)

/-- What a character behind a backslash stands for in single quotes. -/
def singleEscape? (c : Char) : Option Char := if c == '\\' || c == '\'' then some c else none

/-- What a character behind a backslash stands for in double quotes. -/
def doubleEscape? (c : Char) : Option Char :=
  match c with
  | '\\' | '\'' | '"' => some c
  | 'a' => some '\x07'
  | 'b' => some '\x08'
  | 'f' => some '\x0c'
  | 'n' => some '\n'
  | 'r' => some '\r'
  | 't' => some '\t'
  | 'v' => some '\x0b'
  | _ => none

/-- A text with its escapes replaced by what they stand for. -/
def unescape (escape? : Char → Option Char) : List Char → List Char
  | [] => []
  | '\\' :: c :: r =>
    match escape? c with
    | some d => d :: unescape escape? r
    | none => '\\' :: unescape escape? (c :: r)
  | c :: r => c :: unescape escape? r

/-! ### Bindings -/

/-- The character can be part of a name without quotes. -/
def isNameChar (c : Char) : Bool := c != '=' && c != '#' && !isBlank c

/-- The name at the start of a text, and what follows it; a comment has no name. -/
def name? (s : List Char) : Option (Option (List Char) × List Char) :=
  match s with
  | '#' :: _ => some (none, s)
  | '\'' :: r =>
    match r.span (· != '\'') with
    | ([], _) => none
    | (_, []) => none
    | (n, _ :: t) => some (some n, t)
  | _ =>
    match s.span isNameChar with
    | ([], _) => none
    | (n, t) => some (some n, t)

/-- A value without quotes, up to a comment that follows a blank. -/
def beforeComment (afterBlank : Bool) : List Char → List Char
  | [] => []
  | c :: r => if afterBlank && c == '#' then [] else c :: beforeComment (isBlank c) r

/-- The value at the start of a text, and what follows it. -/
def value? (s : List Char) : Option (List Char × List Char) :=
  match s with
  | '\'' :: r => (upToQuote? '\'' r).map fun (a, t) => (unescape singleEscape? a, t)
  | '"' :: r => (upToQuote? '"' r).map fun (a, t) => (unescape doubleEscape? a, t)
  | _ =>
    let (line, t) := s.span fun c => !isEnd c
    some (stripRight (beforeComment false line), t)

/-- The value behind an equals sign, if there is one, and what follows. -/
def assigned? (s : List Char) : Option (Option (List Char) × List Char) :=
  match s with
  | '=' :: r => (value? (skipInline r)).map fun (v, t) => (some v, t)
  | _ => some (none, s)

/-- A binding without a name binds nothing. -/
def bindingOf (name value : Option (List Char)) : Option Binding :=
  name.map fun n => ⟨String.ofList n, value.map String.ofList⟩

/-- The binding at the start of a text, if it is one, and what follows it. -/
def binding (s : List Char) : Option Binding × List Char :=
  let s := skipExport s
  match name? s with
  | none => (none, skipLine s)
  | some (name, t) =>
    let t := skipInline t
    match assigned? t with
    | none => (none, skipLine t)
    | some (value, u) =>
      let u := skipComment u
      match atEnd? u with
      | some rest => (bindingOf name value, rest)
      | none => (none, skipLine u)

/-- The bindings of a text.  Each takes a character at least, so their number is fuel
enough. -/
def bindingsFrom : Nat → List Char → List Binding
  | 0, _ => []
  | fuel + 1, s =>
    match s.dropWhile isBlank with
    | [] => []
    | t =>
      match binding t with
      | (some b, rest) => b :: bindingsFrom fuel rest
      | (none, rest) => bindingsFrom fuel rest

/-- The bindings of a text. -/
def bindings (s : List Char) : List Binding := bindingsFrom s.length s

/-! ### Variables in values -/

/-- A variable that a value names, and its default. -/
structure Variable where
  name : List Char
  dflt : List Char
  deriving DecidableEq, Repr

/-- The variable at the start of a text behind the opening brace, and what follows the
closing one. -/
def openVariable? (s : List Char) : Option (Variable × List Char) :=
  match s.span fun c => c != '\x7d' && c != ':' with
  | (n, '\x7d' :: r) => some (⟨n, []⟩, r)
  | (n, ':' :: '-' :: r) =>
    match r.span (· != '\x7d') with
    | (d, _ :: t) => some (⟨n, d⟩, t)
    | (_, []) => none
  | _ => none

/-- A value with its variables replaced.  Every step takes a character, so the length is
fuel enough. -/
def substituteFrom (look : Variable → List Char) : Nat → List Char → List Char
  | 0, s => s
  | _, [] => []
  | fuel + 1, c :: r =>
    match c, r with
    | '$', '\x7b' :: t =>
      match openVariable? t with
      | some (v, rest) => look v ++ substituteFrom look fuel rest
      | none => c :: substituteFrom look fuel r
    | _, _ => c :: substituteFrom look fuel r

/-- What a variable stands for, where some names are bound and the environment has
others. -/
def lookUp (environment : List (String × String)) (bound : List Binding) (v : Variable) :
    List Char :=
  let name := String.ofList v.name
  match bound.find? fun b => b.name == name with
  | some b => (b.value.getD "").toList
  | none =>
    match environment.find? fun e => e.1 == name with
    | some e => e.2.toList
    | none => v.dflt

/-- Bindings with one more: in place if its name is bound, at the end otherwise. -/
def rebind (b : Binding) : List Binding → List Binding
  | [] => [b]
  | c :: r => if c.name == b.name then b :: r else c :: rebind b r

/-- A binding with the variables of its value replaced. -/
def resolved (environment : List (String × String)) (bound : List Binding) (b : Binding) :
    Binding :=
  { b with value := b.value.map fun v =>
      String.ofList (substituteFrom (lookUp environment bound) v.length v.toList) }

/-- The bindings of a file, in the order in which names are first bound; of several for a
name the last one counts. -/
def read (environment : List (String × String)) (s : List Char) : List Binding :=
  (bindings s).foldl (fun bound b => rebind (resolved environment bound b) bound) []

end EnvFile

end TermRef
