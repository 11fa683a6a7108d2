/-
TermRef/Value/Check.lean

Checking values: either the value is what it should be, or all that is wrong with it.

A check of a part does not end the check of the whole.  The problems of all parts
are collected, in the order in which the parts are declared, and each problem
says where in the value it is.

Where a text is wanted as a tag, a number stands for its text, if it is short
enough to have one.  Where a list of tags is wanted, a single tag stands for the
list of it and nothing for the empty list; a number without a text is then a flaw
of the list as a whole.
-/
import TermRef.Value.Show
import TermRef.Text.Utf8

namespace TermRef

/-! ### Problems -/

/-- A step into a value: the name of an entry, or the number of a member. -/
inductive Step where
  | name (s : String)
  | index (i : Int)
  deriving DecidableEq, Repr

/-- What can be wrong with a value. -/
inductive Flaw where
  /-- There is no value. -/
  | missing
  /-- It is no text. -/
  | notText
  /-- It is a text with too few characters. -/
  | tooShort
  /-- It is bytes that denote no text. -/
  | notUnicode
  /-- It is no list. -/
  | notList
  /-- It is no mapping. -/
  | notMapping
  /-- It is no path. -/
  | notPath
  /-- It is a mapping with a key that is no text. -/
  | badKey
  /-- It is a number that is too long to be written, or a list with one in it. -/
  | tooLong
  deriving DecidableEq, Repr

/-- The name of a flaw. -/
def Flaw.name : Flaw → String
  | .missing => "missing"
  | .notText => "string_type"
  | .tooShort => "string_too_short"
  | .notUnicode => "string_unicode"
  | .notList => "list_type"
  | .notMapping => "model_type"
  | .notPath => "path_type"
  | .badKey => "invalid_key"
  | .tooLong => "value_error"

/-- A flaw, and the way into the value to where it is. -/
structure Problem where
  path : List Step
  flaw : Flaw
  deriving DecidableEq, Repr

/-! ### Checks -/

/-- The result of a check. -/
inductive Checked (α : Type) where
  | good (a : α)
  | bad (ps : List Problem)
  deriving Repr

namespace Checked

/-- Both checks; the problems of the first come first. -/
def both {α β : Type} : Checked (α → β) → Checked α → Checked β
  | .good f, .good a => .good (f a)
  | .good _, .bad ps => .bad ps
  | .bad ps, .good _ => .bad ps
  | .bad ps, .bad qs => .bad (ps ++ qs)

instance : Applicative Checked where
  pure := .good
  seq f a := both f (a ())

/-- A single flaw in the value itself. -/
def flaw {α : Type} (f : Flaw) : Checked α := .bad [⟨[], f⟩]

/-- The check of a part, as part of the whole. -/
def under {α : Type} (s : Step) : Checked α → Checked α
  | .good a => .good a
  | .bad ps => .bad (ps.map fun p => { p with path := s :: p.path })

/-- A check of what an earlier check has made. -/
def andThen {α β : Type} (f : α → Checked β) : Checked α → Checked β
  | .good a => f a
  | .bad ps => .bad ps

end Checked

open Checked

namespace Value

/-! ### Texts -/

/-- A text; bytes are read as UTF-8. -/
def text? : Value → Checked String
  | .text s => .good s
  | .bytes b =>
    match Utf8.decode b with
    | .ok s => .good (String.ofList s)
    | .error _ => flaw .notUnicode
  | _ => flaw .notText

/-- A text of one character at least. -/
def filled? (v : Value) : Checked String :=
  v.text?.andThen fun s => if s.isEmpty then flaw .tooShort else .good s

/-- A number is replaced by its text. -/
def asTag : Value → Checked Value
  | .int n => if isShort n then .good (.text (Value.int n).shown) else flaw .tooLong
  | .float x => .good (.text (Value.float x).shown)
  | v => .good v

/-- A text or a number. -/
def tag? (v : Value) : Checked String := v.asTag.andThen text?

/-- A text of one character at least, or a number. -/
def filledTag? (v : Value) : Checked String := v.asTag.andThen filled?

/-- What may be absent. -/
def optional? {α : Type} (f : Value → Checked α) : Value → Checked (Option α)
  | .null => .good none
  | v => some <$> f v

/-! ### Lists -/

/-- Checks members, the first of which has number `i`. -/
def membersFrom {α : Type} (f : Value → Checked α) : Nat → List Value → Checked (List α)
  | _, [] => .good []
  | i, x :: r => List.cons <$> (f x).under (.index i) <*> membersFrom f (i + 1) r

/-- A list of checked members. -/
def list? {α : Type} (f : Value → Checked α) : Value → Checked (List α)
  | .list xs => membersFrom f 0 xs
  | .tuple xs => membersFrom f 0 xs
  | .set xs => membersFrom f 0 xs
  | _ => flaw .notList

/-- Nothing is replaced by the empty list. -/
def nullAsList : Value → Value
  | .null => .list []
  | v => v

/-- What stands for a list of tags is replaced by it. -/
def asTagList : Value → Value
  | .null => .list []
  | .text s => .list [.text s]
  | .int n => .list [.int n]
  | .float x => .list [.float x]
  | .bool b => .list [.bool b]
  | v => v

/-- The numbers in a list are replaced by their texts; the first that has none is a flaw. -/
def eachAsTag : List Value → Checked (List Value)
  | [] => .good []
  | x :: r => x.asTag.andThen fun y => List.cons y <$> eachAsTag r

/-- What stands for a list of tags is replaced by it, and the numbers in it by their texts. -/
def asTags (v : Value) : Checked Value :=
  match v.asTagList with
  | .list xs => Value.list <$> eachAsTag xs
  | w => .good w

/-- A list of tags. -/
def tags? (v : Value) : Checked (List String) := v.asTags.andThen (list? text?)

/-! ### Mappings -/

/-- A mapping. -/
def entries? : Value → Checked Entries
  | .mapping es => .good es
  | _ => flaw .notMapping

/-- A mapping, checked as a whole. -/
def record? {α : Type} (f : Entries → Checked α) (v : Value) : Checked α :=
  v.entries?.andThen f

/-- A key as a step. -/
def keyStep : Value → Step
  | .text s => .name s
  | .bool b => .index (if b then 1 else 0)
  | .int n =>
    if -(Nat.pow 2 63 : Nat) ≤ n ∧ n < (Nat.pow 2 63 : Nat) then .index n
    else .name (if isShort n then (Value.int n).quoted else "<unprintable int object>")
  | v => .name v.quoted

end Value

namespace Entries

/-- The value of an entry that has to be there. -/
def required {α : Type} (es : Entries) (name : String) (f : Value → Checked α) : Checked α :=
  match es.field? name with
  | some v => (f v).under (.name name)
  | none => (flaw .missing : Checked α).under (.name name)

/-- The value of an entry that may be left out. -/
def optional {α : Type} (es : Entries) (name : String) (dflt : α) (f : Value → Checked α) :
    Checked α :=
  match es.field? name with
  | some v => (f v).under (.name name)
  | none => .good dflt

/-- The first of two names that there is an entry for, the first name if for none. -/
def nameOf (es : Entries) (name other : String) : String :=
  if (es.field? name).isNone && (es.field? other).isSome then other else name

/-- The entries besides those with the given names.  All keys have to be texts. -/
def others (known : List String) : Entries → Checked Entries
  | [] => .good []
  | (k, v) :: r =>
    match k with
    | .text s =>
      if known.contains s then others known r
      else List.cons (k, v) <$> others known r
    | _ =>
      both ((fun _ es => es) <$> (flaw .badKey : Checked Unit).under k.keyStep) (others known r)

end Entries

/-! ### Values again -/

/-- A text as a value. -/
def Value.ofOption : Option String → Value
  | none => .null
  | some s => .text s

/-- Texts as a value. -/
def Value.ofTexts (xs : List String) : Value := .list (xs.map .text)

end TermRef
