/-
TermRef/Template/Datum.lean

What expressions of templates denote.

Besides the values of files there is the undefined, which prints as nothing; texts
that are marked as safe to print; and what expressions make on the way: ranges,
views of dictionaries, streams, routines, loops and objects with a state of their
own.
-/
import TermRef.Template.Syntax
import TermRef.Value.Show

namespace TermRef.Template

/-- Why rendering fails. -/
inductive Failure where
  /-- Something is asked of the undefined. -/
  | undefined
  /-- A value is of the wrong kind. -/
  | kind
  /-- A value is of the right kind, but cannot be used. -/
  | value
  /-- A call has the wrong arguments. -/
  | arguments
  /-- There is no filter or test of a name. -/
  | unknownName
  /-- A division by zero. -/
  | zeroDivision
  /-- Another template is taken over, and there is none. -/
  | noTemplate
  /-- Calls are nested too deeply. -/
  | tooDeep
  /-- A text, a list or a number would be too large. -/
  | tooLarge
  deriving DecidableEq, Repr

/-- The results of steps that can fail. -/
abbrev Result := Except Failure

/-- The functions that every template has. -/
inductive Builtin where
  | range
  | dict
  | cycler
  | joiner
  | namespace_
  | lipsum
  deriving DecidableEq, Repr

/-- What a view of a dictionary shows. -/
inductive ViewKind where
  | keys
  | values
  | items
  deriving DecidableEq, Repr

/-- A value in a template. -/
inductive Datum where
  | undefined
  /-- A value that is neither a text nor holds other values. -/
  | plain (v : Value)
  | text (s : String) (safe : Bool)
  | list (xs : List Datum)
  | tuple (xs : List Datum)
  | dict (es : List (Datum × Datum))
  | range (start stop step : Int)
  | stream (xs : List Datum)
  | view (kind : ViewKind) (xs : List Datum)
  /-- The members of a list that agree in a key. -/
  | group (key : Datum) (members : List Datum)
  | builtin (f : Builtin)
  | method (object : Datum) (name : String)
  | routine (name : String) (signature : Signature) (body : List Stmt)
      (scopes : List (List (String × Datum)))
  /-- A round of a loop; its body is there if the loop may call itself. -/
  | round (index : Nat) (items : List Datum) (depth cell : Nat)
      (again : Option (Target × Option Expr × List Stmt × List Stmt))
      (scopes : List (List (String × Datum)))
  /-- An object with a state. -/
  | object (cell : Nat)
  | blocks
  | blockCall (name : String)
  deriving Inhabited

/-- Names and what they denote. -/
abbrev Scope := List (String × Datum)

namespace Datum

/-! ### Making -/

/-- A text that is not marked. -/
def ofText (s : String) : Datum := .text s false

/-- A text that is not marked. -/
def ofChars (s : List Char) : Datum := .text (String.ofList s) false

/-- A whole number. -/
def ofInt (n : Int) : Datum := .plain (.int n)

/-- A whole number. -/
def ofNat (n : Nat) : Datum := .plain (.int n)

/-- A floating point number. -/
def ofFloat (x : Float) : Datum := .plain (.float x)

/-- A truth value. -/
def ofBool (b : Bool) : Datum := .plain (.bool b)

/-- Nothing. -/
def null : Datum := .plain .null

mutual

/-- A value of a file. -/
def ofValue : Value → Datum
  | .text s => .text s false
  | .list xs => .list (ofValues xs)
  | .tuple xs => .tuple (ofValues xs)
  | .mapping es => .dict (ofEntries es)
  | .null => .plain .null
  | .bool b => .plain (.bool b)
  | .int n => .plain (.int n)
  | .float x => .plain (.float x)
  | .bytes b => .plain (.bytes b)
  | .stamp t => .plain (.stamp t)
  | .set xs => .plain (.set xs)

/-- Values of a file. -/
def ofValues : List Value → List Datum
  | [] => []
  | x :: r => ofValue x :: ofValues r

/-- Entries of a file. -/
def ofEntries : List (Value × Value) → List (Datum × Datum)
  | [] => []
  | (k, v) :: r => (ofValue k, ofValue v) :: ofEntries r

end

/-! ### Members -/

/-- The number of members of a range. -/
def rangeLength (start stop step : Int) : Nat :=
  if 0 < step then ((stop - start + step - 1).fdiv step).toNat
  else if step < 0 then ((start - stop - step - 1).fdiv (-step)).toNat
  else 0

/-- The members of a range. -/
def rangeMembers (start stop step : Int) : List Datum :=
  (List.range (rangeLength start stop step)).map fun (i : Nat) => ofInt (start + step * i)

/-- What iterating over a value gives, whatever its length. -/
def members? : Datum → Option (List Datum)
  | .undefined => some []
  | .text s _ => some (s.toList.map fun c => ofChars [c])
  | .list xs => some xs
  | .tuple xs => some xs
  | .group k xs => some [k, .list xs]
  | .dict es => some (es.map (·.1))
  | .range a b c => some (rangeMembers a b c)
  | .stream xs => some xs
  | .view _ xs => some xs
  | .plain (.set xs) => some (ofValues xs)
  | .plain (.bytes b) => some (b.map fun x => ofNat x.toNat)
  | _ => none

/-- The greatest length of a text or a list that an operation gives. -/
def greatestLength : Nat := Nat.pow 2 28

/-- A length, unless it is too great. -/
def fitting (n : Nat) : Result Nat := if n ≤ greatestLength then .ok n else .error .tooLarge

/-- What iterating over a value gives; a value without members is refused. -/
def members (d : Datum) : Result (List Datum) :=
  match d, d.members? with
  | .range a b c, some xs => do
    let _ ← fitting (rangeLength a b c)
    pure xs
  | _, some xs => .ok xs
  | _, none => .error .kind

/-- The number of members, for values that have one. -/
def size? : Datum → Option Nat
  | .undefined => some 0
  | .text s _ => some s.length
  | .list xs => some xs.length
  | .tuple xs => some xs.length
  | .group _ _ => some 2
  | .dict es => some es.length
  | .range a b c => some (rangeLength a b c)
  | .view _ xs => some xs.length
  | .plain (.set xs) => some xs.length
  | .plain (.bytes b) => some b.length
  | .round _ xs _ _ _ _ => some xs.length
  | _ => none

/-! ### Texts -/

/-- The name of a view. -/
def viewName : ViewKind → String
  | .keys => "dict_keys"
  | .values => "dict_values"
  | .items => "dict_items"

/-- A function of every template, as text. -/
def builtinText : Builtin → String
  | .range => "<class 'range'>"
  | .dict => "<class 'dict'>"
  | .cycler => "<class 'cycler'>"
  | .joiner => "<class 'joiner'>"
  | .namespace_ => "<class 'namespace'>"
  | .lipsum => "<function lipsum>"

/-- Texts with commas between them. -/
def commas (xs : List String) : String := ", ".intercalate xs

mutual

/-- The text of a value inside another. -/
def quoted : Datum → String
  | .undefined => "Undefined"
  | .plain v => v.quoted
  | .text s safe => if safe then "Markup(" ++ Quoted.ofText s ++ ")" else Quoted.ofText s
  | .list xs => "[" ++ commas (quotedAll xs) ++ "]"
  | .tuple xs => "(" ++ commas (quotedAll xs) ++ (if xs.length = 1 then ",)" else ")")
  | .group k xs => "(" ++ commas [quoted k, "[" ++ commas (quotedAll xs) ++ "]"] ++ ")"
  | .dict es => "\x7b" ++ commas (quotedEntries es) ++ "\x7d"
  | .range a b c =>
    "range(" ++ commas ([toString a, toString b] ++ (if c = 1 then [] else [toString c])) ++ ")"
  | .stream _ => "<generator>"
  | .view kind xs => viewName kind ++ "([" ++ commas (quotedAll xs) ++ "])"
  | .builtin f => builtinText f
  | .method _ name => "<built-in method " ++ name ++ ">"
  | .routine name _ _ _ => "<Macro " ++ Quoted.ofText name ++ ">"
  | .round i xs _ _ _ _ => "<LoopContext " ++ toString (i + 1) ++ "/" ++ toString xs.length ++ ">"
  | .object _ => "<object>"
  | .blocks => "<TemplateReference None>"
  | .blockCall name => "<BlockReference " ++ Quoted.ofText name ++ ">"

/-- The texts of members. -/
def quotedAll : List Datum → List String
  | [] => []
  | x :: r => quoted x :: quotedAll r

/-- The texts of entries. -/
def quotedEntries : List (Datum × Datum) → List String
  | [] => []
  | (k, v) :: r => (quoted k ++ ": " ++ quoted v) :: quotedEntries r

end

/-- The text of a value on its own. -/
def shown : Datum → String
  | .undefined => ""
  | .plain v => v.shown
  | .text s _ => s
  | d => d.quoted

mutual

/-- All whole numbers in a value are short enough to be written. -/
def hasText : Datum → Bool
  | .plain v => v.hasText
  | .list xs => haveTexts xs
  | .tuple xs => haveTexts xs
  | .group k xs => hasText k && haveTexts xs
  | .dict es => entriesHaveTexts es
  | .range a b c => isShort a && isShort b && isShort c
  | .view _ xs => haveTexts xs
  | _ => true

/-- All members have a text. -/
def haveTexts : List Datum → Bool
  | [] => true
  | x :: r => hasText x && haveTexts r

/-- All entries have a text. -/
def entriesHaveTexts : List (Datum × Datum) → Bool
  | [] => true
  | (k, v) :: r => hasText k && hasText v && entriesHaveTexts r

end

/-- The text of a value on its own, which fails with a number that is too long. -/
def toText (d : Datum) : Result String := if d.hasText then .ok d.shown else .error .tooLarge

/-- The text of a value inside another, which fails with a number that is too long. -/
def toQuoted (d : Datum) : Result String := if d.hasText then .ok d.quoted else .error .tooLarge

/-- The text of a value, marked if the value is a marked text. -/
def softText : Datum → Result (String × Bool)
  | .text s safe => .ok (s, safe)
  | d => do pure (← d.toText, false)

/-! ### Truth -/

/-- Whether a value counts as true. -/
def isTrue : Datum → Bool
  | .undefined => false
  | .plain v => v.isTrue
  | .text s _ => !s.isEmpty
  | .list xs => !xs.isEmpty
  | .tuple xs => !xs.isEmpty
  | .dict es => !es.isEmpty
  | .range a b c => rangeLength a b c != 0
  | .view _ xs => !xs.isEmpty
  | _ => true

/-! ### Comparison -/

mutual

/-- Equality of values. -/
def same : Datum → Datum → Bool
  | .undefined, .undefined => true
  | .text a _, .text b _ => a == b
  | .plain a, .plain b => a.same b
  | .list a, .list b => sameAll a b
  | .tuple a, .tuple b => sameAll a b
  | .group k a, .group l b => same k l && sameAll a b
  | .group k a, .tuple [l, .list b] => same k l && sameAll a b
  | .tuple [k, .list a], .group l b => same k l && sameAll a b
  | .dict a, .dict b => a.length == b.length && within a b
  | .range a b c, .range d e f => a == d && b == e && c == f
  | .view .values _, _ => false
  | .view _ _, .view .values _ => false
  | .view _ a, .view _ b => a.length == b.length && allAmong a b
  | .object a, .object b => a == b
  | .builtin f, .builtin g => f == g
  | _, _ => false

/-- Equality of members, one by one. -/
def sameAll : List Datum → List Datum → Bool
  | [], [] => true
  | a :: r, b :: s => same a b && sameAll r s
  | _, _ => false

/-- Every value of the first list is in the second. -/
def allAmong : List Datum → List Datum → Bool
  | [], _ => true
  | a :: r, s => (s.any fun b => same a b) && allAmong r s

/-- Every entry of the first dictionary is in the second. -/
def within : List (Datum × Datum) → List (Datum × Datum) → Bool
  | [], _ => true
  | (k, v) :: r, s => (s.any fun e => same k e.1 && same v e.2) && within r s

end

mutual

/-- Whether a value may be a key. -/
def isKey : Datum → Bool
  | .list _ => false
  | .tuple xs => areKeys xs
  | .group _ _ => false
  | .dict _ => false
  | .plain (.set _) => false
  | .view .values _ => true
  | .view _ _ => false
  | _ => true

/-- All values may be keys. -/
def areKeys : List Datum → Bool
  | [] => true
  | x :: r => isKey x && areKeys r

end

/-- The value of a key of a dictionary. -/
def lookup? (es : List (Datum × Datum)) (k : Datum) : Option Datum :=
  (es.find? fun e => e.1.same k).map (·.2)

/-- A dictionary with one entry set. -/
def put (k v : Datum) : List (Datum × Datum) → List (Datum × Datum)
  | [] => [(k, v)]
  | (l, w) :: r => if l.same k then (l, v) :: r else (l, w) :: put k v r

end Datum

end TermRef.Template
