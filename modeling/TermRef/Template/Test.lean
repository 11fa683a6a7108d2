/-
TermRef/Template/Test.lean

Tests: what can be asked of a value after `is`.
-/
import TermRef.Template.Method

namespace TermRef.Template

/-- The names of the filters. -/
def filterNames : List String :=
  ["abs", "attr", "batch", "capitalize", "center", "count", "d", "default", "dictsort", "e",
    "escape", "filesizeformat", "first", "float", "forceescape", "format", "groupby", "indent",
    "int", "items", "join", "last", "length", "list", "lower", "map", "max", "min", "pprint",
    "random", "reject", "rejectattr", "replace", "reverse", "round", "safe", "select",
    "selectattr", "slice", "sort", "string", "striptags", "sum", "title", "tojson", "trim",
    "truncate", "unique", "upper", "urlencode", "urlize", "wordcount", "wordwrap", "xmlattr"]

/-- The names of the tests. -/
def testNames : List String :=
  ["odd", "even", "divisibleby", "defined", "undefined", "filter", "test", "none", "boolean",
    "false", "true", "integer", "float", "lower", "upper", "string", "mapping", "number",
    "sequence", "iterable", "callable", "sameas", "escaped", "in", "==", "eq", "equalto", "!=",
    "ne", ">", "gt", "greaterthan", "ge", ">=", "<", "lt", "lessthan", "<=", "le"]

/-- The test compares with its argument. -/
def comparisonTest? (name : String) : Option CompareOp :=
  match name with
  | "==" | "eq" | "equalto" => some .eq
  | "!=" | "ne" => some .ne
  | ">" | "gt" | "greaterthan" => some .gt
  | ">=" | "ge" => some .ge
  | "<" | "lt" | "lessthan" => some .lt
  | "<=" | "le" => some .le
  | "in" => some .isIn
  | _ => none

/-- A comparison of two values. -/
def compareData (op : CompareOp) (a b : Datum) : Result Bool :=
  match op with
  | .eq => .ok (a.same b)
  | .ne => .ok !(a.same b)
  | .lt => a.less false b
  | .le => a.less true b
  | .gt => b.less false a
  | .ge => b.less true a
  | .isIn => a.isIn b
  | .notIn => do pure !(← a.isIn b)

/-- The remainder of a value equals a number. -/
def hasRem (d by_ : Datum) (n : Int) : Result Bool := do
  let r ← Datum.onNumbers Number.rem d by_
  pure (r.same (.ofInt n))

/-- Two values are one. -/
def sameObject : Datum → Datum → Bool
  | .plain a, .plain b => a.quoted == b.quoted
  | a, b => a.same b

/-- A value may be called. -/
def isCallable : Datum → Bool
  | .undefined => true
  | .builtin _ => true
  | .method _ _ => true
  | .routine _ _ _ _ => true
  | .round _ _ _ _ _ _ => true
  | .blockCall _ => true
  | _ => false

/-- A value has members by position or key, and a number of them. -/
def isSequence (d : Datum) : Bool :=
  match d with
  | .view _ _ => false
  | .plain (.set _) => false
  | .round _ _ _ _ _ _ => false
  | d => d.size?.isSome

/-- A test without arguments. -/
def plainTest? (name : String) : Option (Datum → Result Bool) :=
  match name with
  | "odd" => some fun d => hasRem d (.ofInt 2) 1
  | "even" => some fun d => hasRem d (.ofInt 2) 0
  | "defined" => some fun d => .ok !(d matches .undefined)
  | "undefined" => some fun d => .ok (d matches .undefined)
  | "filter" => some fun d => .ok (filterNames.contains d.shown)
  | "test" => some fun d => .ok (testNames.contains d.shown)
  | "none" => some fun d => .ok (d matches .plain .null)
  | "boolean" => some fun d => .ok (d matches .plain (.bool _))
  | "false" => some fun d => .ok (d matches .plain (.bool false))
  | "true" => some fun d => .ok (d matches .plain (.bool true))
  | "integer" => some fun d => .ok (d matches .plain (.int _))
  | "float" => some fun d => .ok (d matches .plain (.float _))
  | "lower" => some fun d => do pure (TextMethod.allCased Unicode.isLower (← d.toText).toList)
  | "upper" => some fun d => do pure (TextMethod.allCased Unicode.isUpper (← d.toText).toList)
  | "string" => some fun d => .ok (d matches .text _ _)
  | "mapping" => some fun d => .ok (d matches .dict _)
  | "number" => some fun d => .ok d.number?.isSome
  | "sequence" => some fun d => .ok (isSequence d)
  | "iterable" => some fun d => .ok d.members?.isSome
  | "callable" => some fun d => .ok (isCallable d)
  | "escaped" => some fun d => .ok (d matches .text _ true)
  | _ => none

/-- Applies a test to a value. -/
def applyTest (name : String) (d : Datum) (a : Args) : Result Bool :=
  match plainTest? name, comparisonTest? name with
  | some test, _ =>
    if a.positional.isEmpty && a.named.isEmpty then test d else .error .arguments
  | none, some op => do
    match ← a.bind [if op == .isIn then "seq" else "b"] with
    | [some b] => compareData op d b
    | _ => throw .arguments
  | none, none =>
    match name with
    | "divisibleby" => do
      match ← a.bind ["num"] with
      | [some n] => hasRem d n 0
      | _ => throw .arguments
    | "sameas" => do
      match ← a.bind ["other"] with
      | [some b] => pure (sameObject d b)
      | _ => throw .arguments
    | _ => .error .unknownName

end TermRef.Template
