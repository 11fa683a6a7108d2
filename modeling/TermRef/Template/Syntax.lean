/-
TermRef/Template/Syntax.lean

Templates.

A template is text with expressions to be printed and statements to be carried
out.  Statements hold templates of their own, as the body of a loop does.
-/
import TermRef.Value.Basic

namespace TermRef.Template

/-! ### Expressions -/

/-- Operations on two values. -/
inductive BinaryOp where
  | add
  | sub
  | mul
  | div
  | floorDiv
  | rem
  | pow
  deriving DecidableEq, Repr

/-- Operations on one value. -/
inductive UnaryOp where
  | neg
  | pos
  | not
  deriving DecidableEq, Repr

/-- Comparisons. -/
inductive CompareOp where
  | eq
  | ne
  | lt
  | le
  | gt
  | ge
  | isIn
  | notIn
  deriving DecidableEq, Repr

/-- The ways to pass an argument: by position, by name, or many at once. -/
inductive Passing where
  | position
  | named (name : String)
  | spread
  | spreadNamed
  deriving DecidableEq, Repr

/-- Expressions. -/
inductive Expr where
  | const (v : Value)
  | name (s : String)
  /-- The text that the enclosing filter statement holds. -/
  | held
  | list (xs : List Expr)
  | tuple (xs : List Expr)
  | dict (es : List (Expr × Expr))
  | cond (test yes : Expr) (no : Option Expr)
  | and (a b : Expr)
  | or (a b : Expr)
  | unary (op : UnaryOp) (a : Expr)
  | binary (op : BinaryOp) (a b : Expr)
  | compare (a : Expr) (rest : List (CompareOp × Expr))
  | concat (xs : List Expr)
  | attr (a : Expr) (name : String)
  | item (a i : Expr)
  /-- A range of positions, as an index. -/
  | slice (start stop step : Option Expr)
  | call (f : Expr) (args : List (Passing × Expr))
  | filter (a : Expr) (name : String) (args : List (Passing × Expr))
  | test (a : Expr) (name : String) (args : List (Passing × Expr))
  deriving Inhabited

/-! ### Statements -/

/-- What a value is assigned to. -/
inductive Target where
  | name (s : String)
  | member (object field : String)
  | tuple (ts : List Target)
  deriving Inhabited

/-- The parameters of a routine; the last ones may have defaults. -/
structure Signature where
  params : List String
  defaults : List Expr
  deriving Inhabited

/-- Statements. -/
inductive Stmt where
  | text (s : String)
  | print (xs : List Expr)
  | loop (target : Target) (through : Expr) (keep : Option Expr) (again : Bool)
      (body other : List Stmt)
  | branch (test : Expr) (yes no : List Stmt)
  | assign (target : Target) (e : Expr)
  /-- Assigns the text of the body, possibly filtered. -/
  | capture (target : Target) (filter : Option Expr) (body : List Stmt)
  | scoped (bindings : List (Target × Expr)) (body : List Stmt)
  | filtered (filter : Expr) (body : List Stmt)
  | routine (name : String) (signature : Signature) (body : List Stmt)
  /-- A call whose routine may call the body in turn. -/
  | callWith (signature : Signature) (call : Expr) (body : List Stmt)
  | block (name : String) (open_ : Bool) (body : List Stmt)
  | escaping (on : Expr) (body : List Stmt)
  /-- Takes over another template; `whole` says that it stands for this one. -/
  | load (whole : Bool) (source : Expr)
  deriving Inhabited

end TermRef.Template
