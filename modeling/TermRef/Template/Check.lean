/-
TermRef/Template/Check.lean

Checking templates before they are used, as far as their tokens, their statements and
the names in them go.  What else goes wrong when a template is translated before its use,
such as an argument given twice, a constant that cannot be computed or a number of more
digits than are read, shows here only when it is rendered, if at all.

Every filter and test has to have a known name, except where a condition decides
whether it is used at all; there an unknown name is met only when it is needed.
Blocks have different names, and what stands for the whole template may not be
inside a statement that has a scope of its own.
-/
import TermRef.Template.Reader.Statement
import TermRef.Template.Test

namespace TermRef.Template

/-! ### Names that are used -/

mutual

/-- An expression uses a name. -/
def Expr.mentions (n : String) : Expr → Bool
  | .const _ => false
  | .held => false
  | .name s => s == n
  | .list xs => mentionedIn n xs
  | .tuple xs => mentionedIn n xs
  | .dict es => mentionedInPairs n es
  | .cond t y e => t.mentions n || y.mentions n || mentionedInOption n e
  | .and a b => a.mentions n || b.mentions n
  | .or a b => a.mentions n || b.mentions n
  | .unary _ a => a.mentions n
  | .binary _ a b => a.mentions n || b.mentions n
  | .compare a rest => a.mentions n || mentionedInComparisons n rest
  | .concat xs => mentionedIn n xs
  | .attr a _ => a.mentions n
  | .item a i => a.mentions n || i.mentions n
  | .slice a b c => mentionedInOption n a || mentionedInOption n b || mentionedInOption n c
  | .call f args => f.mentions n || mentionedInArgs n args
  | .filter a _ args => a.mentions n || mentionedInArgs n args
  | .test a _ args => a.mentions n || mentionedInArgs n args

/-- Some expression uses a name. -/
def mentionedIn (n : String) : List Expr → Bool
  | [] => false
  | x :: r => x.mentions n || mentionedIn n r

/-- Some entry uses a name. -/
def mentionedInPairs (n : String) : List (Expr × Expr) → Bool
  | [] => false
  | (k, v) :: r => k.mentions n || v.mentions n || mentionedInPairs n r

/-- An expression that is there uses a name. -/
def mentionedInOption (n : String) : Option Expr → Bool
  | none => false
  | some x => x.mentions n

/-- Some operand uses a name. -/
def mentionedInComparisons (n : String) : List (CompareOp × Expr) → Bool
  | [] => false
  | (_, x) :: r => x.mentions n || mentionedInComparisons n r

/-- Some argument uses a name. -/
def mentionedInArgs (n : String) : List (Passing × Expr) → Bool
  | [] => false
  | (_, x) :: r => x.mentions n || mentionedInArgs n r

end

/-- Some binding uses a name. -/
def mentionedInBindings (n : String) : List (Target × Expr) → Bool
  | [] => false
  | (_, x) :: r => x.mentions n || mentionedInBindings n r

mutual

/-- A statement uses a name. -/
def Stmt.mentions (n : String) : Stmt → Bool
  | .text _ => false
  | .print xs => mentionedIn n xs
  | .loop _ through keep _ body other =>
    through.mentions n || mentionedInOption n keep || usedBy n body || usedBy n other
  | .branch test yes no => test.mentions n || usedBy n yes || usedBy n no
  | .assign _ e => e.mentions n
  | .capture _ f body => mentionedInOption n f || usedBy n body
  | .scoped bs body => mentionedInBindings n bs || usedBy n body
  | .filtered f body => f.mentions n || usedBy n body
  | .routine _ sig body => mentionedIn n sig.defaults || usedBy n body
  | .callWith sig e body => mentionedIn n sig.defaults || e.mentions n || usedBy n body
  | .block _ _ _ => false
  | .escaping e body => e.mentions n || usedBy n body
  | .load _ e => e.mentions n

/-- Some statement uses a name. -/
def usedBy (n : String) : List Stmt → Bool
  | [] => false
  | s :: r => s.mentions n || usedBy n r

end

/-! ### Blocks -/

mutual

/-- The blocks of a statement, with their names. -/
def Stmt.blocks : Stmt → List (String × List Stmt)
  | .loop _ _ _ _ body other => blocksOf body ++ blocksOf other
  | .branch _ yes no => blocksOf yes ++ blocksOf no
  | .capture _ _ body => blocksOf body
  | .scoped _ body => blocksOf body
  | .filtered _ body => blocksOf body
  | .routine _ _ body => blocksOf body
  | .callWith _ _ body => blocksOf body
  | .block name _ body => (name, body) :: blocksOf body
  | .escaping _ body => blocksOf body
  | .text _ => []
  | .print _ => []
  | .assign _ _ => []
  | .load _ _ => []

/-- The blocks of statements, with their names. -/
def blocksOf : List Stmt → List (String × List Stmt)
  | [] => []
  | s :: r => s.blocks ++ blocksOf r

end

/-- Every name is there once. -/
def distinctNames : List String → Bool
  | [] => true
  | n :: r => !r.contains n && distinctNames r

/-! ### Filters and tests -/

mutual

/-- The filters and tests of an expression are known; `soft` says that they may be
unknown. -/
def Expr.known (soft : Bool) : Expr → Bool
  | .const _ => true
  | .held => true
  | .name _ => true
  | .list xs => knownAll soft xs
  | .tuple xs => knownAll soft xs
  | .dict es => knownPairs soft es
  | .cond t y e => t.known true && y.known true && knownOption true e
  | .and a b => a.known soft && b.known soft
  | .or a b => a.known soft && b.known soft
  | .unary _ a => a.known soft
  | .binary _ a b => a.known soft && b.known soft
  | .compare a rest => a.known soft && knownComparisons soft rest
  | .concat xs => knownAll soft xs
  | .attr a _ => a.known soft
  | .item a i => a.known soft && i.known soft
  | .slice a b c => knownOption soft a && knownOption soft b && knownOption soft c
  | .call f args => f.known soft && knownArgs soft args
  | .filter a name args =>
    (soft || filterNames.contains name) && a.known soft && knownArgs soft args
  | .test a name args => (soft || testNames.contains name) && a.known soft && knownArgs soft args

/-- The same of several expressions. -/
def knownAll (soft : Bool) : List Expr → Bool
  | [] => true
  | x :: r => x.known soft && knownAll soft r

/-- The same of entries. -/
def knownPairs (soft : Bool) : List (Expr × Expr) → Bool
  | [] => true
  | (k, v) :: r => k.known soft && v.known soft && knownPairs soft r

/-- The same of an expression that may be left out. -/
def knownOption (soft : Bool) : Option Expr → Bool
  | none => true
  | some x => x.known soft

/-- The same of the operands of comparisons. -/
def knownComparisons (soft : Bool) : List (CompareOp × Expr) → Bool
  | [] => true
  | (_, x) :: r => x.known soft && knownComparisons soft r

/-- The same of arguments. -/
def knownArgs (soft : Bool) : List (Passing × Expr) → Bool
  | [] => true
  | (_, x) :: r => x.known soft && knownArgs soft r

end

/-- The same of bindings. -/
def knownBindings (soft : Bool) : List (Target × Expr) → Bool
  | [] => true
  | (_, x) :: r => x.known soft && knownBindings soft r

/-! ### Statements -/

mutual

/-- A statement may be used; `top` says that it is outside of all scopes, `soft` that
a condition decides whether it is carried out. -/
def Stmt.usable (top soft : Bool) : Stmt → Bool
  | .text _ => true
  | .print xs => knownAll soft xs
  | .loop _ through keep _ body other =>
    through.known soft && knownOption false keep && usableAll false false body &&
      usableAll false false other
  | .branch test yes no => test.known true && usableAll top true yes && usableAll top true no
  | .assign _ e => e.known soft
  | .capture _ f body => knownOption false f && usableAll false false body
  | .scoped bs body => knownBindings soft bs && usableAll false false body
  | .filtered f body => f.known false && usableAll false false body
  | .routine _ sig body => knownAll false sig.defaults && usableAll false false body
  | .callWith sig e body =>
    knownAll false sig.defaults && e.known soft && usableAll false false body
  | .block _ _ body => usableAll false false body
  | .escaping e body => e.known false && usableAll false false body
  | .load whole e => e.known soft && (top || !whole)

/-- Statements may be used. -/
def usableAll (top soft : Bool) : List Stmt → Bool
  | [] => true
  | s :: r => s.usable top soft && usableAll top soft r

end

end TermRef.Template

namespace TermRef

/-- A template. -/
structure Template where
  body : List Template.Stmt

namespace Template

/-- The blocks of a template, with their names. -/
def blocks (t : Template) : List (String × List Stmt) := blocksOf t.body

/-- The template that a text writes. -/
def ofText (s : String) : Except Malformed Template := do
  let body ← readStmts s.toList
  if usableAll true false body && distinctNames ((blocksOf body).map (·.1)) then pure ⟨body⟩
  else throw .malformed

end Template

end TermRef
