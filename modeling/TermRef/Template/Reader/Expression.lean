/-
TermRef/Template/Reader/Expression.lean

Reading the expressions of templates.

Operators bind, from the loosest to the tightest: a condition, `or`, `and`, `not`,
comparisons, sums, concatenation, products, powers, signs.  What follows an operand
directly (a field, an index, a call, a filter, a test) binds tightest of all, and
operators of one level group to the left.

Reading goes by recursion on a bound for its depth.  Every token adds a bounded
number of levels, so the bound computed from the tokens is never met.
-/
import TermRef.Template.Syntax
import TermRef.Template.Token

namespace TermRef.Template

/-- A step of reading tokens. -/
abbrev Read := StateT (List Token) (Except Malformed)

namespace Read

/-! ### Tokens -/

/-- Refuses the template. -/
def refuse {α : Type} : Read α := throw .malformed

/-- The next token, which stays. -/
def peek : Read (Option Token) := do
  let ts ← get
  pure ts.head?

/-- The token after the next. -/
def peekSecond : Read (Option Token) := do
  let ts ← get
  pure (ts.drop 1).head?

/-- Passes over a token. -/
def skip : Read Unit := modify (·.drop 1)

/-- The token is the given sign. -/
def isSign (s : String) : Option Token → Bool
  | some (.sign t) => t == s
  | _ => false

/-- The token is the given name. -/
def isName (s : String) : Option Token → Bool
  | some (.name t) => t == s
  | _ => false

/-- The token ends a statement. -/
def isTagEnd : Option Token → Bool
  | some .tagEnd => true
  | _ => false

/-- Takes a sign if it comes next. -/
def acceptSign (s : String) : Read Bool := do
  let t ← peek
  if isSign s t then skip
  pure (isSign s t)

/-- Takes a name if it comes next. -/
def acceptName (s : String) : Read Bool := do
  let t ← peek
  if isName s t then skip
  pure (isName s t)

/-- Takes a sign, which has to come next. -/
def sign (s : String) : Read Unit := do
  if !(← acceptSign s) then refuse

/-- Takes a name, which has to come next. -/
def keyword (s : String) : Read Unit := do
  if !(← acceptName s) then refuse

/-- Takes any name. -/
def name : Read String := do
  match ← peek with
  | some (.name s) => skip; pure s
  | _ => refuse

/-- Takes the end of a statement. -/
def tagEnd : Read Unit := do
  if isTagEnd (← peek) then skip else refuse

/-! ### Expressions -/

/-- Names that denote a value. -/
def constant? (s : String) : Option Value :=
  if s == "true" || s == "True" then some (.bool true)
  else if s == "false" || s == "False" then some (.bool false)
  else if s == "none" || s == "None" then some .null
  else none

/-- The sign of a comparison. -/
def comparison? : Option Token → Option CompareOp
  | some (.sign "==") => some .eq
  | some (.sign "!=") => some .ne
  | some (.sign "<") => some .lt
  | some (.sign "<=") => some .le
  | some (.sign ">") => some .gt
  | some (.sign ">=") => some .ge
  | _ => none

/-- The sign of a sum. -/
def sumOp? : Option Token → Option BinaryOp
  | some (.sign "+") => some .add
  | some (.sign "-") => some .sub
  | _ => none

/-- The sign of a product. -/
def productOp? : Option Token → Option BinaryOp
  | some (.sign "*") => some .mul
  | some (.sign "/") => some .div
  | some (.sign "//") => some .floorDiv
  | some (.sign "%") => some .rem
  | _ => none

/-- The sign of a power. -/
def powerOp? : Option Token → Option BinaryOp
  | some (.sign "**") => some .pow
  | _ => none

/-- The texts that follow a text; they are one with it. -/
def moreText : List Token → String × List Token
  | .text s :: r => let (t, rest) := moreText r; (s ++ t, rest)
  | ts => ("", ts)

/-- The tokens after which no tuple goes on. -/
def endsTuple (ends : List String) : Option Token → Bool
  | some .printEnd => true
  | some .tagEnd => true
  | some (.sign s) => s == ")"
  | some (.name s) => ends.contains s
  | _ => false

/-- A name with more names after points. -/
def dottedRest : Nat → String → Read String
  | 0, s => pure s
  | f + 1, s => do
    if ← acceptSign "." then
      let t ← name
      dottedRest f (s ++ "." ++ t)
    else pure s

/-- A name, possibly with points. -/
def dotted : Read String := do
  let s ← name
  let ts ← get
  dottedRest ts.length s

/-- The token may begin the only argument of a test. -/
def beginsArgument : Option Token → Bool
  | some (.name s) => s != "else" && s != "or" && s != "and"
  | some (.text _) => true
  | some (.int _) => true
  | some (.float _) => true
  | some (.sign s) => s == "(" || s == "[" || s == "\x7b"
  | _ => false

/-- How arguments have been passed so far, for what may follow. -/
structure Passed where
  named : Bool := false
  spread : Bool := false
  spreadNamed : Bool := false

mutual

/-- An expression; `conditions` says that it may have a condition. -/
def expr : Nat → Bool → Read Expr
  | 0, _ => refuse
  | f + 1, conditions => do
    let e ← disjunction f
    if conditions then conditionRest f e else pure e

/-- The conditions after an expression. -/
def conditionRest : Nat → Expr → Read Expr
  | 0, _ => refuse
  | f + 1, e => do
    if ← acceptName "if" then
      let test ← disjunction f
      if ← acceptName "else" then
        let no ← expr f true
        conditionRest f (.cond test e (some no))
      else conditionRest f (.cond test e none)
    else pure e

/-- Operands joined by `or`. -/
def disjunction : Nat → Read Expr
  | 0 => refuse
  | f + 1 => do
    let e ← conjunction f
    disjunctionRest f e

/-- More operands joined by `or`. -/
def disjunctionRest : Nat → Expr → Read Expr
  | 0, _ => refuse
  | f + 1, e => do
    if ← acceptName "or" then
      let b ← conjunction f
      disjunctionRest f (.or e b)
    else pure e

/-- Operands joined by `and`. -/
def conjunction : Nat → Read Expr
  | 0 => refuse
  | f + 1 => do
    let e ← negation f
    conjunctionRest f e

/-- More operands joined by `and`. -/
def conjunctionRest : Nat → Expr → Read Expr
  | 0, _ => refuse
  | f + 1, e => do
    if ← acceptName "and" then
      let b ← negation f
      conjunctionRest f (.and e b)
    else pure e

/-- A comparison, possibly negated. -/
def negation : Nat → Read Expr
  | 0 => refuse
  | f + 1 => do
    if ← acceptName "not" then
      let e ← negation f
      pure (.unary .not e)
    else
      let e ← sum f
      let rest ← comparisons f []
      pure (if rest.isEmpty then e else .compare e rest)

/-- The comparisons after an operand. -/
def comparisons : Nat → List (CompareOp × Expr) → Read (List (CompareOp × Expr))
  | 0, _ => refuse
  | f + 1, done => do
    let t ← peek
    let u ← peekSecond
    match comparison? t with
    | some op =>
      skip
      let e ← sum f
      comparisons f (done ++ [(op, e)])
    | none =>
      if isName "in" t then
        skip
        let e ← sum f
        comparisons f (done ++ [(.isIn, e)])
      else if isName "not" t && isName "in" u then
        skip
        skip
        let e ← sum f
        comparisons f (done ++ [(.notIn, e)])
      else pure done

/-- A sum. -/
def sum : Nat → Read Expr
  | 0 => refuse
  | f + 1 => do
    let e ← concatenation f
    sumRest f e

/-- More summands. -/
def sumRest : Nat → Expr → Read Expr
  | 0, _ => refuse
  | f + 1, e => do
    match sumOp? (← peek) with
    | some op =>
      skip
      let b ← concatenation f
      sumRest f (.binary op e b)
    | none => pure e

/-- A concatenation. -/
def concatenation : Nat → Read Expr
  | 0 => refuse
  | f + 1 => do
    let e ← product f
    let more ← concatenated f []
    pure (if more.isEmpty then e else .concat (e :: more))

/-- More members of a concatenation. -/
def concatenated : Nat → List Expr → Read (List Expr)
  | 0, _ => refuse
  | f + 1, done => do
    if ← acceptSign "~" then
      let e ← product f
      concatenated f (done ++ [e])
    else pure done

/-- A product. -/
def product : Nat → Read Expr
  | 0 => refuse
  | f + 1 => do
    let e ← power f
    productRest f e

/-- More factors. -/
def productRest : Nat → Expr → Read Expr
  | 0, _ => refuse
  | f + 1, e => do
    match productOp? (← peek) with
    | some op =>
      skip
      let b ← power f
      productRest f (.binary op e b)
    | none => pure e

/-- A power. -/
def power : Nat → Read Expr
  | 0 => refuse
  | f + 1 => do
    let e ← operand f true
    powerRest f e

/-- More exponents. -/
def powerRest : Nat → Expr → Read Expr
  | 0, _ => refuse
  | f + 1, e => do
    match powerOp? (← peek) with
    | some op =>
      skip
      let b ← operand f true
      powerRest f (.binary op e b)
    | none => pure e

/-- An operand with what follows it directly; `filters` says that this may be a
filter or a test. -/
def operand : Nat → Bool → Read Expr
  | 0, _ => refuse
  | f + 1, filters => do
    let e ← signed f
    let e ← postfixed f e
    if filters then filteredRest f e else pure e

/-- A primary expression, possibly with a sign. -/
def signed : Nat → Read Expr
  | 0 => refuse
  | f + 1 => do
    if ← acceptSign "-" then
      let e ← operand f false
      pure (.unary .neg e)
    else if ← acceptSign "+" then
      let e ← operand f false
      pure (.unary .pos e)
    else primary f

/-- The fields, indices and calls after an expression. -/
def postfixed : Nat → Expr → Read Expr
  | 0, _ => refuse
  | f + 1, e => do
    if ← acceptSign "." then
      match ← peek with
      | some (.name s) => skip; postfixed f (.attr e s)
      | some (.int n) => skip; postfixed f (.item e (.const (.int n)))
      | _ => refuse
    else if ← acceptSign "[" then
      let is ← indices f []
      sign "]"
      postfixed f (.item e (match is with
        | [i] => i
        | is => .tuple is))
    else if isSign "(" (← peek) then
      let args ← arguments f
      postfixed f (.call e args)
    else pure e

/-- The filters, tests and calls after an expression. -/
def filteredRest : Nat → Expr → Read Expr
  | 0, _ => refuse
  | f + 1, e => do
    let t ← peek
    if isSign "|" t then
      skip
      let e ← useFilter f e
      filteredRest f e
    else if isName "is" t then
      skip
      let e ← useTest f e
      filteredRest f e
    else if isSign "(" t then
      let args ← arguments f
      filteredRest f (.call e args)
    else pure e

/-- A filter applied to an expression, read from its name on. -/
def useFilter : Nat → Expr → Read Expr
  | 0, _ => refuse
  | f + 1, e => do
    let filterName ← dotted
    if isSign "(" (← peek) then
      let args ← arguments f
      pure (.filter e filterName args)
    else pure (.filter e filterName [])

/-- A test applied to an expression, read from what follows `is`. -/
def useTest : Nat → Expr → Read Expr
  | 0, _ => refuse
  | f + 1, e => do
    let negated ← acceptName "not"
    let testName ← dotted
    let t ← peek
    let args ←
      if isSign "(" t then arguments f
      else if beginsArgument t then
        if isName "is" t then refuse
        else do
          let a ← primary f
          let a ← postfixed f a
          pure [(.position, a)]
      else pure []
    let test := Expr.test e testName args
    pure (if negated then .unary .not test else test)

/-- A name, a value, or an expression in brackets. -/
def primary : Nat → Read Expr
  | 0 => refuse
  | f + 1 => do
    match ← peek with
    | some (.name s) =>
      skip
      pure (match constant? s with
        | some v => .const v
        | none => .name s)
    | some (.text s) =>
      skip
      let ts ← get
      let (t, rest) := moreText ts
      set rest
      pure (.const (.text (s ++ t)))
    | some (.int n) => skip; pure (.const (.int n))
    | some (.float x) => skip; pure (.const (.float x))
    | some (.sign "(") =>
      skip
      let e ← tupleOf f true true []
      sign ")"
      pure e
    | some (.sign "[") =>
      skip
      let xs ← members f []
      sign "]"
      pure (.list xs)
    | some (.sign "\x7b") =>
      skip
      let es ← dictEntries f []
      sign "\x7d"
      pure (.dict es)
    | _ => refuse

/-- An expression, or a tuple of expressions without brackets of its own. -/
def tupleOf : Nat → Bool → Bool → List String → Read Expr
  | 0, _, _, _ => refuse
  | f + 1, bracketed, conditions, ends => do
    let (xs, isTuple) ← tupleMembers f conditions ends []
    match xs, isTuple with
    | [e], false => pure e
    | [], false => if bracketed then pure (.tuple []) else refuse
    | xs, _ => pure (.tuple xs)

/-- The members of a tuple, and whether there was a comma among them. -/
def tupleMembers : Nat → Bool → List String → List Expr → Read (List Expr × Bool)
  | 0, _, _, _ => refuse
  | f + 1, conditions, ends, done => do
    if endsTuple ends (← peek) then pure (done, !done.isEmpty)
    else
      let e ← expr f conditions
      if ← acceptSign "," then tupleMembers f conditions ends (done ++ [e])
      else pure (done ++ [e], !done.isEmpty)

/-- The members of a list. -/
def members : Nat → List Expr → Read (List Expr)
  | 0, _ => refuse
  | f + 1, done => do
    if isSign "]" (← peek) then pure done
    else
      let e ← expr f true
      if ← acceptSign "," then members f (done ++ [e])
      else pure (done ++ [e])

/-- The entries of a dictionary. -/
def dictEntries : Nat → List (Expr × Expr) → Read (List (Expr × Expr))
  | 0, _ => refuse
  | f + 1, done => do
    if isSign "\x7d" (← peek) then pure done
    else
      let k ← expr f true
      sign ":"
      let v ← expr f true
      if ← acceptSign "," then dictEntries f (done ++ [(k, v)])
      else pure (done ++ [(k, v)])

/-- The indices between brackets. -/
def indices : Nat → List Expr → Read (List Expr)
  | 0, _ => refuse
  | f + 1, done => do
    if isSign "]" (← peek) then pure done
    else
      let i ← index f
      if ← acceptSign "," then indices f (done ++ [i])
      else pure (done ++ [i])

/-- An index or a range of positions. -/
def index : Nat → Read Expr
  | 0 => refuse
  | f + 1 => do
    if ← acceptSign ":" then sliceRest f none
    else
      let e ← expr f true
      if ← acceptSign ":" then sliceRest f (some e) else pure e

/-- The end and the step of a range of positions. -/
def sliceRest : Nat → Option Expr → Read Expr
  | 0, _ => refuse
  | f + 1, start => do
    let stop ← bound f
    if ← acceptSign ":" then
      let step ← bound f
      pure (.slice start stop step)
    else pure (.slice start stop none)

/-- A bound of a range of positions, which may be left out. -/
def bound : Nat → Read (Option Expr)
  | 0 => refuse
  | f + 1 => do
    let t ← peek
    if isSign ":" t || isSign "]" t || isSign "," t then pure none
    else
      let e ← expr f true
      pure (some e)

/-- The arguments of a call, with their brackets. -/
def arguments : Nat → Read (List (Passing × Expr))
  | 0 => refuse
  | f + 1 => do
    sign "("
    let args ← argumentsRest f {} []
    sign ")"
    pure args

/-- The arguments of a call after those in `done`. -/
def argumentsRest : Nat → Passed → List (Passing × Expr) → Read (List (Passing × Expr))
  | 0, _, _ => refuse
  | f + 1, p, done => do
    let t ← peek
    let u ← peekSecond
    if isSign ")" t then pure done
    else
      let (p, arg) ←
        if isSign "*" t then
          if p.spread || p.spreadNamed then refuse
          else do
            skip
            let e ← expr f true
            pure ({ p with spread := true }, (Passing.spread, e))
        else if isSign "**" t then
          if p.spreadNamed then refuse
          else do
            skip
            let e ← expr f true
            pure ({ p with spreadNamed := true }, (Passing.spreadNamed, e))
        else match t, isSign "=" u with
          | some (.name k), true =>
            if p.spreadNamed then refuse
            else do
              skip
              skip
              let e ← expr f true
              pure ({ p with named := true }, (Passing.named k, e))
          | _, _ =>
            if p.named || p.spread || p.spreadNamed then refuse
            else do
              let e ← expr f true
              pure (p, (Passing.position, e))
      if ← acceptSign "," then argumentsRest f p (done ++ [arg])
      else pure (done ++ [arg])

end

end Read

end TermRef.Template
