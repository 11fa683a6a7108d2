/-
TermRef/Template/Reader/Statement.lean

Reading the statements of templates.

A statement with a body ends at the statement that closes it; bodies nest.  What a
statement assigns to is a name, a field of an object or several of them at once.
As for expressions, reading goes by recursion on a bound for its depth that is
computed from the tokens and never met.
-/
import TermRef.Template.Reader.Expression

namespace TermRef.Template

namespace Read

/-! ### Targets -/

/-- A name that may be assigned to. -/
def assignable : Read String := do
  let s ← name
  if (constant? s).isSome then refuse
  pure s

/-- One target, or targets in round brackets; `fields` says that a field of an
object may be one. -/
def target : Nat → Bool → Read Target
  | 0, _ => refuse
  | f + 1, fields => do
    if ← acceptSign "(" then
      let ts ← targets f []
      sign ")"
      pure ts
    else
      let s ← assignable
      if fields && isSign "." (← peek) then
        skip
        let k ← name
        pure (.member s k)
      else pure (.name s)
where
  /-- Targets up to a closing bracket. -/
  targets : Nat → List Target → Read Target
    | 0, _ => refuse
    | f + 1, done => do
      if isSign ")" (← peek) then pure (.tuple done)
      else
        let t ← target f false
        if ← acceptSign "," then targets f (done ++ [t])
        else pure (if done.isEmpty then t else .tuple (done ++ [t]))

/-- Targets with commas between them, up to one of some names or the end of the
statement. -/
def targetTuple (fields : Bool) (ends : List String) : Nat → List Target → Read Target
  | 0, _ => refuse
  | f + 1, done => do
    if endsTuple ends (← peek) then
      if done.isEmpty then refuse else pure (.tuple done)
    else
      let t ← target f fields
      if ← acceptSign "," then targetTuple fields ends f (done ++ [t])
      else pure (if done.isEmpty then t else .tuple (done ++ [t]))

/-! ### Statements -/

/-- The parameters of a routine after those in `done`. -/
def signatureRest : Nat → List String → List Expr → Read Signature
  | 0, _, _ => refuse
  | f + 1, params, defaults => do
    if isSign ")" (← peek) then pure ⟨params, defaults⟩
    else
      if !params.isEmpty then sign ","
      let s ← assignable
      if ← acceptSign "=" then
        let e ← expr f true
        signatureRest f (params ++ [s]) (defaults ++ [e])
      else if defaults.isEmpty then signatureRest f (params ++ [s]) defaults
      else refuse

/-- The parameters of a routine, with their brackets. -/
def signature (f : Nat) : Read Signature := do
  sign "("
  let s ← signatureRest f [] []
  sign ")"
  pure s

/-- The bindings of a scope, up to the end of the statement. -/
def bindings : Nat → List (Target × Expr) → Read (List (Target × Expr))
  | 0, _ => refuse
  | f + 1, done => do
    if isTagEnd (← peek) then pure done
    else
      if !done.isEmpty then sign ","
      let t ← targetTuple false [] f []
      sign "="
      let e ← expr f true
      bindings f (done ++ [(t, e)])

/-- Expressions with commas between them, up to the end of the statement. -/
def printed : Nat → List Expr → Read (List Expr)
  | 0, _ => refuse
  | f + 1, done => do
    if isTagEnd (← peek) then pure done
    else
      if !done.isEmpty then sign ","
      let e ← expr f true
      printed f (done ++ [e])

/-- Filters applied one after the other. -/
def filterChain : Nat → Expr → Read Expr
  | 0, _ => refuse
  | f + 1, e => do
    let e ← useFilter f e
    if ← acceptSign "|" then filterChain f e else pure e

/-- Whether a template that is taken over sees the values of this one. -/
def contextMark : Read Bool := do
  let t ← peek
  let u ← peekSecond
  if (isName "with" t || isName "without" t) && isName "context" u then
    skip
    skip
    pure true
  else pure false

/-- The names taken over from another template. -/
def importedNames : Nat → Bool → Read Unit
  | 0, _ => refuse
  | f + 1, first => do
    if !first then sign ","
    if ← contextMark then pure ()
    else
      let s ← assignable
      if s.startsWith "_" then refuse
      if ← acceptName "as" then
        let _ ← assignable
      if ← contextMark then pure ()
      else if isSign "," (← peek) then importedNames f false
      else pure ()

/-- Nothing but blanks. -/
def isBlankBody (body : List Stmt) : Bool :=
  body.all fun
    | .text s => Unicode.isBlankText s.toList
    | _ => false

/-- The next tokens open a statement with one of some names, which ends a body. -/
def atEnd (ends : List String) : Read Bool := do
  let ts ← get
  pure (match ts with
    | .tagStart :: .name s :: _ => ends.contains s
    | _ => false)

mutual

/-- The statements up to one with a name of `ends`, or up to the end of the
template. -/
def body : Nat → List String → List Stmt → Read (List Stmt)
  | 0, _, _ => refuse
  | f + 1, ends, done => do
    if ← atEnd ends then pure done
    else
      match ← peek with
      | none => if ends.isEmpty then pure done else refuse
      | some (.data s) => skip; body f ends (done ++ [.text s])
      | some .printStart =>
        skip
        let e ← tupleOf f false true []
        match ← peek with
        | some .printEnd => skip; body f ends (done ++ [.print [e]])
        | _ => refuse
      | some .tagStart =>
        skip
        let s ← statement f
        tagEnd
        body f ends (done ++ [s])
      | _ => refuse

/-- The body of a statement, from the end of its opening mark to the name of a
statement in `ends`, which is given as well. -/
def bodyUpTo : Nat → List String → Read (List Stmt × String)
  | 0, _ => refuse
  | f + 1, ends => do
    let _ ← acceptSign ":"
    tagEnd
    let b ← body f ends []
    skip
    let s ← name
    pure (b, s)

/-- The branches of a condition, from its test on. -/
def branches : Nat → Read Stmt
  | 0 => refuse
  | f + 1 => do
    let test ← tupleOf f false false []
    let (yes, close) ← bodyUpTo f ["elif", "else", "endif"]
    if close == "elif" then
      let next ← branches f
      pure (.branch test yes [next])
    else if close == "else" then
      let (no, _) ← bodyUpTo f ["endif"]
      pure (.branch test yes no)
    else pure (.branch test yes [])

/-- A loop, from its target on. -/
def loopRest : Nat → Read Stmt
  | 0 => refuse
  | f + 1 => do
    let t ← targetTuple false ["in"] f []
    keyword "in"
    let through ← tupleOf f false false ["recursive"]
    let keep ← if ← acceptName "if" then (do
        let e ← expr f true
        pure (some e)) else pure none
    let again ← acceptName "recursive"
    let (b, close) ← bodyUpTo f ["endfor", "else"]
    if close == "else" then
      let (other, _) ← bodyUpTo f ["endfor"]
      pure (.loop t through keep again b other)
    else pure (.loop t through keep again b [])

/-- An assignment, from its target on. -/
def assignmentRest : Nat → Read Stmt
  | 0 => refuse
  | f + 1 => do
    let t ← targetTuple true [] f []
    if ← acceptSign "=" then
      let e ← tupleOf f false true []
      pure (.assign t e)
    else
      let filter ← if ← acceptSign "|" then (do
          let e ← filterChain f .held
          pure (some e)) else pure none
      let (b, _) ← bodyUpTo f ["endset"]
      pure (.capture t filter b)

/-- A block, from its name on. -/
def blockRest : Nat → Read Stmt
  | 0 => refuse
  | f + 1 => do
    let s ← name
    let open_ ← acceptName "scoped"
    let required ← acceptName "required"
    let (b, _) ← bodyUpTo f ["endblock"]
    if required && !isBlankBody b then refuse
    let _ ← acceptName s
    pure (.block s open_ b)

/-- A call with a body, from what follows its keyword on. -/
def callRest : Nat → Read Stmt
  | 0 => refuse
  | f + 1 => do
    let sig ← if isSign "(" (← peek) then signature f else pure ⟨[], []⟩
    let e ← expr f true
    match e with
    | .call _ _ =>
      let (b, _) ← bodyUpTo f ["endcall"]
      pure (.callWith sig e b)
    | _ => refuse

/-- A statement, without its marks. -/
def statement : Nat → Read Stmt
  | 0 => refuse
  | f + 1 => do
    match ← name with
    | "for" => loopRest f
    | "if" => branches f
    | "set" => assignmentRest f
    | "block" => blockRest f
    | "call" => callRest f
    | "print" =>
      let xs ← printed f []
      pure (.print xs)
    | "with" =>
      let bs ← bindings f []
      let (b, _) ← bodyUpTo f ["endwith"]
      pure (.scoped bs b)
    | "autoescape" =>
      let e ← expr f true
      let (b, _) ← bodyUpTo f ["endautoescape"]
      pure (.escaping e b)
    | "filter" =>
      let e ← filterChain f .held
      let (b, _) ← bodyUpTo f ["endfilter"]
      pure (.filtered e b)
    | "macro" =>
      let s ← assignable
      let sig ← signature f
      let (b, _) ← bodyUpTo f ["endmacro"]
      pure (.routine s sig b)
    | "extends" =>
      let e ← expr f true
      pure (.load true e)
    | "include" =>
      let e ← expr f true
      if isName "ignore" (← peek) && isName "missing" (← peekSecond) then
        skip
        skip
      let _ ← contextMark
      pure (.load false e)
    | "import" =>
      let e ← expr f true
      keyword "as"
      let _ ← assignable
      let _ ← contextMark
      pure (.load false e)
    | "from" =>
      let e ← expr f true
      keyword "import"
      importedNames f true
      pure (.load false e)
    | _ => refuse

end

end Read

/-- The levels of reading that a token adds at most. -/
def levelsPerToken : Nat := 24

/-- The statements of a template. -/
def readStmts (s : List Char) : Except Malformed (List Stmt) := do
  let ts ← Token.ofText s
  let (b, _) ← (Read.body (levelsPerToken * (ts.length + 2)) [] []).run ts
  pure b

end TermRef.Template
