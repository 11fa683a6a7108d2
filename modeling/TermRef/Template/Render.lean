/-
TermRef/Template/Render.lean

Rendering templates.

Rendering is a function of the template and the fields.  There is no chance in it, so a
random member is the first one and there is no filler text; and objects have no fields but
those named here, so a template does not reach beyond its values.

Rendering goes by recursion on the template.  What a routine, a loop that calls itself
or a block does when it is called is found in a value and not in the template at hand,
so the functions below take the meaning of such calls as a parameter; `callAt` ties
the knot for a bounded depth of calls.

Names are looked up from the innermost scope outwards.  The outermost scope holds the
fields of the entry, the next one the names assigned outside of all statements with a
scope of their own; routines and blocks see these two as they are when they are called.
-/
import TermRef.Template.Check
import TermRef.Template.Filter

namespace TermRef.Template

/-! ### State -/

/-- The state of an object. -/
inductive Cell where
  | fields (es : Scope)
  | cycle (items : List Datum) (next : Nat)
  | joiner (sep : Datum) (used : Bool)
  /-- What was seen last. -/
  | memory (last : Option (List Datum))
  deriving Inhabited

/-- The state of rendering: the scopes, innermost first, and the objects. -/
structure Store where
  scopes : List Scope
  cells : List Cell := []
  escaping : Bool := false
  blockNames : List String := []

/-- Steps of rendering. -/
abbrev Render := StateT Store Result

/-- The meaning of calls. -/
abbrev Caller := Datum → Args → Render Datum

namespace Render

/-- A step without effect on the state. -/
def ofResult {α : Type} (r : Result α) : Render α := StateT.lift r

/-! ### Scopes -/

/-- A name in a scope. -/
def findIn (s : Scope) (n : String) : Option Datum := (s.find? fun e => e.1 == n).map (·.2)

/-- A scope with a name set. -/
def setIn (n : String) (d : Datum) : Scope → Scope
  | [] => [(n, d)]
  | (m, e) :: r => if m == n then (n, d) :: r else (m, e) :: setIn n d r

/-- The functions of every template. -/
def builtin? (n : String) : Option Datum :=
  match n with
  | "range" => some (.builtin .range)
  | "dict" => some (.builtin .dict)
  | "cycler" => some (.builtin .cycler)
  | "joiner" => some (.builtin .joiner)
  | "namespace" => some (.builtin .namespace_)
  | "lipsum" => some (.builtin .lipsum)
  | _ => none

/-- What a name denotes. -/
def lookup (n : String) : Render Datum := do
  let st ← get
  if n == "self" then pure .blocks
  else match st.scopes.findSome? fun s => findIn s n with
    | some d => pure d
    | none => pure ((builtin? n).getD .undefined)

/-- Sets a name in the innermost scope. -/
def define (n : String) (d : Datum) : Render Unit :=
  modify fun st => { st with scopes := match st.scopes with
    | s :: r => setIn n d s :: r
    | [] => [[(n, d)]] }

/-- Sets a name in the innermost scope that has it. -/
def redefineIn (n : String) (d : Datum) : List Scope → List Scope
  | [] => []
  | s :: r => if (findIn s n).isSome then setIn n d s :: r else s :: redefineIn n d r

/-- Carries out a step in a scope of its own. -/
def inScope {α : Type} (s : Scope) (step : Render α) : Render α := do
  modify fun st => { st with scopes := s :: st.scopes }
  let a ← step
  modify fun st => { st with scopes := st.scopes.drop 1 }
  pure a

/-- Carries out a step in other scopes. -/
def inScopes {α : Type} (scopes : List Scope) (step : Render α) : Render α := do
  let before ← get
  set { before with scopes }
  let a ← step
  modify fun st => { st with scopes := before.scopes }
  pure a

/-- The two outermost scopes. -/
def outer (scopes : List Scope) : List Scope := scopes.drop (scopes.length - 2)

/-- The scopes inside of the two outermost. -/
def inner (scopes : List Scope) : List Scope := scopes.take (scopes.length - 2)

/-! ### Objects -/

/-- A new object. -/
def newCell (c : Cell) : Render Nat := do
  let st ← get
  set { st with cells := st.cells ++ [c] }
  pure st.cells.length

/-- The state of an object. -/
def cell? (i : Nat) : Render (Option Cell) := do
  let st ← get
  pure (st.cells[i]?)

/-- Changes the state of an object. -/
def setCell (i : Nat) (c : Cell) : Render Unit :=
  modify fun st => { st with cells := st.cells.set i c }

/-- What follows a point. -/
def readField (d : Datum) (n : String) : Render Datum := do
  match d with
  | .object i =>
    match ← cell? i with
    | some (.fields es) => pure ((findIn es n).getD .undefined)
    | some (.cycle items next) =>
      if n == "current" then pure (items.getD next .undefined)
      else if n == "next" || n == "reset" then pure (.method d n)
      else pure .undefined
    | _ => pure .undefined
  | .blocks =>
    let st ← get
    pure (if st.blockNames.contains n then .blockCall n else .undefined)
  | d => ofResult (d.getField n)

/-- What stands in brackets. -/
def readItem (d i : Datum) : Render Datum := do
  match d, i with
  | .object _, .text n _ => readField d n
  | .blocks, .text n _ => readField d n
  | d, i => ofResult (d.getItem i)

/-- A value with a field or member replaced, if it has any that can be. -/
def replaced? (d i v : Datum) : Option Datum :=
  match d with
  | .dict es => some (.dict (Datum.put i v es))
  | .list xs =>
    match i.int? with
    | some n =>
      let n := if n < 0 then n + xs.length else n
      if n < 0 then none else some (.list (xs.set n.toNat v))
    | none => none
  | _ => none

/-- Puts a value in the place of a field or member of a value that is itself at a place
that `put` fills. -/
def putInside (d i : Datum) (put : Datum → Render Unit) (v : Datum) : Render Unit := do
  match d, i with
  | .object c, .text n _ =>
    match ← cell? c with
    | some (.fields es) => setCell c (.fields (setIn n v es))
    | _ => pure ()
  | d, i =>
    match replaced? d i v with
    | some e => put e
    | none => pure ()

/-! ### Calls -/

/-- Calls a function of every template. -/
def callBuiltin (f : Builtin) (a : Args) : Render Datum := do
  match f with
  | .range =>
    if !a.named.isEmpty then throw .arguments
    match ← ofResult (a.positional.mapM Datum.whole) with
    | [n] => pure (.range 0 n 1)
    | [m, n] => pure (.range m n 1)
    | [m, n, k] => if k = 0 then throw .value else pure (.range m n k)
    | _ => throw .arguments
  | .dict => pure (.dict (← ofResult (putAll [] <$> givenEntries a)))
  | .namespace_ =>
    let es ← ofResult (putAll [] <$> givenEntries a)
    pure (.object (← newCell (.fields (es.map fun (k, v) => (k.shown, v)))))
  | .cycler =>
    if a.positional.isEmpty || !a.named.isEmpty then throw .arguments
    pure (.object (← newCell (.cycle a.positional 0)))
  | .joiner =>
    let xs ← ofResult (a.bind ["sep"])
    pure (.object (← newCell (.joiner ((argAt xs 0).getD (.ofText ", ")) false)))
  | .lipsum => throw .value

/-- Calls a method of an object. -/
def callObject (i : Nat) (name : String) : Render Datum := do
  match ← cell? i, name with
  | some (.cycle items next), "next" =>
    setCell i (.cycle items ((next + 1) % items.length))
    pure (items.getD next .undefined)
  | some (.cycle items _), "reset" =>
    setCell i (.cycle items 0)
    pure .null
  | some (.joiner sep used), "" =>
    setCell i (.joiner sep true)
    pure (if used then sep else .ofText "")
  | _, _ => throw .kind

/-- Whether values differ from those seen last; they are then what was seen last. -/
def changed (i : Nat) (xs : List Datum) : Render Datum := do
  match ← cell? i with
  | some (.memory (some last)) =>
    if Datum.sameAll last xs then pure (.ofBool false)
    else
      setCell i (.memory (some xs))
      pure (.ofBool true)
  | _ =>
    setCell i (.memory (some xs))
    pure (.ofBool true)

/-- Calls a value. -/
def callDatum (call : Caller) (f : Datum) (a : Args) : Render Datum := do
  match f with
  | .undefined => throw .undefined
  | .builtin b => callBuiltin b a
  | .method (.round _ _ _ i _ _) "changed" => changed i a.positional
  | .method (.object i) name => callObject i name
  | .method d name => ofResult (callMethod d name a)
  | .object i => callObject i ""
  | .routine _ _ _ _ => call f a
  | .round _ _ _ _ _ _ => call f a
  | .blockCall _ => call f a
  | _ => throw .kind

/-- Arguments, the latest first, with one more. -/
def addArgument (a : Args) (p : Passing) (d : Datum) : Result Args := do
  match p with
  | .position => pure { a with positional := a.positional ++ [d] }
  | .named n => pure { a with named := a.named ++ [(n, d)] }
  | .spread => pure { a with positional := a.positional ++ (← d.members) }
  | .spreadNamed =>
    match d with
    | .dict es =>
      let named ← es.mapM fun (k, v) => do
        match k with
        | .text s _ => pure (s, v)
        | _ => throw .kind
      pure { a with named := a.named ++ named }
    | d => throw (Datum.misfit d d)

/-! ### Expressions -/

/-- An operation on two values. -/
def applyBinary (op : BinaryOp) (a b : Datum) : Result Datum :=
  match op with
  | .add => a.add b
  | .mul => a.mul b
  | .sub => Datum.onNumbers (Number.ring (· - ·) (· - ·)) a b
  | .div => Datum.onNumbers Number.div a b
  | .floorDiv => Datum.onNumbers Number.floorDiv a b
  | .pow => Datum.onNumbers Number.pow a b
  | .rem =>
    match a with
    | .text s safe => Format.percent s safe b
    | a => Datum.onNumbers Number.rem a b

/-- An operation on one value. -/
def applyUnary (op : UnaryOp) (a : Datum) : Result Datum :=
  match op with
  | .neg => a.neg
  | .pos => a.pos
  | .not => .ok (.ofBool !a.isTrue)

/-- Values joined into one text. -/
def concatenate (escaping : Bool) (xs : List Datum) : Result Datum := do
  if escaping && xs.any fun d => d matches .text _ true then
    pure (.text (String.join (← xs.mapM Datum.toMarkup)) true)
  else pure (.ofText (String.join (← xs.mapM Datum.toText)))

/-- A step that puts a value somewhere. -/
abbrev Put := Datum → Render Unit

/-- The place of a value that has none: what is put there is lost. -/
def nowhere : Put := fun _ => pure ()

/-- The place of a name. -/
def placeOf (s : String) : Put := fun v =>
  modify fun st => { st with scopes := redefineIn s v st.scopes }

/-- The value alone. -/
def valueOf (step : Render (Datum × Put)) : Render Datum := do
  let (d, _) ← step
  pure d

/-- The value of a step, which has no place. -/
def unplaced (step : Render Datum) : Render (Datum × Put) := do
  let d ← step
  pure (d, nowhere)

mutual

/-- The value of an expression, and its place if it denotes one: a name does, and so
does a field or a member of what has a place. -/
def evalPlace (call : Caller) : Expr → Render (Datum × Put)
  | .const v => unplaced (pure (.ofValue v))
  | .name s => do
    let d ← lookup s
    pure (d, placeOf s)
  | .held => unplaced (lookup "")
  | .list xs => unplaced do
    let ds ← evalAll call xs
    pure (.list ds)
  | .tuple xs => unplaced do
    let ds ← evalAll call xs
    pure (.tuple ds)
  | .dict es => unplaced do
    let es ← evalPairs call es
    if es.any fun e => !e.1.isKey then throw .kind
    pure (.dict (es.foldl (fun es (k, v) => Datum.put k v es) []))
  | .cond t y n => unplaced do
    let d ← valueOf (evalPlace call t)
    if d.isTrue then valueOf (evalPlace call y) else evalOption call .undefined n
  | .and a b => unplaced do
    let d ← valueOf (evalPlace call a)
    if d.isTrue then valueOf (evalPlace call b) else pure d
  | .or a b => unplaced do
    let d ← valueOf (evalPlace call a)
    if d.isTrue then pure d else valueOf (evalPlace call b)
  | .unary op a => unplaced do
    let d ← valueOf (evalPlace call a)
    ofResult (applyUnary op d)
  | .binary op a b => unplaced do
    let d ← valueOf (evalPlace call a)
    let e ← valueOf (evalPlace call b)
    ofResult (applyBinary op d e)
  | .compare a rest => unplaced do
    let d ← valueOf (evalPlace call a)
    evalComparisons call d rest
  | .concat xs => unplaced do
    let ds ← evalAll call xs
    let st ← get
    ofResult (concatenate st.escaping ds)
  | .attr a n => do
    let (d, put) ← evalPlace call a
    let e ← readField d n
    pure (e, putInside d (.ofText n) put)
  | .item a (.slice x y z) => unplaced do
    let d ← valueOf (evalPlace call a)
    let i ← evalOption call .null x
    let j ← evalOption call .null y
    let k ← evalOption call .null z
    ofResult (d.slice i j k)
  | .item a i => do
    let (d, put) ← evalPlace call a
    let j ← valueOf (evalPlace call i)
    let e ← readItem d j
    pure (e, putInside d j put)
  | .slice x y z => unplaced do
    let i ← evalOption call .null x
    let j ← evalOption call .null y
    let k ← evalOption call .null z
    pure (.tuple [i, j, k])
  | .call (.attr a n) args => unplaced do
    let (d, put) ← evalPlace call a
    let args ← evalArgs call {} args
    match changingCall d n args with
    | some r =>
      let (result, after) ← ofResult r
      put after
      pure result
    | none =>
      let f ← readField d n
      callDatum call f args
  | .call f args => unplaced do
    let d ← valueOf (evalPlace call f)
    let args ← evalArgs call {} args
    callDatum call d args
  | .filter a n args => unplaced do
    if !filterNames.contains n then throw .unknownName
    let d ← valueOf (evalPlace call a)
    let args ← evalArgs call {} args
    let st ← get
    ofResult (applyFilter st.escaping (args.positional.length + 1) n d args)
  | .test a n args => unplaced do
    if !testNames.contains n then throw .unknownName
    let d ← valueOf (evalPlace call a)
    let args ← evalArgs call {} args
    let b ← ofResult (applyTest n d args)
    pure (.ofBool b)

/-- The values of expressions. -/
def evalAll (call : Caller) : List Expr → Render (List Datum)
  | [] => pure []
  | x :: r => do
    let d ← valueOf (evalPlace call x)
    let ds ← evalAll call r
    pure (d :: ds)

/-- The values of entries. -/
def evalPairs (call : Caller) : List (Expr × Expr) → Render (List (Datum × Datum))
  | [] => pure []
  | (k, v) :: r => do
    let d ← valueOf (evalPlace call k)
    let e ← valueOf (evalPlace call v)
    let ds ← evalPairs call r
    pure ((d, e) :: ds)

/-- The value of an expression that may be left out. -/
def evalOption (call : Caller) (dflt : Datum) : Option Expr → Render Datum
  | none => pure dflt
  | some x => valueOf (evalPlace call x)

/-- The value of a chain of comparisons: the first that fails decides. -/
def evalComparisons (call : Caller) (d : Datum) : List (CompareOp × Expr) → Render Datum
  | [] => pure (.ofBool true)
  | (op, x) :: r => do
    let e ← valueOf (evalPlace call x)
    let b ← ofResult (compareData op d e)
    if b then evalComparisons call e r else pure (.ofBool false)

/-- The values of arguments, after those in `done`. -/
def evalArgs (call : Caller) (done : Args) : List (Passing × Expr) → Render Args
  | [] => pure done
  | (p, x) :: r => do
    let d ← valueOf (evalPlace call x)
    let done ← ofResult (addArgument done p d)
    evalArgs call done r

end

/-- The value of an expression. -/
def eval (call : Caller) (e : Expr) : Render Datum := valueOf (evalPlace call e)

/-! ### Statements -/

mutual

/-- Assigns a value. -/
def assign : Target → Datum → Render Unit
  | .name s, d => define s d
  | .member o n, d => do
    match ← lookup o with
    | .object i =>
      match ← cell? i with
      | some (.fields es) => setCell i (.fields (setIn n d es))
      | _ => throw .kind
    | _ => throw .kind
  | .tuple ts, d => do
    let xs ← ofResult d.members
    assignAll ts xs

/-- Assigns values one by one. -/
def assignAll : List Target → List Datum → Render Unit
  | [], [] => pure ()
  | t :: ts, d :: ds => do
    assign t d
    assignAll ts ds
  | _, _ => throw .value

end

/-- The text of a value as it is put out. -/
def output (escaping : Bool) (d : Datum) : Render String :=
  ofResult (if escaping then d.toMarkup else d.toText)

/-- A text as the value of what has put it out. -/
def textDatum (s : String) : Render Datum := do
  let st ← get
  pure (.text s st.escaping)

/-- The members for which a test holds in a scope of their own. -/
def keepItems (keep : Datum → Render Bool) : List Datum → Render (List Datum)
  | [] => pure []
  | x :: r => do
    let b ← keep x
    let xs ← keepItems keep r
    pure (if b then x :: xs else xs)

/-- The rounds of a loop from number `i` on. -/
def rounds (body : Nat → Datum → Render String) : Nat → List Datum → Render String
  | _, [] => pure ""
  | i, x :: r => do
    let s ← body i x
    let t ← rounds body (i + 1) r
    pure (s ++ t)

/-- A loop over a value, given what it keeps, its body and what it does without rounds. -/
def runLoop (target : Target) (keep : Option (Render Datum)) (body other : Render String)
    (again : Option (Target × Option Expr × List Stmt × List Stmt)) (depth : Nat) (through : Datum) :
    Render String := do
  let items ← ofResult through.members
  let items ← match keep with
    | none => pure items
    | some test => keepItems (fun x => inScope [] do
        assign target x
        let d ← test
        pure d.isTrue) items
  if items.isEmpty then inScope [] other
  else
    let i ← newCell (.memory none)
    let st ← get
    rounds (fun n x => inScope [("loop", .round n items depth i again st.scopes)] do
      assign target x
      body) 0 items

/-- The bindings of a scope, evaluated outside of it. -/
def evalBindings (call : Caller) : List (Target × Expr) → Render (List (Target × Datum))
  | [] => pure []
  | (t, x) :: r => do
    let d ← eval call x
    let ds ← evalBindings call r
    pure ((t, d) :: ds)

/-- Assigns the values of bindings. -/
def assignBindings : List (Target × Datum) → Render Unit
  | [] => pure ()
  | (t, d) :: r => do
    assign t d
    assignBindings r

/-- A value that is printed. -/
def printAll (call : Caller) : List Expr → Render String
  | [] => pure ""
  | x :: r => do
    let d ← eval call x
    let st ← get
    let s ← output st.escaping d
    let t ← printAll call r
    pure (s ++ t)

mutual

/-- What a statement puts out. -/
def execute (call : Caller) : Stmt → Render String
  | .text s => pure s
  | .print xs => printAll call xs
  | .loop target through keep again body other => do
    let d ← eval call through
    runLoop target (keep.map (eval call)) (executeAll call body) (executeAll call other)
      (if again then some (target, keep, body, other) else none) 0 d
  | .branch test yes no => do
    let d ← eval call test
    if d.isTrue then executeAll call yes else executeAll call no
  | .assign target e => do
    let d ← eval call e
    assign target d
    pure ""
  | .capture target filter body => do
    let s ← inScope [] (executeAll call body)
    let d ← textDatum s
    let d ← match filter with
      | none => pure d
      | some f => inScope [("", d)] (eval call f)
    assign target d
    pure ""
  | .scoped bs body => do
    let ds ← evalBindings call bs
    inScope [] do
      assignBindings ds
      executeAll call body
  | .filtered f body => do
    let s ← inScope [] (executeAll call body)
    let d ← textDatum s
    let e ← inScope [("", d)] (eval call f)
    let st ← get
    output st.escaping e
  | .routine name sig body => do
    let st ← get
    define name (.routine name sig body (inner st.scopes))
    pure ""
  | .callWith sig e body => do
    let st ← get
    let caller := Datum.routine "caller" sig body (inner st.scopes)
    match e with
    | .call f args =>
      let d ← eval call f
      let args ← evalArgs call {} args
      let r ← callDatum call d { args with named := args.named ++ [("caller", caller)] }
      output st.escaping r
    | _ => throw .kind
  | .block _ open_ body => do
    let st ← get
    let scopes := if open_ then st.scopes else outer st.scopes
    inScopes ([] :: scopes) (executeAll call body)
  | .escaping on body => do
    let d ← eval call on
    let before ← get
    set { before with escaping := d.isTrue }
    let s ← inScope [] (executeAll call body)
    modify fun st => { st with escaping := before.escaping }
    pure s
  | .load _ e => do
    let _ ← eval call e
    throw .noTemplate

/-- What statements put out. -/
def executeAll (call : Caller) : List Stmt → Render String
  | [] => pure ""
  | s :: r => do
    let a ← execute call s
    let b ← executeAll call r
    pure (a ++ b)

end

/-! ### Routines -/

/-- Gives the parameters of a routine their values; those without an argument have
their default, which may use the parameters before. -/
def bindParams (call : Caller) (named : Scope) : List (String × Option Expr) → List Datum →
    Render Unit
  | [], _ => pure ()
  | (p, _) :: ps, d :: ds => do
    define p d
    bindParams call named ps ds
  | (p, dflt) :: ps, [] => do
    match findIn named p, dflt with
    | some d, _ => define p d
    | none, some e =>
      let d ← eval call e
      define p d
    | none, none => define p .undefined
    bindParams call named ps []

/-- The parameters of a routine with their defaults. -/
def paramsWithDefaults (sig : Signature) : List (String × Option Expr) :=
  let plain := sig.params.length - sig.defaults.length
  sig.params.zip (List.replicate plain none ++ sig.defaults.map some)

/-- Calls a routine. -/
def callRoutine (call : Caller) (self : Datum) (name : String) (sig : Signature)
    (body : List Stmt) (scopes : List Scope) (a : Args) : Render Datum := do
  let n := sig.params.length
  let takes := fun (w : String) => usedBy w body || mentionedIn w sig.defaults
  let free := sig.params.drop a.positional.length
  let (given, extra) := a.named.partition fun e => free.contains e.1
  let caller := findIn extra "caller"
  let extra := extra.filter fun e => !(e.1 == "caller" && takes "caller")
  if !extra.isEmpty && !takes "kwargs" then throw .arguments
  if n < a.positional.length && !takes "varargs" then throw .arguments
  let st ← get
  let special : Scope :=
    (if takes "caller" && !sig.params.contains "caller" then
      [("caller", caller.getD .undefined)] else []) ++
      (if takes "kwargs" then
        [("kwargs", .dict (extra.map fun (k, v) => (.ofText k, v)))] else []) ++
      (if takes "varargs" then [("varargs", .tuple (a.positional.drop n))] else [])
  inScopes (special :: [(name, self)] :: scopes ++ outer st.scopes) do
    bindParams call given (paramsWithDefaults sig) (a.positional.take n)
    let s ← executeAll call body
    textDatum s

/-- The meaning of calls that are nested up to a depth. -/
def callAt (blocks : List (String × List Stmt)) : Nat → Caller
  | 0, _, _ => throw .tooDeep
  | depth + 1, f, a =>
    match f with
    | .routine name sig body scopes =>
      callRoutine (callAt blocks depth) f name sig body scopes a
    | .round _ _ level _ (some (target, keep, body, other)) scopes => do
      match a.positional with
      | [through] =>
        let call := callAt blocks depth
        let s ← inScopes scopes (runLoop target (keep.map (eval call)) (executeAll call body)
          (executeAll call other) (some (target, keep, body, other)) (level + 1) through)
        textDatum s
      | _ => throw .arguments
    | .blockCall name => do
      match blocks.find? fun b => b.1 == name with
      | some (_, body) =>
        let st ← get
        let s ← inScopes ([] :: outer st.scopes) (executeAll (callAt blocks depth) body)
        textDatum s
      | none => throw .undefined
    | _ => throw .kind

end Render

/-- How deeply calls may be nested. -/
def callDepth : Nat := 250

/-- The text of a template with the given fields. -/
def render (t : Template) (fields : List (String × Value)) : Result String := do
  let scope : Scope := fields.map fun (n, v) => (n, .ofValue v)
  let (s, _) ← (Render.executeAll (Render.callAt t.blocks callDepth) t.body).run
    { scopes := [[], scope], blockNames := t.blocks.map (·.1) }
  pure s

end TermRef.Template
