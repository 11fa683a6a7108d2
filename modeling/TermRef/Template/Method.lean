/-
TermRef/Template/Method.lean

Fields, members and methods of values in templates.

A value has fields by its kind, and a dictionary has its entries besides.  What
follows a point is looked for among the fields first, what stands in brackets among
the members first; what neither has is undefined.

Methods that change a list or a dictionary give the changed one besides their result.
-/
import TermRef.Template.Format
import TermRef.Text.Utf8
import TermRef.Unicode.Name
import TermRef.Unicode.Letter
import TermRef.Unicode.Case

namespace TermRef.Template

/-! ### Arguments -/

/-- The arguments in the order of the parameters; an argument may be left out. -/
def Args.bind (params : List String) (a : Args) : Result (List (Option Datum)) :=
  let given := a.positional.length
  if params.length < given then .error .arguments
  else if a.named.any fun e => !(params.drop given).contains e.1 then .error .arguments
  else .ok (a.positional.map some ++
    (params.drop given).map fun p => (a.named.find? fun e => e.1 == p).map (·.2))

/-- The argument at a position. -/
def argAt (xs : List (Option Datum)) (i : Nat) : Option Datum := (xs[i]?).bind id

/-- The argument at a position, which has to be there. -/
def needAt (xs : List (Option Datum)) (i : Nat) : Result Datum :=
  match argAt xs i with
  | some d => .ok d
  | none => .error .arguments

/-- The characters of a text. -/
def Datum.chars : Datum → Result (List Char)
  | .text s _ => .ok s.toList
  | .undefined => .error .undefined
  | _ => .error .kind

/-- A whole number. -/
def Datum.whole (d : Datum) : Result Int :=
  match d.int? with
  | some n => .ok n
  | none => .error (Datum.misfit d d)

/-- A whole number, or nothing. -/
def wholeOrNone : Option Datum → Result (Option Int)
  | none => .ok none
  | some (.plain .null) => .ok none
  | some d => do pure (some (← d.whole))

/-- A whole number that can count. -/
def Datum.count (d : Datum) : Result Int := do
  let n ← d.whole
  if n.natAbs < Nat.pow 2 63 then pure n else throw .tooLarge

/-- A limit, which is none if it is negative. -/
def limitOf (d : Option Datum) : Result (Option Nat) :=
  match d with
  | none => .ok none
  | some d => do
    let n ← d.count
    pure (if n < 0 then none else some n.toNat)

/-! ### Positions -/

/-- A position in a list of some size, which may count from the end. -/
def clamp (size : Nat) (i : Int) : Nat :=
  if i < 0 then (i + size).toNat else min i.toNat size

/-- Where a slice of a list of some size begins and ends. -/
def sliceBounds (size : Nat) (start stop : Option Int) (step : Int) : Int × Int :=
  let low : Int := if step < 0 then -1 else 0
  let high : Int := if step < 0 then size - 1 else size
  let fit := fun (i : Int) =>
    let i := if i < 0 then i + size else i
    if i < low then low else if high < i then high else i
  (match start with
    | some n => fit n
    | none => if step < 0 then high else low,
   match stop with
    | some n => fit n
    | none => if step < 0 then low else high)

/-- The positions of a list of some size from a start to an end by a step. -/
def slicePositions (size : Nat) (start stop : Option Int) (step : Int) : List Nat :=
  let (a, b) := sliceBounds size start stop step
  (List.range (Datum.rangeLength a b step)).map fun (k : Nat) => (a + step * k).toNat

/-- The members of a list at some positions. -/
def pick {α : Type} (xs : List α) (is : List Nat) : List α :=
  let a := xs.toArray
  is.filterMap fun i => a[i]?

/-- The part of a value from a start to an end by a step. -/
def Datum.slice (d : Datum) (start stop step : Datum) : Result Datum := do
  let a ← wholeOrNone (some start)
  let b ← wholeOrNone (some stop)
  let c := (← wholeOrNone (some step)).getD 1
  if c = 0 then throw .value
  let cut := fun {α : Type} (xs : List α) => pick xs (slicePositions xs.length a b c)
  match d with
  | .text s safe => pure (.text (String.ofList (cut s.toList)) safe)
  | .list xs => pure (.list (cut xs))
  | .tuple xs => pure (.tuple (cut xs))
  | .group k xs => pure (.tuple (cut [k, .list xs]))
  | .range x y z =>
    let (i, j) := sliceBounds (rangeLength x y z) a b c
    pure (.range (x + z * i) (x + z * j) (z * c))
  | .plain (.bytes bs) => pure (.plain (.bytes (cut bs)))
  | .undefined => throw .undefined
  | _ => throw .kind

/-! ### Methods of texts -/

namespace TextMethod

/-- Texts regardless of case. -/
def foldCase (s : List Char) : List Char :=
  s.flatMap fun c => (Unicode.upperChar c).flatMap fun d => Unicode.lower [d]

/-- Small letters for capital ones and the other way round. -/
def swapCase (s : List Char) : List Char :=
  s.flatMap fun c =>
    if Unicode.isUpper c then Unicode.lower [c]
    else if Unicode.isLower c then Unicode.upperChar c
    else [c]

/-- There are letters with case, and all of them satisfy `p`. -/
def allCased (p : Char → Bool) (s : List Char) : Bool :=
  let cased := s.filter fun c => Unicode.isUpper c || Unicode.isLower c || Unicode.isTitle c
  !cased.isEmpty && cased.all p

/-- Words begin with capital letters, and only they; `inWord` says that a letter with
case comes right before. -/
def isTitleFrom : Bool → Bool → List Char → Bool
  | _, found, [] => found
  | inWord, found, c :: r =>
    if Unicode.isUpper c || Unicode.isTitle c then !inWord && isTitleFrom true true r
    else if Unicode.isLower c then inWord && isTitleFrom true true r
    else isTitleFrom false found r

/-- Tabs filled up with blanks; `column` counts the characters of the line. -/
def expandTabs (size : Nat) : Nat → List Char → List Char
  | _, [] => []
  | column, c :: r =>
    if c == '\t' then
      if size = 0 then expandTabs size column r
      else
        let n := size - column % size
        List.replicate n ' ' ++ expandTabs size (column + n) r
    else if c == '\n' || c == '\r' then c :: expandTabs size 0 r
    else c :: expandTabs size (column + 1) r

/-- Zeros after the sign, up to a width. -/
def zeroFill (width : Nat) (s : List Char) : List Char :=
  match s with
  | c :: r =>
    if c == '+' || c == '-' then c :: Pieces.padLeft '0' (width - 1) r
    else Pieces.padLeft '0' width s
  | [] => Pieces.padLeft '0' width []

/-- The predicates that a text may satisfy as a whole. -/
def predicate? (name : String) : Option (List Char → Bool) :=
  let whole := fun (p : Char → Bool) (s : List Char) => !s.isEmpty && s.all p
  match name with
  | "isalpha" => some (whole Unicode.isLetter)
  | "isalnum" => some (whole Unicode.isAlphanumeric)
  | "isdecimal" => some (whole Unicode.isDecimal)
  | "isdigit" => some (whole Unicode.isDigit)
  | "isnumeric" => some (whole Unicode.isNumeric)
  | "isspace" => some (whole Unicode.isBlank)
  | "isascii" => some fun s => s.all fun c => c.toNat < 128
  | "isprintable" => some fun s => s.all Unicode.isPrintable
  | "isidentifier" => some Unicode.isName
  | "islower" => some (allCased Unicode.isLower)
  | "isupper" => some (allCased Unicode.isUpper)
  | "istitle" => some (isTitleFrom false false)
  | _ => none

/-- The changes of a text that need nothing else. -/
def change? (name : String) : Option (List Char → List Char) :=
  match name with
  | "upper" => some Unicode.upper
  | "lower" => some Unicode.lower
  | "title" => some Unicode.title
  | "capitalize" => some Unicode.capitalize
  | "casefold" => some foldCase
  | "swapcase" => some swapCase
  | _ => none

/-- The names of the methods of texts. -/
def names : List String :=
  ["capitalize", "casefold", "center", "count", "encode", "endswith", "expandtabs", "find",
    "format", "index", "isalnum", "isalpha", "isascii", "isdecimal", "isdigit", "isidentifier",
    "islower", "isnumeric", "isprintable", "isspace", "istitle", "isupper", "join", "ljust",
    "lower", "lstrip", "partition", "removeprefix", "removesuffix", "replace", "rfind", "rindex",
    "rjust", "rpartition", "rsplit", "rstrip", "split", "splitlines", "startswith", "strip",
    "swapcase", "title", "upper", "zfill"]

/-- The characters to be removed from the ends of a text. -/
def stripSet (a : Args) : Result (Char → Bool) :=
  match a.positional with
  | [] => .ok Unicode.isBlank
  | [.plain .null] => .ok Unicode.isBlank
  | [d] => do
    let cs ← d.chars
    pure fun c => cs.contains c
  | _ => .error .arguments

/-- Text without some characters at its ends. -/
def strip (left right : Bool) (p : Char → Bool) (s : List Char) : List Char :=
  let s := if left then s.dropWhile p else s
  if right then (s.reverse.dropWhile p).reverse else s

/-- A stretch of a text, and where it begins. -/
structure Stretch where
  start : Nat
  text : List Char

/-- A part, and the stretch of the text in which it is looked for; there is none, not
even an empty one, if it would end before it begins. -/
def searched (s : List Char) (a : Args) : Result (Datum × Option Stretch) := do
  match ← a.bind ["sub", "start", "end"] with
  | [some part, start, stop] =>
    let i := (← wholeOrNone start).getD 0
    let i := (if i < 0 then i + s.length else i).toNat
    let j := ((← wholeOrNone stop).map (clamp s.length)).getD s.length
    pure (part, if i ≤ j then some ⟨i, (s.take j).drop i⟩ else none)
  | _ => throw .arguments

/-- A text begins or ends with a part, or with one of several. -/
def fits (test : List Char → List Char → Bool) (s : List Char) (a : Args) : Result Datum := do
  let (part, stretch) ← searched s a
  let parts ← match part with
    | .tuple xs => xs.mapM Datum.chars
    | d => do pure [← d.chars]
  pure (.ofBool (stretch.any fun t => parts.any fun p => test p t.text))

/-- The place of a part, if it is found. -/
def findIn (last : Bool) (s : List Char) (a : Args) : Result (Option Nat) := do
  let (part, stretch) ← searched s a
  let p ← part.chars
  let find? := if last then Pieces.findLast? p else Pieces.find? p
  pure (stretch.bind fun t => (find? t.text).map (· + t.start))

/-- The place of a part, or minus one. -/
def placeOrMinusOne (n : Option Nat) : Datum := .ofInt ((n.map Int.ofNat).getD (-1))

/-- The place of a part, which has to be found. -/
def placeFound (n : Option Nat) : Result Datum :=
  match n with
  | some n => .ok (.ofNat n)
  | none => .error .value

/-- A width and a character to fill up with. -/
def filling (a : Args) : Result (Nat × Char) := do
  match ← a.bind ["width", "fillchar"] with
  | [some w, c] =>
    let n ← Datum.fitting (← w.whole).toNat
    match c with
    | none => pure (n, ' ')
    | some d =>
      match ← d.chars with
      | [c] => pure (n, c)
      | _ => throw .kind
  | _ => throw .arguments

/-- The parts of a text by a method that splits it. -/
def splitBy (words : Option Nat → List Char → List (List Char))
    (split : List Char → Option Nat → List Char → List (List Char)) (s : List Char) (a : Args) :
    Result (List (List Char)) := do
  match ← a.bind ["sep", "maxsplit"] with
  | [sep, limit] =>
    let n ← limitOf limit
    match sep with
    | none => pure (words n s)
    | some (.plain .null) => pure (words n s)
    | some d =>
      let sep ← d.chars
      if sep.isEmpty then throw .value
      pure (split sep n s)
  | _ => throw .arguments

/-- Calls a method of a text. -/
def call (text : String) (safe : Bool) (name : String) (a : Args) : Result Datum := do
  let s := text.toList
  let make := fun (s : List Char) => Datum.text (String.ofList s) safe
  let passed := fun (d : Datum) =>
    if safe then (if d matches .text _ _ then d.escaped.toList |> Except.ok else d.chars) else d.chars
  match predicate? name, change? name with
  | some p, _ => if a.positional.isEmpty then pure (.ofBool (p s)) else throw .arguments
  | _, some f => if a.positional.isEmpty then pure (make (f s)) else throw .arguments
  | none, none =>
  match name with
  | "strip" => pure (make (strip true true (← stripSet a) s))
  | "lstrip" => pure (make (strip true false (← stripSet a) s))
  | "rstrip" => pure (make (strip false true (← stripSet a) s))
  | "split" => pure (.list ((← splitBy Pieces.words Pieces.split s a).map make))
  | "rsplit" => pure (.list ((← splitBy Pieces.wordsRight Pieces.splitRight s a).map make))
  | "splitlines" =>
    let keep ← match argAt (← a.bind ["keepends"]) 0 with
      | some d => do pure ((← d.whole) != 0)
      | none => pure false
    pure (.list ((Pieces.lines keep s).map make))
  | "join" =>
    match a.positional with
    | [d] =>
      let parts ← (← d.members).mapM passed
      pure (make (Pieces.join s parts))
    | _ => throw .arguments
  | "replace" =>
    match ← a.bind ["old", "new", "count"] with
    | [some old, some new, count] =>
      pure (make (Pieces.replace (← passed old) (← passed new) (← limitOf count) s))
    | _ => throw .arguments
  | "startswith" => fits (fun p s => p.isPrefixOf s) s a
  | "endswith" => fits (fun p s => p.isSuffixOf s) s a
  | "find" => pure (placeOrMinusOne (← findIn false s a))
  | "rfind" => pure (placeOrMinusOne (← findIn true s a))
  | "index" => placeFound (← findIn false s a)
  | "rindex" => placeFound (← findIn true s a)
  | "count" =>
    let (part, stretch) ← searched s a
    let p ← part.chars
    pure (.ofNat ((stretch.map fun t => Pieces.count p t.text).getD 0))
  | "center" => let (w, c) ← filling a; pure (make (Pieces.center c w s))
  | "ljust" => let (w, c) ← filling a; pure (make (Pieces.padRight c w s))
  | "rjust" => let (w, c) ← filling a; pure (make (Pieces.padLeft c w s))
  | "zfill" => let (w, _) ← filling a; pure (make (zeroFill w s))
  | "expandtabs" =>
    let size ← match argAt (← a.bind ["tabsize"]) 0 with
      | some d => d.whole
      | none => pure 8
    pure (make (expandTabs (← Datum.fitting size.toNat) 0 s))
  | "partition" =>
    match a.positional with
    | [d] =>
      let sep ← d.chars
      if sep.isEmpty then throw .value
      let (x, y, z) := match Pieces.cutAt? sep s with
        | some (x, z) => (x, sep, z)
        | none => (s, [], [])
      pure (.tuple [make x, make y, make z])
    | _ => throw .arguments
  | "rpartition" =>
    match a.positional with
    | [d] =>
      let sep ← d.chars
      if sep.isEmpty then throw .value
      let (x, y, z) := match Pieces.cutAtLast? sep s with
        | some (x, z) => (x, sep, z)
        | none => ([], [], s)
      pure (.tuple [make x, make y, make z])
    | _ => throw .arguments
  | "removeprefix" =>
    match a.positional with
    | [d] =>
      let p ← d.chars
      pure (make (if p.isPrefixOf s then s.drop p.length else s))
    | _ => throw .arguments
  | "removesuffix" =>
    match a.positional with
    | [d] =>
      let p ← d.chars
      pure (make (if p.isSuffixOf s then s.take (s.length - p.length) else s))
    | _ => throw .arguments
  | "encode" => pure (.plain (.bytes (Utf8.encode s)))
  | "format" => Format.braces text safe a
  | _ => throw .kind

end TextMethod

/-! ### Methods of lists and dictionaries -/

/-- The names of the methods of lists. -/
def listMethods : List String :=
  ["append", "clear", "copy", "count", "extend", "index", "insert", "pop", "remove", "reverse",
    "sort"]

/-- The names of the methods of tuples. -/
def tupleMethods : List String := ["count", "index"]

/-- The names of the methods of dictionaries. -/
def dictMethods : List String :=
  ["clear", "copy", "get", "items", "keys", "pop", "popitem", "setdefault", "update", "values"]

/-- The position of a member. -/
def positionOf (xs : List Datum) (d : Datum) : Result Datum :=
  match xs.findIdx? fun x => x.same d with
  | some n => .ok (.ofNat n)
  | none => .error .value

/-- Calls a method of a list that leaves it as it is. -/
def listCall (xs : List Datum) (name : String) (a : Args) : Result Datum :=
  match name, a.positional with
  | "count", [d] => .ok (.ofNat (xs.countP fun x => x.same d))
  | "index", [d] => positionOf xs d
  | "copy", [] => .ok (.list xs)
  | _, _ => .error .arguments

/-- An entry from a pair. -/
def entryOf (d : Datum) : Result (Datum × Datum) := do
  match ← d.members with
  | [k, v] => if k.isKey then pure (k, v) else throw .kind
  | _ => throw .value

/-- The entries that arguments give: those of a dictionary or of pairs, and those with
names. -/
def givenEntries (a : Args) : Result (List (Datum × Datum)) := do
  let base ← match a.positional with
    | [] => pure []
    | [.dict es] => pure es
    | [.undefined] => throw .undefined
    | [d] => d.members >>= List.mapM entryOf
    | _ => throw .arguments
  pure (base ++ a.named.map fun e => (Datum.ofText e.1, e.2))

/-- Entries with others set. -/
def putAll (es more : List (Datum × Datum)) : List (Datum × Datum) :=
  more.foldl (fun es e => Datum.put e.1 e.2 es) es

/-- Calls a method of a dictionary that leaves it as it is. -/
def dictCall (es : List (Datum × Datum)) (name : String) (a : Args) : Result Datum :=
  match name, a.positional with
  | "keys", [] => .ok (.view .keys (es.map (·.1)))
  | "values", [] => .ok (.view .values (es.map (·.2)))
  | "items", [] => .ok (.view .items (es.map fun (k, v) => .tuple [k, v]))
  | "copy", [] => .ok (.dict es)
  | "get", [k] => if k.isKey then .ok ((Datum.lookup? es k).getD .null) else .error .kind
  | "get", [k, d] => if k.isKey then .ok ((Datum.lookup? es k).getD d) else .error .kind
  | _, _ => .error .arguments

/-- Puts a value in its place among sorted ones; those that are not greater precede it. -/
def insertSorted {α : Type} (less : α → α → Result Bool) (x : α) : List α → Result (List α)
  | [] => .ok [x]
  | y :: r => do
    if ← less x y then pure (x :: y :: r)
    else pure (y :: (← insertSorted less x r))

/-- Sorted values; values of which neither is less keep their order. -/
def sortWith {α : Type} (less : α → α → Result Bool) (xs : List α) : Result (List α) :=
  xs.foldlM (fun done x => insertSorted less x done) []

/-- Calls a method that changes a list or a dictionary: its result, and the changed
value. -/
def changingCall (d : Datum) (name : String) (a : Args) : Option (Result (Datum × Datum)) :=
  match d, name, a.positional with
  | .list xs, "append", [x] => some (.ok (.null, .list (xs ++ [x])))
  | .list xs, "extend", [x] => some do
    let ys ← x.members
    pure (.null, .list (xs ++ ys))
  | .list xs, "insert", [i, x] => some do
    let n := clamp xs.length (← i.count)
    pure (.null, .list (xs.take n ++ x :: xs.drop n))
  | .list xs, "pop", args => some do
    let i ← match args with
      | [] => pure (-1)
      | [i] => i.count
      | _ => throw .arguments
    let n := if i < 0 then i + xs.length else i
    match if n < 0 then none else xs[n.toNat]? with
    | some x => pure (x, .list (xs.eraseIdx n.toNat))
    | none => throw .value
  | .list xs, "remove", [x] =>
    some (match xs.findIdx? fun y => y.same x with
      | some n => .ok (.null, .list (xs.eraseIdx n))
      | none => .error .value)
  | .list _, "clear", [] => some (.ok (.null, .list []))
  | .list xs, "reverse", [] => some (.ok (.null, .list xs.reverse))
  | .list xs, "sort", [] => some do
    pure (.null, .list (← sortWith (Datum.less false) xs))
  | .dict _, "clear", [] => some (.ok (.null, .dict []))
  | .dict es, "update", args => some do
    let more ← givenEntries { a with positional := args }
    pure (.null, .dict (putAll es more))
  | .dict es, "setdefault", k :: r => some do
    if !k.isKey then throw .kind
    let dflt := r.headD .null
    match Datum.lookup? es k with
    | some v => pure (v, .dict es)
    | none => pure (dflt, .dict (es ++ [(k, dflt)]))
  | .dict es, "pop", k :: r => some do
    if !es.isEmpty && !k.isKey then throw .kind
    match Datum.lookup? es k, r with
    | some v, _ => pure (v, .dict (es.filter fun e => !e.1.same k))
    | none, [dflt] => pure (dflt, .dict es)
    | none, _ => throw .value
  | .dict es, "popitem", [] =>
    some (match es.getLast? with
      | some (k, v) => .ok (.tuple [k, v], .dict es.dropLast)
      | none => .error .value)
  | _, _, _ => none

/-! ### Fields -/

/-- A field of a number. -/
def numberField? (n : Number) (name : String) : Option Datum :=
  match n, name with
  | n, "real" => some n.toDatum
  | .int _, "imag" => some (.ofInt 0)
  | .float _, "imag" => some (.ofFloat 0.0)
  | .int n, "numerator" => some (.ofInt n)
  | .int _, "denominator" => some (.ofInt 1)
  | .int n, "bit_length" => some (.method (.ofInt n) name)
  | .float x, "is_integer" => some (.method (.ofFloat x) name)
  | .float x, "hex" => some (.method (.ofFloat x) name)
  | n, "as_integer_ratio" => some (.method n.toDatum name)
  | n, "conjugate" => some (.method n.toDatum name)
  | _, _ => none

/-- A field of a day or a moment. -/
def stampField? (t : Stamp) (name : String) : Option Datum :=
  match name, t.clock with
  | "year", _ => some (.ofNat t.year)
  | "month", _ => some (.ofNat t.month)
  | "day", _ => some (.ofNat t.day)
  | "hour", some c => some (.ofNat c.hour)
  | "minute", some c => some (.ofNat c.minute)
  | "second", some c => some (.ofNat c.second)
  | "microsecond", some c => some (.ofNat c.micro)
  | "isoformat", _ => some (.method (.plain (.stamp t)) name)
  | _, _ => none

/-- A field of a round of a loop. -/
def roundField? (d : Datum) (i : Nat) (xs : List Datum) (depth : Nat) (name : String) :
    Option Datum :=
  match name with
  | "index" => some (.ofNat (i + 1))
  | "index0" => some (.ofNat i)
  | "revindex" => some (.ofNat (xs.length - i))
  | "revindex0" => some (.ofNat (xs.length - i - 1))
  | "first" => some (.ofBool (i == 0))
  | "last" => some (.ofBool (i + 1 == xs.length))
  | "length" => some (.ofNat xs.length)
  | "depth" => some (.ofNat (depth + 1))
  | "depth0" => some (.ofNat depth)
  | "previtem" => some (if i = 0 then .undefined else xs.getD (i - 1) .undefined)
  | "nextitem" => some (xs.getD (i + 1) .undefined)
  | "cycle" => some (.method d name)
  | "changed" => some (.method d name)
  | _ => none

/-- A field of a value. -/
def Datum.field? (d : Datum) (name : String) : Option Datum :=
  let methodOf := fun (ns : List String) => if ns.contains name then some (.method d name) else none
  match d with
  | .text _ _ => methodOf TextMethod.names
  | .list _ => methodOf listMethods
  | .tuple _ => methodOf tupleMethods
  | .group k xs =>
    if name == "grouper" then some k
    else if name == "list" then some (.list xs)
    else methodOf tupleMethods
  | .dict _ => methodOf dictMethods
  | .range a b c =>
    match name with
    | "start" => some (.ofInt a)
    | "stop" => some (.ofInt b)
    | "step" => some (.ofInt c)
    | _ => methodOf tupleMethods
  | .plain (.stamp t) => stampField? t name
  | .round i xs depth _ _ _ => roundField? d i xs depth name
  | .routine n sig _ _ =>
    match name with
    | "name" => some (.ofText n)
    | "arguments" => some (.tuple (sig.params.map .ofText))
    | _ => none
  | d =>
    match d.number? with
    | some n => numberField? n name
    | none => none

/-- The member at a position or key, if there is one. -/
def Datum.member? (d i : Datum) : Option Datum :=
  let at_ := fun (xs : List Datum) => (i.int?).bind fun n =>
    let n := if n < 0 then n + xs.length else n
    if n < 0 then none else xs[n.toNat]?
  match d with
  | .text s safe => (at_ (s.toList.map fun c => .ofChars [c])).map fun c => .text c.shown safe
  | .list xs => at_ xs
  | .tuple xs => at_ xs
  | .group k xs => at_ [k, .list xs]
  | .dict es => if i.isKey then lookup? es i else none
  | .range a b c => (i.int?).bind fun n =>
    let size := rangeLength a b c
    let n := if n < 0 then n + size else n
    if 0 ≤ n && n < size then some (.ofInt (a + c * n)) else none
  | .plain (.bytes b) => at_ (b.map fun x => .ofNat x.toNat)
  | _ => none

/-- What follows a point: a field, or else a member. -/
def Datum.getField (d : Datum) (name : String) : Result Datum :=
  match d with
  | .undefined => .error .undefined
  | d =>
    match d.field? name with
    | some x => .ok x
    | none => .ok ((d.member? (.ofText name)).getD .undefined)

/-- What stands in brackets: a member, or else a field. -/
def Datum.getItem (d i : Datum) : Result Datum :=
  match d with
  | .undefined => .error .undefined
  | d =>
    match d.member? i, i with
    | some x, _ => .ok x
    | none, .text name _ => .ok ((d.field? name).getD .undefined)
    | none, _ => .ok .undefined

/-- Calls a method that leaves its value as it is. -/
def callMethod (d : Datum) (name : String) (a : Args) : Result Datum :=
  match d, name with
  | .text s safe, _ => TextMethod.call s safe name a
  | .list xs, _ => listCall xs name a
  | .tuple xs, _ => listCall xs name a
  | .group k xs, _ => listCall [k, .list xs] name a
  | .dict es, _ => dictCall es name a
  | .range x y z, _ => do listCall (← (Datum.range x y z).members) name a
  | .plain (.stamp t), "isoformat" => .ok (.ofText t.standard)
  | .plain (.int n), "bit_length" => .ok (.ofNat (if n = 0 then 0 else Nat.log2 n.natAbs + 1))
  | .plain (.float x), "is_integer" => .ok (.ofBool (x.isFinite && x.floor == x))
  | .plain (.float x), "hex" => .ok (.ofChars (Decimal.hexadecimal x))
  | d, "as_integer_ratio" =>
    match d.number?.bind Number.fraction? with
    | some (n, k) =>
      let g := Nat.gcd n.natAbs k
      .ok (.tuple [.ofInt (n / g), .ofNat (k / g)])
    | none => .error .value
  | d, "conjugate" => .ok d
  | .round i xs _ _ _ _, "cycle" =>
    if xs.isEmpty || a.positional.isEmpty then .error .kind
    else .ok (a.positional.getD (i % a.positional.length) .undefined)
  | _, _ => .error .kind

end TermRef.Template
