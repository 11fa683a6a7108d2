/-
TermRef/Template/Format.lean

Texts with places for values.

There are two ways to write a place.  After a percent sign come flags, a width, a
precision and a letter for the kind of text that the value is put in as; between
braces come the position or name of the value and, after a colon, a fill character,
an alignment, a width, a precision and a letter.
-/
import TermRef.Template.Arithmetic
import TermRef.Text.Pieces
import TermRef.Decimal.Numeral

namespace TermRef.Template

/-- The arguments of a call. -/
structure Args where
  positional : List Datum := []
  named : List (String × Datum) := []
  deriving Inhabited

namespace Format

/-! ### Fields -/

/-- On which side a value is filled up. -/
inductive Align where
  | left
  | right
  | center
  /-- Between the sign and the digits. -/
  | inside
  deriving DecidableEq, Repr

/-- How a value is put in. -/
structure Field where
  fill : Char := ' '
  align : Option Align := none
  sign : Char := '-'
  alternate : Bool := false
  width : Nat := 0
  grouping : Option Char := none
  precision : Option Nat := none
  letter : Option Char := none

/-- A sign and a text, filled up to the width of a field. -/
def Field.pad (f : Field) (dflt : Align) (sign body : List Char) : List Char :=
  match f.align.getD dflt with
  | .left => Pieces.padRight f.fill f.width (sign ++ body)
  | .right => Pieces.padLeft f.fill f.width (sign ++ body)
  | .center =>
    let s := sign ++ body
    let room := f.width - s.length
    List.replicate (room / 2) f.fill ++ s ++ List.replicate (room - room / 2) f.fill
  | .inside => sign ++ Pieces.padLeft f.fill (f.width - sign.length) body

/-- The sign of a number in a field. -/
def Field.signOf (f : Field) (neg : Bool) : List Char :=
  if neg then ['-'] else if f.sign == '-' then [] else [f.sign]

/-- A text of digits, latest first, with marks between groups of three. -/
def groupDigits (mark : Char) : List Char → List Char
  | a :: b :: c :: d :: r => a :: b :: c :: mark :: groupDigits mark (d :: r)
  | s => s

/-- Digits before the point in groups, if the field asks for it. -/
def Field.grouped (f : Field) (s : List Char) : List Char :=
  match f.grouping with
  | none => s
  | some mark =>
    let (whole, rest) := s.span Char.isDigit
    (groupDigits mark whole.reverse).reverse ++ rest

/-- Capital letters, if the letter of a field is one. -/
def capitals (letter : Char) (s : List Char) : List Char :=
  if letter.isUpper then s.map Char.toUpper else s

/-- A floating point number in a field, with its letter. -/
def Field.float (f : Field) (letter : Char) (x : Float) : List Char × List Char :=
  let bits := x.toBits.toNat
  let neg := bits / Nat.pow 2 63 % 2 == 1 && !x.isNaN
  let low := letter.toLower
  match Decimal.fraction? x with
  | none => (f.signOf neg, capitals letter (if x.isNaN then "nan".toList else "inf".toList))
  | some r =>
    let p := f.precision.getD 6
    let body :=
      if low == 'f' then r.fixed p
      else if low == 'e' then r.withExponent p
      else if low == '%' then ({ r with num := r.num * 100 }).fixed p ++ ['%']
      else r.general p
    (f.signOf neg, f.grouped (capitals letter body))

/-- A whole number in a field, with its letter. -/
def Field.int (f : Field) (letter : Char) (n : Int) : List Char × List Char :=
  let (base, mark) := match letter with
    | 'x' => (16, "0x")
    | 'X' => (16, "0X")
    | 'o' => (8, "0o")
    | 'b' => (2, "0b")
    | _ => (10, "")
  let d := capitals letter (Nat.toDigits base n.natAbs)
  let d := List.replicate (f.precision.getD 0 - d.length) '0' ++ d
  (f.signOf (n < 0) ++ (if f.alternate then mark.toList else []), f.grouped d)

/-- A whole number in a field, if it is short enough for its base. -/
def Field.whole (f : Field) (letter : Char) (n : Int) : Result (List Char × List Char) :=
  if "xXob".contains letter || isShort n then .ok (f.int letter n) else .error .tooLarge

/-! ### Places after a percent sign -/

/-- The flags of a place. -/
def flags : Field → List Char → Field × List Char
  | f, '-' :: r => flags { f with align := some .left } r
  | f, '+' :: r => flags { f with sign := '+' } r
  | f, ' ' :: r => flags (if f.sign == '+' then f else { f with sign := ' ' }) r
  | f, '0' :: r => flags (if f.align == some .left then f else { f with align := some .inside }) r
  | f, '#' :: r => flags { f with alternate := true } r
  | f, s => (f, s)

/-- A number in decimal. -/
def decimal (s : List Char) : Option Nat × List Char :=
  let (d, r) := s.span Char.isDigit
  ((Decimal.readInt 10 d).map Int.toNat, r)

/-- The values still to be put in: those in order, or those with a name. -/
structure Values where
  ordered : List Datum
  named : Option (List (Datum × Datum))

/-- The next value in order. -/
def Values.next (v : Values) : Result (Datum × Values) :=
  match v.ordered with
  | d :: r => .ok (d, { v with ordered := r })
  | [] => .error .kind

/-- A width or precision, which may be a value itself. -/
def measure (v : Values) (s : List Char) : Result (Option Int × Values × List Char) :=
  match s with
  | '*' :: r => do
    let (d, v) ← v.next
    match d.int? with
    | some n => do
      let _ ← Datum.fitting n.natAbs
      pure (some n, v, r)
    | none => throw .kind
  | s => do
    let (n, r) := decimal s
    let _ ← Datum.fitting (n.getD 0)
    pure (n.map Int.ofNat, v, r)

/-- A value put in at a place. -/
def place (f : Field) (letter : Char) (d : Datum) : Result (List Char) :=
  let text := fun (s : String) =>
    let s := match f.precision with
      | some p => s.toList.take p
      | none => s.toList
    let f := { f with fill := ' ', align := f.align.filter (· == Align.left) }
    f.pad .right [] s
  let numeric := fun (sign, body) =>
    let f := { f with fill := if f.align == some Align.inside then '0' else ' ' }
    f.pad .right sign body
  if letter == 's' then do pure (text (← d.toText))
  else if letter == 'r' || letter == 'a' then do pure (text (← d.toQuoted))
  else if letter == 'c' then
    match d with
    | .text s _ => if s.length = 1 then .ok (text s) else .error .kind
    | d =>
      match d.int? with
      | some n => if 0 ≤ n ∧ n < 0x110000 then .ok (text (Char.ofNat n.toNat).toString)
          else .error .value
      | none => .error .kind
  else if "diu".contains letter then
    match d.number? with
    | some (.int n) => do pure (numeric (← f.whole 'd' n))
    | some (.float x) =>
      match Decimal.fraction? x with
      | some r =>
        let n := (r.num / r.den : Nat)
        .ok (numeric (f.int 'd' (if r.neg then -(n : Int) else n)))
      | none => .error .value
    | none => .error (Datum.misfit d d)
  else if "xXo".contains letter then
    match d.int? with
    | some n => do pure (numeric (← f.whole letter n))
    | none => .error (Datum.misfit d d)
  else if "eEfFgG".contains letter then
    match d.number? with
    | some n => do
      let x ← n.toFloat
      pure (numeric (f.float letter x))
    | none => .error (Datum.misfit d d)
  else .error .value

/-- The name of a value at a place, up to the bracket that closes it. -/
def nameUpTo : Nat → List Char → List Char → Option (List Char × List Char)
  | _, _, [] => none
  | depth, done, c :: r =>
    if c == ')' then
      match depth with
      | 0 => some (done.reverse, r)
      | n + 1 => nameUpTo n (c :: done) r
    else nameUpTo (if c == '(' then depth + 1 else depth) (c :: done) r

/-- A text with values put in at its places. -/
def percentFrom : Nat → Values → List Char → Result (List Char × Values)
  | 0, v, _ => .ok ([], v)
  | _, v, [] => .ok ([], v)
  | f + 1, v, '%' :: r => do
    let (v, r) ← match r with
      | '(' :: r =>
        match v.named, nameUpTo 0 [] r with
        | some es, some (k, r) =>
          match Datum.lookup? es (.ofChars k) with
          | some d => pure ({ v with ordered := [d] }, r)
          | none => throw .value
        | _, _ => throw .kind
      | r => pure (v, r)
    let (field, r) := flags {} r
    let (width, v, r) ← measure v r
    let field := match width with
      | some n =>
        { field with width := n.natAbs, align := if n < 0 then some .left else field.align }
      | none => field
    let (precision, v, r) ← match r with
      | '.' :: r => do
        let (p, v, r) ← measure v r
        pure (some (p.getD 0).toNat, v, r)
      | r => pure (none, v, r)
    let field := { field with precision }
    match r.dropWhile fun c => c == 'h' || c == 'l' || c == 'L' with
    | '%' :: r =>
      let (s, v) ← percentFrom f v r
      pure ('%' :: s, v)
    | c :: r =>
      let (d, v) ← v.next
      let a ← place field c d
      let (s, v) ← percentFrom f v r
      pure (a ++ s, v)
    | [] => throw .value
  | f + 1, v, c :: r => do
    let (s, v) ← percentFrom f v r
    pure (c :: s, v)

/-- A value that is put into a marked text. -/
def escapedValue (d : Datum) : Datum :=
  match d with
  | .text _ _ => .text d.escaped true
  | d => d

/-- A text with values put in: those of a tuple one by one, those of a dictionary by
their names, any other as the only one.  All have to be used, unless the value has
members that could be asked for by a name. -/
def percent (s : String) (safe : Bool) (d : Datum) : Result Datum := do
  let mark := fun d => if safe then escapedValue d else d
  let values : Values := match d with
    | .tuple xs => ⟨xs.map mark, none⟩
    | .group k xs => ⟨[mark k, mark (.list xs)], none⟩
    | .dict es => ⟨[d], some (es.map fun (k, v) => (k, mark v))⟩
    | .list _ | .range _ _ _ | .undefined | .plain (.bytes _) => ⟨[mark d], some []⟩
    | d => ⟨[mark d], none⟩
  let (t, rest) ← percentFrom (s.length + 1) values s.toList
  if values.named.isNone && !rest.ordered.isEmpty then throw .kind
  pure (.text (String.ofList t) safe)

/-! ### Places between braces -/

/-- The alignment that a character stands for. -/
def align? : Char → Option Align
  | '<' => some .left
  | '>' => some .right
  | '^' => some .center
  | '=' => some .inside
  | _ => none

/-- The field that is written after the colon of a place. -/
def readField (s : List Char) : Option Field := do
  let f : Field := {}
  let (f, s) := match s with
    | c :: a :: r =>
      match align? a, align? c with
      | some x, _ => ({ f with fill := c, align := some x }, r)
      | none, some x => ({ f with align := some x }, a :: r)
      | none, none => (f, s)
    | [c] =>
      match align? c with
      | some x => ({ f with align := some x }, [])
      | none => (f, s)
    | [] => (f, s)
  let (f, s) := match s with
    | c :: r => if c == '+' || c == '-' || c == ' ' then ({ f with sign := c }, r) else (f, s)
    | [] => (f, s)
  let (f, s) := match s with
    | '#' :: r => ({ f with alternate := true }, r)
    | s => (f, s)
  let (f, s) := match s with
    | '0' :: r =>
      (if f.align.isNone then { f with fill := '0', align := some .inside } else f, r)
    | s => (f, s)
  let (width, s) := decimal s
  let f := { f with width := width.getD 0 }
  let (f, s) := match s with
    | ',' :: r => ({ f with grouping := some ',' }, r)
    | '_' :: r => ({ f with grouping := some '_' }, r)
    | s => (f, s)
  let (f, s) ← match s with
    | '.' :: r =>
      match decimal r with
      | (some p, r) => some ({ f with precision := some p }, r)
      | (none, _) => none
    | s => some (f, s)
  match s with
  | [] => some f
  | [c] => some { f with letter := some c }
  | _ => none

/-- A value put in at a place with a field. -/
def putIn (f : Field) (d : Datum) : Result (List Char) :=
  match d.number?, d with
  | some (.int n), _ =>
    match f.letter with
    | none => do
      let (s, b) ← f.whole 'd' n
      pure (f.pad .right s b)
    | some c =>
      if "dxXobn".contains c then do
        let (s, b) ← f.whole c n
        pure (f.pad .right s b)
      else if "eEfFgG%".contains c then do
        let x ← (Number.int n).toFloat
        let (s, b) := f.float c x
        pure (f.pad .right s b)
      else .error .value
  | some (.float x), _ =>
    match f.letter, f.precision with
    | none, none =>
      let s := (Decimal.ofFloat x).toList
      let (sign, body) := match s with
        | '-' :: r => (['-'], r)
        | r => (f.signOf false, r)
      .ok (f.pad .right sign (f.grouped body))
    | l, _ =>
      let c := l.getD 'g'
      if "eEfFgGn%".contains c then
        let (s, b) := f.float c x
        .ok (f.pad .right s b)
      else .error .value
  | _, d =>
    if f.letter.getD 's' != 's' || f.sign != '-' || f.alternate || f.grouping.isSome ||
        f.align == some .inside then .error .value
    else do
      let shown := (← d.toText).toList
      let s := match f.precision with
        | some p => shown.take p
        | none => shown
      pure (f.pad .left [] s)

/-- The value with a name or a position. -/
def argument? (args : Args) (name : List Char) : Option Datum :=
  if !name.isEmpty && name.all Char.isDigit then
    (Decimal.readInt 10 name).bind fun n => args.positional[n.toNat]?
  else (args.named.find? fun e => e.1 == String.ofList name).map (·.2)

/-- The text of a place, put in from its name, its conversion and its field. -/
def bracePlace (args : Args) (auto : Nat) (inner : List Char) : Result (List Char × Nat) := do
  let (head, spec) := match inner.span (· != ':') with
    | (a, _ :: b) => (a, b)
    | (a, []) => (a, [])
  let (name, conversion) := match head.span (· != '!') with
    | (a, _ :: b) => (a, b)
    | (a, []) => (a, [])
  let (found, auto) :=
    if name.isEmpty then (args.positional[auto]?, auto + 1) else (argument? args name, auto)
  match found, readField spec with
  | some d, some f =>
    let d ← match conversion with
      | [] => pure d
      | ['r'] => pure (.ofText (← d.toQuoted))
      | ['a'] => pure (.ofText (← d.toQuoted))
      | ['s'] => pure (.ofText (← d.toText))
      | _ => throw .value
    let _ ← Datum.fitting (max f.width (f.precision.getD 0))
    let s ← if spec.isEmpty then do pure (← d.toText).toList else putIn f d
    pure (s, auto)
  | _, _ => throw .value

/-- A text with values put in between braces; `auto` is the position of the next value
without a name. -/
def bracesFrom (args : Args) : Nat → Nat → List Char → Result (List Char)
  | 0, _, _ => .ok []
  | _, _, [] => .ok []
  | f + 1, auto, '\x7b' :: '\x7b' :: r => do pure ('\x7b' :: (← bracesFrom args f auto r))
  | f + 1, auto, '\x7d' :: '\x7d' :: r => do pure ('\x7d' :: (← bracesFrom args f auto r))
  | _, _, '\x7d' :: _ => .error .value
  | f + 1, auto, '\x7b' :: r => do
    match Pieces.cutAt? ['\x7d'] r with
    | some (inner, rest) =>
      let (s, auto) ← bracePlace args auto inner
      pure (s ++ (← bracesFrom args f auto rest))
    | none => throw .value
  | f + 1, auto, c :: r => do pure (c :: (← bracesFrom args f auto r))

/-- A text with values put in between braces. -/
def braces (s : String) (safe : Bool) (args : Args) : Result Datum := do
  let t ← bracesFrom args (s.length + 1) 0 s.toList
  pure (.text (String.ofList t) safe)

end Format

end TermRef.Template
