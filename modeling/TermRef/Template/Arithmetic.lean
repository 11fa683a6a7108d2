/-
TermRef/Template/Arithmetic.lean

Arithmetic and order of values in templates.

Whole numbers are exact; an operation on a whole and a floating point number is one
on floating point numbers, except that they are compared exactly.  Division of whole
numbers gives a floating point number, division to the floor and its remainder take
the sign of the divisor.  Texts and lists can be joined and repeated, and a marked
text marks what is joined to it, escaping it first.
-/
import TermRef.Template.Datum
import TermRef.Decimal.Places
import TermRef.Text.Markup

namespace TermRef.Template

/-! ### Escaping -/

/-- The text of a value as it stands in markup; a marked text stays as it is. -/
def Datum.escaped : Datum → String
  | .text s true => s
  | d => Markup.escape d.shown

/-- The text of a value in markup, which fails with a number that is too long. -/
def Datum.toMarkup (d : Datum) : Result String :=
  if d.hasText then .ok d.escaped else .error .tooLarge

/-! ### Numbers -/

/-- Whole and floating point numbers. -/
inductive Number where
  | int (n : Int)
  | float (x : Float)

/-- The number that a value is. -/
def Datum.number? : Datum → Option Number
  | .plain (.int n) => some (.int n)
  | .plain (.bool b) => some (.int (if b then 1 else 0))
  | .plain (.float x) => some (.float x)
  | _ => none

namespace Number

/-- A number as a value. -/
def toDatum : Number → Datum
  | .int n => .ofInt n
  | .float x => .ofFloat x

/-- A whole number as the nearest floating point number, if it is not too large. -/
def floatOf? (n : Int) : Option Float :=
  let x := Decimal.nearest (n < 0) n.natAbs 0
  if x.isFinite then some x else none

/-- A number as a floating point number. -/
def toFloat : Number → Result Float
  | .int n => match floatOf? n with
    | some x => .ok x
    | none => .error .value
  | .float x => .ok x

/-- A finite number as a fraction with a positive denominator. -/
def fraction? : Number → Option (Int × Nat)
  | .int n => some (n, 1)
  | .float x => (Decimal.fraction? x).map fun r => (if r.neg then -(r.num : Int) else r.num, r.den)

/-- The floating point number nearest to a fraction, with the sign of the fraction. -/
def ofFraction (num : Int) (den : Nat) : Float :=
  if num = 0 then 0.0
  else
    let n := num.natAbs
    let shift : Int := (Nat.log2 n : Int) - Nat.log2 den
    let scale := 64 - shift
    let q : Nat := if 0 ≤ scale then n * Nat.pow 2 scale.toNat / den else n / (den * Nat.pow 2 (-scale).toNat)
    let exact : Bool :=
      if 0 ≤ scale then n * Nat.pow 2 scale.toNat % den == 0 else n % (den * Nat.pow 2 (-scale).toNat) == 0
    let sticky : Nat := if exact then 0 else 1
    let x := Float.scaleB (Float.ofNat (2 * q + sticky)) (-scale - 1)
    if num < 0 then -x else x

/-- The remainder of truncated division, exactly. -/
def truncatedRem (x y : Float) : Float :=
  match Number.fraction? (.float x), Number.fraction? (.float y) with
  | some (a, b), some (c, d) =>
    let r := Int.tmod (a * d) (c * b)
    if r = 0 then (if Decimal.isNegative x then -0.0 else 0.0)
    else ofFraction r (b * d)
  | some _, none => if y.isNaN then y else x
  | none, _ => 0.0 / 0.0

/-- Floor and remainder of the division of floating point numbers. -/
def floatDivMod (x y : Float) : Float × Float :=
  let r := truncatedRem x y
  let d := (x - r) / y
  let (r, d) :=
    if r != 0.0 && !r.isNaN then (if (y < 0.0) != (r < 0.0) then (r + y, d - 1.0) else (r, d))
    else (if y < 0.0 then -0.0 else 0.0, d)
  let f := if d != 0.0 then (if d - d.floor > 0.5 then d.floor + 1.0 else d.floor)
    else (if Decimal.isNegative (x / y) then -0.0 else 0.0)
  (f, r)

/-- Addition, subtraction or multiplication. -/
def ring (ints : Int → Int → Int) (floats : Float → Float → Float) (a b : Number) :
    Result Number :=
  match a, b with
  | .int m, .int n => .ok (.int (ints m n))
  | a, b => do pure (.float (floats (← a.toFloat) (← b.toFloat)))

/-- A number is zero. -/
def isZero : Number → Bool
  | .int n => n == 0
  | .float x => x == 0.0

/-- Division. -/
def div (a b : Number) : Result Number :=
  if b.isZero then .error .zeroDivision
  else match a, b with
    | .int 0, .int n => .ok (.float (if n < 0 then -0.0 else 0.0))
    | .int m, .int n =>
      let x := ofFraction (if n < 0 then -m else m) n.natAbs
      if x.isFinite then .ok (.float x) else .error .value
    | a, b => do pure (.float ((← a.toFloat) / (← b.toFloat)))

/-- Division to the floor. -/
def floorDiv (a b : Number) : Result Number :=
  if b.isZero then .error .zeroDivision
  else match a, b with
    | .int m, .int n => .ok (.int (Int.fdiv m n))
    | a, b => do pure (.float (floatDivMod (← a.toFloat) (← b.toFloat)).1)

/-- The remainder of division to the floor. -/
def rem (a b : Number) : Result Number :=
  if b.isZero then .error .zeroDivision
  else match a, b with
    | .int m, .int n => .ok (.int (Int.fmod m n))
    | a, b => do pure (.float (floatDivMod (← a.toFloat) (← b.toFloat)).2)

/-- The greatest number of bits of a power that is computed. -/
def powerBits : Nat := 1000000

/-- A power. -/
def pow (a b : Number) : Result Number :=
  match a, b with
  | .int m, .int n =>
    if 0 ≤ n then
      if m.natAbs ≤ 1 then .ok (.int (if n = 0 then 1 else if m < 0 ∧ n % 2 = 0 then 1 else m))
      else if Nat.log2 m.natAbs * n.toNat ≤ powerBits then .ok (.int (Int.pow m n.toNat))
      else .error .tooLarge
    else if m = 0 then .error .zeroDivision
    else do pure (.float (Float.pow (← (Number.int m).toFloat) (← (Number.int n).toFloat)))
  | a, b => do
    let x ← a.toFloat
    let y ← b.toFloat
    if x == 0.0 && y < 0.0 then throw .zeroDivision
    if x < 0.0 && y.isFinite && y.floor != y then throw .value
    let z := Float.pow x y
    if x.isFinite && y.isFinite && !z.isFinite then throw .value
    pure (.float z)

/-- Order of numbers; with the undefined number there is none. -/
def less (orEqual : Bool) (a b : Number) : Bool :=
  match a.fraction?, b.fraction? with
  | some (m, c), some (n, d) => if orEqual then m * d ≤ n * c else m * d < n * c
  | _, _ =>
    let value : Number → Float := fun
      | .int n => if n < 0 then -1.0 else 1.0
      | .float x => if x.isFinite then 1.0 else x
    if orEqual then value a ≤ value b else value a < value b

end Number

/-! ### Order -/

namespace Datum

mutual

/-- The first value is less than the second, or equal to it if `orEqual`; values of
kinds that cannot be ordered are refused. -/
def less (orEqual : Bool) : Datum → Datum → Result Bool
  | .text a _, .text b _ => .ok (if orEqual then a ≤ b else a < b)
  | .list a, .list b => lessAll orEqual a b
  | .tuple a, .tuple b => lessAll orEqual a b
  | .group k a, .group l b => if k.same l then lessAll orEqual a b else less orEqual k l
  | .plain (.stamp a), .plain (.stamp b) =>
    .ok (if orEqual then a.standard ≤ b.standard else a.standard < b.standard)
  | a, b =>
    match a.number?, b.number? with
    | some m, some n => .ok (m.less orEqual n)
    | _, _ =>
      match a, b with
      | .undefined, _ => .error .undefined
      | _, .undefined => .error .undefined
      | _, _ => .error .kind

/-- Order of lists: by the first members that differ, then by length. -/
def lessAll (orEqual : Bool) : List Datum → List Datum → Result Bool
  | [], [] => .ok orEqual
  | [], _ :: _ => .ok true
  | _ :: _, [] => .ok false
  | a :: r, b :: s => if a.same b then lessAll orEqual r s else less orEqual a b

end

/-- A text is in another at some place. -/
def isPart (part : List Char) : List Char → Bool
  | [] => part.isEmpty
  | c :: r => part.isPrefixOf (c :: r) || isPart part r

/-- A number is a member of a range. -/
def inRange (start stop step n : Int) : Bool :=
  let i := (n - start).fdiv step
  start + step * i == n && 0 ≤ i && i < rangeLength start stop step

/-- A value is in another. -/
def isIn (a b : Datum) : Result Bool :=
  match b, a with
  | .text s _, .text t _ => .ok (isPart t.toList s.toList)
  | .text _ _, _ => .error .kind
  | .dict es, _ => if a.isKey then .ok (es.any fun e => e.1.same a) else .error .kind
  | .view .keys xs, _ => if a.isKey then .ok (xs.any fun d => d.same a) else .error .kind
  | .range x y z, .plain v => .ok ((v.whole?).any (inRange x y z))
  | _, _ => do pure ((← b.members).any fun d => d.same a)

/-! ### Operations -/

/-- A list repeated; the number of times has to be one that can count. -/
def repeatList {α : Type} (n : Int) (xs : List α) : Result (List α) := do
  if n.natAbs ≥ Nat.pow 2 63 then throw .tooLarge
  let _ ← fitting (xs.length * n.toNat)
  pure (if xs.isEmpty then [] else (List.replicate n.toNat xs).flatten)

/-- A text or a list repeated. -/
def repeated? (n : Int) : Datum → Option (Result Datum)
  | .text s safe => some do pure (.text (String.ofList (← repeatList n s.toList)) safe)
  | .list xs => some do pure (.list (← repeatList n xs))
  | .tuple xs => some do pure (.tuple (← repeatList n xs))
  | _ => none

/-- The whole number that a value is. -/
def int? : Datum → Option Int
  | .plain (.int n) => some n
  | .plain (.bool b) => some (if b then 1 else 0)
  | _ => none

/-- The failure of an operation on values that it is not for. -/
def misfit : Datum → Datum → Failure
  | .undefined, _ => .undefined
  | _, .undefined => .undefined
  | _, _ => .kind

/-- A sum. -/
def add (a b : Datum) : Result Datum :=
  match a, b with
  | .text s true, .text _ _ => .ok (.text (s ++ b.escaped) true)
  | .text _ false, .text t true => .ok (.text (a.escaped ++ t) true)
  | .text s false, .text t false => .ok (.text (s ++ t) false)
  | .list xs, .list ys => .ok (.list (xs ++ ys))
  | .tuple xs, .tuple ys => .ok (.tuple (xs ++ ys))
  | _, _ =>
    match a.number?, b.number? with
    | some m, some n => do pure (← Number.ring (· + ·) (· + ·) m n).toDatum
    | _, _ => .error (misfit a b)

/-- A product. -/
def mul (a b : Datum) : Result Datum :=
  match a.number?, b.number? with
  | some m, some n => do pure (← Number.ring (· * ·) (· * ·) m n).toDatum
  | _, _ =>
    match (b.int?).bind fun n => a.repeated? n, (a.int?).bind fun n => b.repeated? n with
    | some r, _ => r
    | none, some r => r
    | none, none => .error (misfit a b)

/-- An operation on numbers. -/
def onNumbers (f : Number → Number → Result Number) (a b : Datum) : Result Datum :=
  match a.number?, b.number? with
  | some m, some n => do pure (← f m n).toDatum
  | _, _ => .error (misfit a b)

/-- A number with its sign changed. -/
def neg (a : Datum) : Result Datum :=
  match a.number? with
  | some (.int n) => .ok (ofInt (-n))
  | some (.float x) => .ok (ofFloat (-x))
  | none => .error (misfit a a)

/-- A number as it is. -/
def pos (a : Datum) : Result Datum :=
  match a.number? with
  | some n => .ok n.toDatum
  | none => .error (misfit a a)

end Datum

end TermRef.Template
