/-
TermRef/Value/Basic.lean

The values that configuration and terminology files hold.

A file is read without knowing what it should hold, so its values are of one
type with a constructor for every kind of value.  A mapping keeps its entries in
the order in which they were first written, and its keys are values of any kind
that differ from each other; numbers and truth values count as equal across
their kinds when they are equal as numbers.
-/
import TermRef.Decimal.Shortest

namespace TermRef

/-- A time of day, with its distance from universal time in seconds if known. -/
structure Clock where
  hour : Nat
  minute : Nat
  second : Nat
  micro : Nat
  offset : Option Int
  deriving DecidableEq, Repr

/-- A day, or a moment on it. -/
structure Stamp where
  year : Nat
  month : Nat
  day : Nat
  clock : Option Clock
  deriving DecidableEq, Repr

/-- A value of any kind. -/
inductive Value where
  | null
  | bool (b : Bool)
  | int (n : Int)
  | float (x : Float)
  | text (s : String)
  | bytes (b : List UInt8)
  | stamp (t : Stamp)
  | list (xs : List Value)
  | tuple (xs : List Value)
  | set (xs : List Value)
  | mapping (es : List (Value × Value))
  deriving Inhabited

namespace Value

/-! ### Numbers -/

/-- The whole number that a floating point number equals, if there is one. -/
def wholeOf (x : Float) : Option Int :=
  let bits := x.toBits.toNat
  let rest := bits % Nat.pow 2 63
  if rest = 0 then some 0
  else if rest ≥ 0x7ff0000000000000 then none
  else
    let b := Decimal.Binary.ofBits rest
    let size : Option Nat :=
      if 0 ≤ b.q then some (b.m * Nat.pow 2 b.q.toNat)
      else
        let d := Nat.pow 2 (-b.q).toNat
        if b.m % d = 0 then some (b.m / d) else none
    size.map fun (n : Nat) => if bits ≥ Nat.pow 2 63 then -(n : Int) else (n : Int)

/-- The whole number that a value equals, if there is one. -/
def whole? : Value → Option Int
  | .bool b => some (if b then 1 else 0)
  | .int n => some n
  | .float x => wholeOf x
  | _ => none

/-! ### Equality -/

mutual

/-- Equality of values. -/
def same : Value → Value → Bool
  | .null, .null => true
  | .text a, .text b => a == b
  | .bytes a, .bytes b => a == b
  | .stamp a, .stamp b => a == b
  | .list a, .list b => sameAll a b
  | .tuple a, .tuple b => sameAll a b
  | .set a, .set b => a.length == b.length && subset a b
  | .mapping a, .mapping b => a.length == b.length && submap a b
  | .float a, .float b => a == b
  | a, b =>
    match a.whole?, b.whole? with
    | some m, some n => m == n
    | _, _ => false

/-- Equality of lists, member by member. -/
def sameAll : List Value → List Value → Bool
  | [], [] => true
  | a :: r, b :: s => same a b && sameAll r s
  | _, _ => false

/-- Every member of the first list is in the second. -/
def subset : List Value → List Value → Bool
  | [], _ => true
  | a :: r, s => (s.any fun b => same a b) && subset r s

/-- Every entry of the first mapping is in the second. -/
def submap : List (Value × Value) → List (Value × Value) → Bool
  | [], _ => true
  | (k, v) :: r, s => (s.any fun e => same k e.1 && same v e.2) && submap r s

end

/-! ### Truth -/

/-- Whether a value counts as true: nothing, zero and what is empty do not. -/
def isTrue : Value → Bool
  | .null => false
  | .bool b => b
  | .int n => n != 0
  | .float x => x != 0.0
  | .text s => !s.isEmpty
  | .bytes b => !b.isEmpty
  | .stamp _ => true
  | .list xs => !xs.isEmpty
  | .tuple xs => !xs.isEmpty
  | .set xs => !xs.isEmpty
  | .mapping es => !es.isEmpty

end Value

/-! ### Mappings -/

/-- The entries of a mapping. -/
abbrev Entries := List (Value × Value)

/-- The value of a key. -/
def Entries.get? (es : Entries) (k : Value) : Option Value :=
  (es.find? fun e => e.1.same k).map (·.2)

/-- The value of a key that is a text. -/
def Entries.field? (es : Entries) (name : String) : Option Value :=
  es.get? (.text name)

/-- The mapping with one entry set: in place if its key is there, at the end
otherwise. -/
def Entries.put (es : Entries) (k v : Value) : Entries :=
  match es with
  | [] => [(k, v)]
  | (l, w) :: r => if l.same k then (l, v) :: r else (l, w) :: Entries.put r k v

end TermRef
