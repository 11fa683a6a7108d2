/-
TermRef/Decimal/Numeral.lean

Reading numerals.

Whole numbers and floating point numbers may have a sign, single underscores
between digits, and digits of any script; blanks around a numeral do not
count.  `readInt` takes a base from 2 to 36; `readFloat` also takes the words
for infinity and for the undefined number.
-/
import TermRef.Unicode.Blank
import TermRef.Unicode.Digit
import TermRef.Unicode.Case

namespace TermRef.Decimal

/-- The value of a digit in bases up to 36. -/
def digitValue? (c : Char) : Option Nat :=
  match Unicode.decimalValue? c with
  | some v => some v
  | none =>
    if 'a' ≤ c && c ≤ 'z' then some (c.toNat - 'a'.toNat + 10)
    else if 'A' ≤ c && c ≤ 'Z' then some (c.toNat - 'A'.toNat + 10)
    else none

/-- Digits of a base with single underscores between them, read on top of the
value `acc`; `fresh` says that an underscore may not come next. -/
def readDigits (base : Nat) (fresh : Bool) (acc : Nat) : List Char → Option Nat
  | [] => if fresh then none else some acc
  | '_' :: r => if fresh then none else readDigits base true acc r
  | c :: r =>
    match digitValue? c with
    | some v => if v < base then readDigits base false (acc * base + v) r else none
    | none => none

/-- A sign and what follows it; `true` is the minus sign. -/
def splitSign : List Char → Bool × List Char
  | '-' :: r => (true, r)
  | '+' :: r => (false, r)
  | s => (false, s)

/-- A whole number in a base, without a mark for the base. -/
def readInt (base : Nat) (s : List Char) : Option Int :=
  let (neg, r) := splitSign (Unicode.strip s)
  (readDigits base true 0 r).map fun (n : Nat) => if neg then -(n : Int) else (n : Int)

/-- The text up to the first character that satisfies `p`, and what follows that
character. -/
def cut (p : Char → Bool) (s : List Char) : List Char × Option (List Char) :=
  match s.span fun c => !p c with
  | (a, []) => (a, none)
  | (a, _ :: b) => (a, some b)

/-- Digits that may be absent, with their number. -/
def readPart (s : List Char) : Option (Nat × Nat) :=
  if s.isEmpty then some (0, 0)
  else (readDigits 10 true 0 s).map fun n => (n, (s.filter (· != '_')).length)

/-- `(-1)^neg · m · 10^e`. -/
def makeFloat (neg : Bool) (m : Nat) (e : Int) : Float :=
  let x :=
    if m == 0 then 0.0
    else if 0 ≤ e then (if e > 400 then 1.0 / 0.0 else Float.ofScientific m false e.toNat)
    else Float.ofScientific m true (-e).toNat
  if neg then -x else x

/-- A number with optional point and exponent. -/
def readDecimal (neg : Bool) (s : List Char) : Option Float :=
  let (mantissa, exponent) := cut (fun c => c == 'e' || c == 'E') s
  let (whole, fraction) := cut (· == '.') mantissa
  let exp? : Option Int := match exponent with
    | none => some 0
    | some r =>
      let (n, d) := splitSign r
      (readDigits 10 true 0 d).map fun (k : Nat) => if n then -(k : Int) else (k : Int)
  match readPart whole, readPart (fraction.getD []), exp? with
  | some (a, na), some (b, nb), some e =>
    if na + nb = 0 then none
    else
      let e := if e > 100000 then 100000 else if e < -100000 then -100000 else e
      some (makeFloat neg (a * Nat.pow 10 nb + b) (e - nb))
  | _, _, _ => none

/-- A floating point number. -/
def readFloat (s : List Char) : Option Float :=
  let (neg, r) := splitSign (Unicode.strip s)
  let word := String.ofList (r.map Char.toLower)
  if word == "inf" || word == "infinity" then
    some (if neg then -(1.0 / 0.0) else 1.0 / 0.0)
  else if word == "nan" then some (0.0 / 0.0)
  else readDecimal neg r

end TermRef.Decimal
