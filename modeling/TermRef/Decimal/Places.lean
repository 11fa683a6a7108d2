/-
TermRef/Decimal/Places.lean

Floating point numbers with a given number of decimal places.

A finite number is exactly a fraction, so its digits up to any place are those of
one rounded division; an exact half goes to the even neighbour.
-/
import TermRef.Decimal.Shortest

namespace TermRef.Decimal

/-- The quotient as a whole number; a half goes to the even neighbour. -/
def roundDiv (num den : Nat) : Nat :=
  let q := num / den
  let r := 2 * (num % den)
  if r < den then q else if den < r then q + 1 else if q % 2 == 0 then q else q + 1

/-- A finite number as a fraction: whether it is negative, numerator and
denominator. -/
structure Fraction where
  neg : Bool
  num : Nat
  den : Nat
  deriving DecidableEq, Repr

/-- The sign of a number is minus, which a zero can have too. -/
def isNegative (x : Float) : Bool := x.toBits.toNat ≥ Nat.pow 2 63

/-- The fraction that a finite number is. -/
def fraction? (x : Float) : Option Fraction :=
  let bits := x.toBits.toNat
  let neg := bits / Nat.pow 2 63 % 2 == 1
  let rest := bits % Nat.pow 2 63
  if rest = 0 then some ⟨neg, 0, 1⟩
  else if rest ≥ 0x7ff0000000000000 then none
  else
    let b := Binary.ofBits rest
    some (if 0 ≤ b.q then ⟨neg, b.m * Nat.pow 2 b.q.toNat, 1⟩
      else ⟨neg, b.m, Nat.pow 2 (-b.q).toNat⟩)

/-- The fraction as a whole number of units of `10^-places`. -/
def Fraction.units (x : Fraction) (places : Int) : Nat :=
  if 0 ≤ places then roundDiv (x.num * Nat.pow 10 places.toNat) x.den
  else roundDiv x.num (x.den * Nat.pow 10 (-places).toNat)

/-- The number nearest to `c · 10^p`. -/
def nearest (neg : Bool) (c : Nat) (p : Int) : Float :=
  let x := if 0 ≤ p then Float.ofScientific c false p.toNat else Float.ofScientific c true (-p).toNat
  if neg then -x else x

/-- A finite number rounded to a decimal place. -/
def roundTo (places : Int) (x : Float) : Float :=
  match fraction? x with
  | none => x
  | some r =>
    if 400 < places then x
    else if places < -400 then nearest r.neg 0 0
    else nearest r.neg (r.units places) (-places)

/-- `n` in decimal with at least `width` digits. -/
def digitsPadded (width n : Nat) : List Char :=
  let d := digits n
  List.replicate (width - d.length) '0' ++ d

/-- A fraction with a number of places after the point, its sign aside. -/
def Fraction.fixed (x : Fraction) (places : Nat) : List Char :=
  let d := digitsPadded (places + 1) (x.units places)
  let whole := d.take (d.length - places)
  if places = 0 then whole else whole ++ '.' :: d.drop (d.length - places)

/-- The exponent of the first digit of a fraction below one: `den ≤ num · 10^k` first
holds for the negative exponent `k`. -/
def smallExponent (den : Nat) : Nat → Nat → Nat
  | 0, _ => 0
  | f + 1, num => if den ≤ num then 0 else smallExponent den f (num * 10) + 1

/-- The exponent of the first digit. -/
def Fraction.exponent (x : Fraction) : Int :=
  if x.num = 0 then 0
  else if x.den ≤ x.num then (digits (x.num / x.den)).length - 1
  else -(smallExponent x.den 400 x.num : Int)

/-- The digits of a fraction, one before and some after the point, and the exponent. -/
def Fraction.digitsAndExponent (x : Fraction) (places : Nat) : Nat × Int :=
  let e := x.exponent
  let c := x.units (places - e)
  if c = Nat.pow 10 (places + 1) then (c / 10, e + 1) else (c, e)

/-- A fraction with an exponent, its sign aside. -/
def Fraction.withExponent (x : Fraction) (places : Nat) : List Char :=
  let (c, e) := x.digitsAndExponent places
  let d := digitsPadded (places + 1) c
  let mantissa := d.take 1 ++ (if places = 0 then [] else '.' :: d.drop 1)
  mantissa ++ 'e' :: (if e < 0 then '-' else '+') :: digitsPadded 2 e.natAbs

/-- Without the zeros at the end of the places, and without a point at the end. -/
def dropZeros (s : List Char) : List Char :=
  if s.contains '.' then
    match s.reverse.dropWhile (· == '0') with
    | '.' :: r => r.reverse
    | r => r.reverse
  else s

/-- A fraction with a number of digits, with an exponent only if it is small or has
more digits before the point, its sign aside. -/
def Fraction.general (x : Fraction) (count : Nat) : List Char :=
  let count := max count 1
  let (_, e) := x.digitsAndExponent (count - 1)
  if -4 ≤ e ∧ e < count then dropZeros (x.fixed (count - 1 - e).toNat)
  else
    let s := x.withExponent (count - 1)
    dropZeros (s.takeWhile (· != 'e')) ++ s.dropWhile (· != 'e')

/-! ### Base sixteen -/

/-- A number with a mantissa in base sixteen and a power of two. -/
def hexadecimal (x : Float) : List Char :=
  let bits := x.toBits.toNat % Nat.pow 2 63
  let e : Nat := bits / Nat.pow 2 52
  let digits := Nat.toDigits 16 (bits % Nat.pow 2 52)
  let mantissa := List.replicate (13 - digits.length) '0' ++ digits
  let power : Int := if e = 0 then -1022 else (e : Int) - 1023
  let body :=
    if x.isNaN then "nan".toList
    else if e = 2047 then "inf".toList
    else if bits = 0 then "0x0.0p+0".toList
    else "0x".toList ++ (if e = 0 then '0' else '1') :: '.' :: mantissa ++
      'p' :: (if power < 0 then '-' else '+') :: Nat.toDigits 10 power.natAbs
  if isNegative x && !x.isNaN then '-' :: body else body

end TermRef.Decimal
