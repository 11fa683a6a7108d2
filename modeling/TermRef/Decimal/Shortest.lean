/-
TermRef/Decimal/Shortest.lean

The shortest decimal that reads back as a given floating point number.

A finite number is `m · 2^q`.  The reals that round to it form an interval
about it, whose ends belong to it when `m` is even.  For one digit, two digits
and so on the two neighbours of the number on that decimal grid are tried in
exact arithmetic; the first grid with a neighbour inside the interval wins, and
of two such neighbours the nearer one, or the even one if they are equally
near.

Small and large numbers are then written with an exponent, the others in
positional notation with at least one digit after the point.
-/
namespace TermRef.Decimal

/-- A positive floating point number `m · 2^q`; `least` says that the gap below
it is half the gap above. -/
structure Binary where
  m : Nat
  q : Int
  least : Bool

/-- The parts of a floating point number that is neither zero nor infinite nor
undefined, its sign aside. -/
def Binary.ofBits (bits : Nat) : Binary :=
  let e : Nat := bits / Nat.pow 2 52 % Nat.pow 2 11
  let frac : Nat := bits % Nat.pow 2 52
  if e = 0 then ⟨frac, -1074, false⟩
  else ⟨frac + Nat.pow 2 52, (e : Int) - 1075, frac == 0 && e != 1⟩

/-- Numerator and denominator of `4 · m · 2^q`, so that the ends of the interval
are whole numbers over the same denominator. -/
def Binary.scaled (x : Binary) : Nat × Nat :=
  if 0 ≤ x.q then (4 * x.m * Nat.pow 2 x.q.toNat, 1) else (4 * x.m, Nat.pow 2 (-x.q).toNat)

/-- Four times the unit in the last place, over the same denominator. -/
def Binary.unit (x : Binary) : Nat := if 0 ≤ x.q then 4 * Nat.pow 2 x.q.toNat else 4

/-- Four times `c · 10^p` as a fraction. -/
def gridPoint (c : Nat) (p : Int) : Nat × Nat :=
  if 0 ≤ p then (4 * c * Nat.pow 10 p.toNat, 1) else (4 * c, Nat.pow 10 (-p).toNat)

/-- The grid point `c · 10^p` reads back as `x`. -/
def Binary.readsBack (x : Binary) (c : Nat) (p : Int) : Bool :=
  let (a, b) := x.scaled
  let u := x.unit
  let (g, h) := gridPoint c p
  let low := (a - (if x.least then u / 4 else u / 2)) * h
  let high := (a + u / 2) * h
  let point := g * b
  if x.m % 2 == 0 then low ≤ point && point ≤ high else low < point && point < high

/-- The integer part of `x / 10^p`. -/
def Binary.floorAt (x : Binary) (p : Int) : Nat :=
  let (a, b) := x.scaled
  if 0 ≤ p then a / (4 * b * Nat.pow 10 p.toNat) else a * Nat.pow 10 (-p).toNat / (4 * b)

/-- Twice the fractional part of `x / 10^p` compared with one. -/
def Binary.halfAt (x : Binary) (p : Int) : Ordering :=
  let (a, b) := x.scaled
  let (num, den) :=
    if 0 ≤ p then (a, 4 * b * Nat.pow 10 p.toNat) else (a * Nat.pow 10 (-p).toNat, 4 * b)
  compare (2 * (num % den)) den

/-- The neighbour of `x` on the grid of `10^p` that reads back, if one does. -/
def Binary.onGrid? (x : Binary) (p : Int) : Option Nat :=
  let c := x.floorAt p
  match x.readsBack c p, x.readsBack (c + 1) p with
  | true, true =>
    match x.halfAt p with
    | .lt => some c
    | .gt => some (c + 1)
    | .eq => some (if c % 2 == 0 then c else c + 1)
  | true, false => some c
  | false, true => some (c + 1)
  | false, false => none

/-- The number of digits before the point: the least `k` with `x < 10^k`,
searched downwards from `k`. -/
def Binary.magnitude (x : Binary) : Nat → Int → Int
  | 0, k => k
  | f + 1, k => if x.floorAt (k - 1) = 0 then x.magnitude f (k - 1) else k

/-- Digits of the first grid, from `p` downwards, with a point that reads back. -/
def Binary.search (x : Binary) : Nat → Int → Nat × Int
  | 0, p => (x.floorAt p, p)
  | f + 1, p =>
    match x.onGrid? p with
    | some c => (c, p)
    | none => x.search f (p - 1)

/-- Drops zeros at the end of the digits, raising the exponent. -/
def trimZeros : Nat → Nat → Int → Nat × Int
  | 0, c, p => (c, p)
  | f + 1, c, p => if c != 0 && c % 10 == 0 then trimZeros f (c / 10) (p + 1) else (c, p)

/-- Shortest digits `c` and exponent `p`, so that `c · 10^p` reads back as `x`. -/
def Binary.shortest (x : Binary) : Nat × Int :=
  let k := x.magnitude 700 310
  let (c, p) := x.search 17 (k - 1)
  trimZeros 20 c p

/-! ### Style -/

/-- How numbers are written: the range of exponents, of the first digit, that
have positional notation, and the least number of digits of an exponent. -/
structure Style where
  positionalFrom : Int
  positionalBelow : Int
  exponentDigits : Nat

/-- Positional from `10^-4` to below `10^16`; exponents have two digits or more. -/
def standard : Style := ⟨-4, 16, 2⟩

/-- Digits of a natural number. -/
def digits (n : Nat) : List Char := Nat.toDigits 10 n

/-- `c · 10^p` in positional notation. -/
def positional (c : Nat) (p : Int) : List Char :=
  let d := digits c
  if 0 ≤ p then d ++ List.replicate p.toNat '0' ++ ['.', '0']
  else
    let after := (-p).toNat
    let padded := List.replicate (after + 1 - d.length) '0' ++ d
    padded.take (padded.length - after) ++ '.' :: padded.drop (padded.length - after)

/-- `c · 10^p` with an exponent after the first digit. -/
def scientific (n : Style) (c : Nat) (p : Int) : List Char :=
  let d := digits c
  let e := p + d.length - 1
  let mantissa := match d with
    | [x] => [x]
    | x :: r => x :: '.' :: r
    | [] => []
  let ed := digits e.natAbs
  mantissa ++ 'e' :: (if e < 0 then '-' else '+') ::
    List.replicate (n.exponentDigits - ed.length) '0' ++ ed

/-- The text of `c · 10^p`. -/
def layout (n : Style) (c : Nat) (p : Int) : List Char :=
  let e := p + (digits c).length - 1
  if n.positionalFrom ≤ e && e < n.positionalBelow then positional c p else scientific n c p

/-- The text of a floating point number given by its bits. -/
def ofBits (bits : Nat) : List Char :=
  let sign := if bits / Nat.pow 2 63 % 2 == 1 then ['-'] else []
  let rest := bits % Nat.pow 2 63
  if rest == 0 then sign ++ ['0', '.', '0']
  else if rest == 0x7ff0000000000000 then sign ++ ['i', 'n', 'f']
  else if rest > 0x7ff0000000000000 then ['n', 'a', 'n']
  else
    let (c, p) := (Binary.ofBits rest).shortest
    sign ++ layout standard c p

/-- The text of a floating point number. -/
def ofFloat (x : Float) : String := String.ofList (ofBits x.toBits.toNat)

end TermRef.Decimal
