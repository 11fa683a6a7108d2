/-
TermRef/Unicode/Ranges.lean

Sets of characters given by ranges of code points.

The properties of characters that the library asks about (blank, digit,
letter, printable, ...) are those of Unicode 14.  Each is a list of closed
ranges in increasing order, and membership is the plain search through the
list: the first ranges are the ASCII ones, so the search ends early for the
characters that occur most.
-/
namespace TermRef.Unicode

/-- Closed ranges of code points. -/
abbrev Ranges := List (Nat × Nat)

/-- `t.has n` says that the code point `n` lies in one of the ranges of `t`. -/
def Ranges.has (t : Ranges) (n : Nat) : Bool :=
  t.any fun r => r.1 ≤ n && n ≤ r.2

/-- `t.mem c` says that the character `c` lies in one of the ranges of `t`. -/
def Ranges.mem (t : Ranges) (c : Char) : Bool :=
  t.has c.toNat

end TermRef.Unicode
