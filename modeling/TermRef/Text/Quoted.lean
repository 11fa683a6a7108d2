/-
TermRef/Text/Quoted.lean

Text in quotes, as messages and lists show it.

A text stands in single quotes, or in double quotes when it holds a single
quote and no double one.  The quote, the backslash and characters that are not
printable are escaped; every other character stands for itself.
-/
import TermRef.Unicode.Printable
import TermRef.Text.Utf8

namespace TermRef.Quoted

/-- The quote that encloses a text. -/
def quoteOf (s : List Char) : Char :=
  if s.contains '\'' && !s.contains '"' then '"' else '\''

/-- `n` in hexadecimal with at least `width` digits. -/
def hexPadded (width n : Nat) : List Char :=
  let d := Nat.toDigits 16 n
  List.replicate (width - d.length) '0' ++ d

/-- The escaped form of a code point that is not printable. -/
def escapeNat (n : Nat) : List Char :=
  if n < 0x100 then '\\' :: 'x' :: hexPadded 2 n
  else if n < 0x10000 then '\\' :: 'u' :: hexPadded 4 n
  else '\\' :: 'U' :: hexPadded 8 n

/-- A character as it stands between quotes `q`. -/
def escapeChar (q c : Char) : List Char :=
  if c == q || c == '\\' then ['\\', c]
  else if c == '\t' then ['\\', 't']
  else if c == '\n' then ['\\', 'n']
  else if c == '\r' then ['\\', 'r']
  else if Unicode.isPrintable c then [c]
  else escapeNat c.toNat

/-- A text in quotes. -/
def ofChars (s : List Char) : List Char :=
  let q := quoteOf s
  q :: s.flatMap (escapeChar q) ++ [q]

/-- A text in quotes. -/
def ofText (s : String) : String := String.ofList (ofChars s.toList)

/-- A byte as it stands between quotes `q`. -/
def escapeByte (q : Char) (b : UInt8) : List Char :=
  let c := Char.ofNat b.toNat
  if c == q || c == '\\' then ['\\', c]
  else if c == '\t' then ['\\', 't']
  else if c == '\n' then ['\\', 'n']
  else if c == '\r' then ['\\', 'r']
  else if 0x20 ≤ b && b < 0x7f then [c]
  else '\\' :: 'x' :: hexPadded 2 b.toNat

/-- Bytes in quotes, marked by a leading `b`. -/
def ofBytes (s : List UInt8) : String :=
  let q := quoteOf (s.map fun b => Char.ofNat b.toNat)
  String.ofList ('b' :: q :: s.flatMap (escapeByte q) ++ [q])

end TermRef.Quoted
