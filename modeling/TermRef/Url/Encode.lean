/-
TermRef/Url/Encode.lean

Text inside addresses.

Letters, digits and a few marks stand for themselves; every other character is written
byte by byte, each byte as a percent sign and two hexadecimal digits.
-/
import TermRef.Text.Utf8

namespace TermRef.Url

/-- The characters that stand for themselves in every part of an address. -/
def isUnreserved (c : Char) : Bool :=
  c.isAlphanum || c == '_' || c == '.' || c == '-' || c == '~'

/-- A byte as it stands in an address; `kept` are further characters that stand for
themselves. -/
def encodeByte (kept : List Char) (b : UInt8) : List Char :=
  let c := Char.ofNat b.toNat
  if b < 128 && (isUnreserved c || kept.contains c) then [c]
  else '%' :: (Utf8.hexByte b.toNat).toUpper.toList

/-- A text as it stands in an address. -/
def encodeText (kept s : List Char) : List Char := (Utf8.encode s).flatMap (encodeByte kept)

/-- A text as it stands in a query, where a plus sign stands for a space. -/
def encodeQuery (s : List Char) : List Char :=
  s.flatMap fun c => if c == ' ' then ['+'] else encodeText [] [c]

end TermRef.Url
