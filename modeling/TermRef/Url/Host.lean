/-
TermRef/Url/Host.lean

Hosts written in brackets, and hosts that other forms of their letters would
turn into something else.

In brackets stands an address of the sixth version of the internet protocol, or
one of a version to come.  Outside them, a host with a character that has a
compatible form holding one of the marks of an address is refused.
-/
import TermRef.Unicode.Ranges
import TermRef.Text.Quoted
import TermRef.Text.Pieces

namespace TermRef.Url

/-- Why an address is refused. -/
inductive Error where
  /-- Brackets in the wrong places. -/
  | brackets
  /-- An address of a version to come is not well formed. -/
  | futureVersion
  /-- An address of the fourth version in brackets. -/
  | fourthVersion
  /-- No address at all in brackets. -/
  | noAddress (host : String)
  /-- A host whose letters have compatible forms that are marks. -/
  | compatibleMarks (host : String)
  deriving DecidableEq, Repr

/-- The text of an error. -/
def Error.message : Error → String
  | .brackets => "Invalid IPv6 URL"
  | .futureVersion => "IPvFuture address is invalid"
  | .fourthVersion => "An IPv4 address cannot be in brackets"
  | .noAddress host => Quoted.ofText host ++ " does not appear to be an IPv4 or IPv6 address"
  | .compatibleMarks host =>
    "netloc '" ++ host ++ "' contains invalid characters under NFKC normalization"

/-- What precedes the first occurrence of a character, whether there is one, and
what follows it. -/
def partition (x : Char) (s : List Char) : List Char × Bool × List Char :=
  match s.span (· != x) with
  | (a, []) => (a, false, [])
  | (a, _ :: b) => (a, true, b)

/-- A hexadecimal digit. -/
def isHex (c : Char) : Bool :=
  c.isDigit || ('a' ≤ c && c ≤ 'f') || ('A' ≤ c && c ≤ 'F')

/-- A number below 256, without leading zeros. -/
def isOctet (s : List Char) : Bool :=
  !s.isEmpty && s.all Char.isDigit && s.length ≤ 3 && (s == ['0'] || s.head? != some '0') &&
    s.foldl (fun n c => n * 10 + (c.toNat - '0'.toNat)) 0 ≤ 255

/-- An address of the fourth version: four numbers with points between them. -/
def isFourth (s : List Char) : Bool :=
  let parts := Pieces.cut '.' s
  parts.length == 4 && parts.all isOctet

/-- A group of an address: one to four hexadecimal digits. -/
def isGroup (s : List Char) : Bool := !s.isEmpty && s.length ≤ 4 && s.all isHex

/-- An address of the sixth version without a zone: eight groups, of which one run
may be left out between two colons, and the last two may be written as an address
of the fourth version. -/
def isSixthPlain (s : List Char) : Bool :=
  let parts := Pieces.cut ':' s
  let last := parts.getLastD []
  let dotted := last.contains '.'
  let parts := if dotted then parts.dropLast ++ [['0'], ['0']] else parts
  let inner := (parts.drop 1).dropLast
  let gaps := inner.filter List.isEmpty
  (Pieces.cut ':' s).length ≥ 3 && (!dotted || isFourth last) && parts.length ≤ 9 &&
    match gaps.length with
    | 0 => parts.length == 8 && parts.all isGroup
    | 1 =>
      let before := parts.takeWhile (fun p => !p.isEmpty)
      let skip := if parts.head? == some [] then
          ((parts.drop 1).takeWhile fun p => !p.isEmpty).length + 1
        else before.length
      let hi := parts.take skip
      let lo := parts.drop (skip + 1)
      let hiOk := if hi.head? == some [] then hi.length == 1 else hi.all isGroup
      let loOk := if lo.getLast? == some [] then lo.length == 1 else lo.all isGroup
      let used := (if hi.head? == some [] then hi.length - 1 else hi.length) +
        (if lo.getLast? == some [] then lo.length - 1 else lo.length)
      hiOk && loOk && used ≤ 7
    | _ => false

/-- An address of the sixth version, with a zone after a percent sign or without. -/
def isSixth (s : List Char) : Bool :=
  let (address, zoned, zone) := partition '%' s
  isSixthPlain address && (!zoned || (!zone.isEmpty && !zone.contains '%'))

/-- An address of a version to come: a `v`, hexadecimal digits, a point and more. -/
def isFuture (s : List Char) : Bool :=
  match s with
  | 'v' :: r =>
    let (version, dotted, rest) := partition '.' r
    dotted && !version.isEmpty && version.all isHex && !rest.isEmpty && !rest.contains '\n'
  | _ => false

/-- Accepts a host that stands where brackets are used. -/
def checkHost (host : List Char) : Except Error Unit :=
  if host.head? == some 'v' then
    if isFuture host then .ok () else .error .futureVersion
  else if isFourth host then .error .fourthVersion
  else if isSixth host then .ok ()
  else .error (.noAddress (String.ofList host))

/-- What follows the last occurrence of a character, or the whole text. -/
def afterLast (x : Char) (s : List Char) : List Char :=
  (s.reverse.takeWhile (· != x)).reverse

/-- Accepts the place of an address when it holds brackets: they enclose the whole
host, and only a colon and a number may follow. -/
def checkBrackets (place : List Char) : Except Error Unit := do
  let hostAndPort := afterLast '@' place
  let (before, opened, inside) := partition '[' hostAndPort
  if opened then
    if !before.isEmpty then throw .brackets
    let (host, _, number) := partition ']' inside
    if !number.isEmpty && number.head? != some ':' then throw .brackets
    checkHost host
  else checkHost (partition ':' hostAndPort).1

/-- Characters with a compatible form that holds one of the marks of an address. -/
def compatibleMarkRanges : Unicode.Ranges := [
  (0x2047, 0x2049), (0x2100, 0x2101), (0x2105, 0x2106), (0x2a74, 0x2a74), (0xfe13, 0xfe13),
  (0xfe16, 0xfe16), (0xfe55, 0xfe56), (0xfe5f, 0xfe5f), (0xfe6b, 0xfe6b), (0xff03, 0xff03),
  (0xff0f, 0xff0f), (0xff1a, 0xff1a), (0xff1f, 0xff20)]

/-- Accepts the place of an address as far as its letters go. -/
def checkLetters (place : List Char) : Except Error Unit :=
  if place.any compatibleMarkRanges.mem then .error (.compatibleMarks (String.ofList place))
  else .ok ()

end TermRef.Url
