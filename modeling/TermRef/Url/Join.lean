/-
TermRef/Url/Join.lean

Addresses of entries relative to a website.

An address with a scheme stands for itself.  Any other is put after the website,
with exactly one slash between them.  Looking for the scheme also takes the
address apart, so an address whose host is malformed is refused.
-/
import TermRef.Url.Host

namespace TermRef.Url

/-- Characters that are dropped from the front of an address. -/
def isControlOrSpace (c : Char) : Bool := c ≤ ' '

/-- Characters that are dropped anywhere in an address. -/
def isDropped (c : Char) : Bool := c == '\t' || c == '\r' || c == '\n'

/-- An address without what does not count. -/
def clean (s : List Char) : List Char :=
  (s.dropWhile isControlOrSpace).filter fun c => !isDropped c

/-- The characters of schemes. -/
def isSchemeChar (c : Char) : Bool :=
  c.isAlphanum || c == '+' || c == '-' || c == '.'

/-- The scheme of a clean address, and what follows its colon. -/
def splitScheme (s : List Char) : Option (List Char × List Char) :=
  let (lead, found, rest) := partition ':' s
  match lead with
  | c :: r => if found && c.isAlpha && r.all isSchemeChar then some (lead, rest) else none
  | [] => none

/-- Accepts the host of an address, if it has one. -/
def checkPlace (s : List Char) : Except Error Unit :=
  match s with
  | '/' :: '/' :: r => do
    let place := r.takeWhile fun c => c != '/' && c != '?' && c != '#'
    let opens := place.contains '['
    let closes := place.contains ']'
    if opens != closes then throw .brackets
    if opens then checkBrackets place
    checkLetters place
  | _ => .ok ()

/-- Whether an address has a scheme; a malformed address is refused. -/
def hasScheme (s : List Char) : Except Error Bool :=
  let c := clean s
  match splitScheme c with
  | some (_, rest) => (checkPlace rest).map fun _ => true
  | none => (checkPlace c).map fun _ => false

/-- Text without the slashes at its end. -/
def dropSlashesRight (s : List Char) : List Char := (s.reverse.dropWhile (· == '/')).reverse

/-- Text without the slashes at its start. -/
def dropSlashesLeft (s : List Char) : List Char := s.dropWhile (· == '/')

/-- An address relative to a website. -/
def joinChars (website address : List Char) : Except Error (List Char) :=
  if address.isEmpty then .ok website
  else do
    if (← hasScheme address) || website.isEmpty then pure address
    else pure (dropSlashesRight website ++ '/' :: dropSlashesLeft address)

/-- An address, possibly absent, relative to a website. -/
def join (website : String) (address : Option String) : Except Error String :=
  (joinChars website.toList ((address.map String.toList).getD [])).map String.ofList

end TermRef.Url
