/-
TermRef/Files/Path.lean

Paths: names of files, without what does not count in their writing.

A path starts at the working directory or at the root, and then leads through
parts.  Repeated slashes and parts of a single dot say nothing and are left out.  A
part of two dots is kept, because where it leads depends on the files; only
`absolute` takes it as leading back by one part, whatever the files are.
-/
import TermRef.Text.Pieces

namespace TermRef

/-- Where a path starts. -/
inductive Anchor where
  /-- At the working directory. -/
  | here
  /-- At the root. -/
  | root
  /-- At the root, written with two slashes: such paths are kept apart. -/
  | doubleRoot
  deriving DecidableEq, Repr

/-- The anchor in writing. -/
def Anchor.text : Anchor → String
  | .here => ""
  | .root => "/"
  | .doubleRoot => "//"

/-- A path: where it starts, and the parts it leads through. -/
structure Path where
  anchor : Anchor
  parts : List String
  deriving DecidableEq, Repr

namespace Path

/-! ### Reading and writing -/

/-- The names between the slashes of a text, some of them possibly empty. -/
def names (s : String) : List String := (Pieces.cut '/' s.toList).map String.ofList

/-- The name says where a path leads: it is neither empty nor a single dot. -/
def counts (name : String) : Bool := name != "" && name != "."

/-- The anchor that a number of slashes stands for. -/
def anchorOf : Nat → Anchor
  | 0 => .here
  | 2 => .doubleRoot
  | _ => .root

/-- The path that a text names. -/
def ofText (s : String) : Path where
  anchor := anchorOf (s.toList.takeWhile (· == '/')).length
  parts := (names s).filter counts

/-- A path in writing.  The working directory itself is written as a dot. -/
def text (p : Path) : String :=
  if p.anchor = .here ∧ p.parts = [] then "." else p.anchor.text ++ "/".intercalate p.parts

/-! ### Moving about -/

/-- The path that leads on through more parts. -/
def below (p : Path) (parts : List String) : Path := { p with parts := p.parts ++ parts }

/-- A path seen from another one. -/
def join (p q : Path) : Path := if q.anchor = .here then p.below q.parts else q

/-- The last part; empty if there is none. -/
def name (p : Path) : String := p.parts.getLast?.getD ""

/-- The directory that a path lies in. -/
def parent (p : Path) : Path := { p with parts := p.parts.dropLast }

/-! ### Absolute paths -/

/-- Parts after one more: two dots take the part before them back. -/
def follow (done : List String) (part : String) : List String :=
  if part = ".." then done.dropLast else done ++ [part]

/-- The parts that are left when two dots take back the part before them. -/
def settle (parts : List String) : List String := parts.foldl follow []

/-- A path from the root on, seen from the working directory, without parts of two
dots. -/
def absolute (here : List String) (p : Path) : Path :=
  match p.anchor with
  | .here => ⟨.root, settle (here ++ p.parts)⟩
  | a => ⟨a, settle p.parts⟩

/-- The parts that lead from the first path to the second, if it lies below. -/
def partsFrom? (base p : Path) : Option (List String) :=
  if p.anchor = base.anchor ∧ base.parts.isPrefixOf p.parts then
    some (p.parts.drop base.parts.length)
  else none

end Path

end TermRef
