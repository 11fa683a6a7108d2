/-
TermRef/Files/Glob.lean

The files that a pattern with wildcards names.

A pattern is a stem without wildcards and then names, any of which may be a wildcard.
Each name is looked for in all the directories that the names before it lead to.  Two
stars alone stand for a directory and everything below it; a pattern that ends in a
slash names directories.  A wildcard does not stand for hidden items, whose names
start with a dot, unless it starts with a dot itself.

A directory has no order of its own.  That the paths are sorted is a choice made here so
that there is one listing, and nothing that is said of runs rests on it.
-/
import TermRef.Files.Tree
import TermRef.Files.Wildcard

namespace TermRef.Glob

/-! ### Patterns -/

/-- A pattern: the stem, and the names after it. -/
structure Pattern where
  stem : String
  names : List String
  deriving DecidableEq, Repr

/-- The names of a text with the slashes before each.  A text that ends in slashes has
an empty last name. -/
def pieces : List Char → List (List Char × List Char)
  | [] => []
  | '/' :: r =>
    match pieces r with
    | [] => [(['/'], [])]
    | (slashes, name) :: more => ('/' :: slashes, name) :: more
  | c :: r =>
    match pieces r with
    | [] => [([], [c])]
    | ([], name) :: more => ([], c :: name) :: more
    | more => ([], [c]) :: more

/-- The text of a piece, slashes and all. -/
def pieceText (p : List Char × List Char) : List Char := p.1 ++ p.2

/-- The pattern that a text writes; the slashes between the stem and the names after
it belong to the stem only if it has no names. -/
def Pattern.ofText (s : String) : Pattern :=
  let (plain, magic) := (pieces s.toList).span fun p => !WildPart.isMagic p.2
  let root := if plain.isEmpty then (magic.head?.map (·.1)).getD [] else []
  ⟨String.ofList (plain.flatMap pieceText ++ root), magic.map fun p => String.ofList p.2⟩

/-! ### Names in a directory -/

/-- The name is hidden. -/
def isHidden (name : String) : Bool := name.toList.head? == some '.'

/-- A path in writing, led on by a name. -/
def extend (path name : String) : String :=
  if path = "" then name
  else if path.toList.getLast? = some '/' then path ++ name
  else path ++ "/" ++ name

/-- The directory that a path in writing leads to; the empty path leads to the working
directory. -/
def directory? (t : FileTree) (path : String) : Except FileError (Option Place) :=
  match t.find (if path = "" then "." else path) with
  | .ok (p, some .directory) => .ok (some p)
  | .error .nullCharacter => .error .nullCharacter
  | _ => .ok none

/-- The items of a place are only those asked for. -/
def isWanted (dirsOnly : Bool) (i : Item) : Bool := !dirsOnly || i matches .directory

/-- The names in a directory that a wildcard stands for. -/
def namesIn (t : FileTree) (dirsOnly : Bool) (path wildcard : String) :
    Except FileError (List String) := do
  match ← directory? t path with
  | none => pure []
  | some p =>
    let shown := fun n => isHidden wildcard || !isHidden n
    pure ((t.childNames p).filter fun n =>
      shown n && matchesName wildcard n && ((t.item? (p ++ [n])).any (isWanted dirsOnly)))

/-- The names of all that is below a directory, and the empty name for itself. -/
def namesBelow (t : FileTree) (dirsOnly : Bool) (path : String) :
    Except FileError (List String) := do
  match ← directory? t path with
  | none => pure []
  | some p =>
    let below := (t.itemsFrom p).filter fun e =>
      !e.1.isEmpty && !e.1.any isHidden && isWanted dirsOnly e.2
    pure ("" :: below.map fun e => "/".intercalate e.1)

/-- The name itself if it is there; the empty name is there in a directory. -/
def nameIn (t : FileTree) (path name : String) : List String :=
  if name = "" then if t.isDirectory path then [name] else []
  else if t.leadsSomewhere (extend path name) then [name] else []

/-- The names in a directory that a name of a pattern stands for. -/
def step (t : FileTree) (dirsOnly : Bool) (path name : String) : Except FileError (List String) :=
  if name = "**" then namesBelow t dirsOnly path
  else if WildPart.isMagic name.toList then namesIn t dirsOnly path name
  else .ok (nameIn t path name)

/-! ### Paths -/

/-- The paths that names lead to from some paths. -/
def pathsFrom (t : FileTree) : List String → List String → Except FileError (List String)
  | paths, [] => .ok paths
  | paths, name :: more => do
    let found ← paths.mapM fun d => do
      pure ((← step t (!more.isEmpty) d name).map (extend d))
    pathsFrom t found.flatten more

/-- The paths that a pattern names, in the order of their characters.  A pattern
without wildcards names what it leads to. -/
def paths (t : FileTree) (pattern : String) : Except FileError (List String) := do
  let p := Pattern.ofText pattern
  if p.names.isEmpty then pure (if t.leadsSomewhere p.stem then [p.stem] else [])
  else
    let found ← pathsFrom t [p.stem] p.names
    pure (found.mergeSort fun a b => a ≤ b)

/-- The files that a pattern names. -/
def files (t : FileTree) (pattern : String) : Except FileError (List Path) := do
  pure (((← paths t pattern).filter t.isFile).map Path.ofText)

end TermRef.Glob
