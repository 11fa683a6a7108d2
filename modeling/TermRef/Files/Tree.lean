/-
TermRef/Files/Tree.lean

A tree of files and directories, and what can be done with it.

A place is the list of names from the root.  A file tree has an item at some places;
the root is always a directory.  A path in writing is walked name by name from the
root or from the working directory: a dot stays, two dots lead to the directory
above, any other name has to be that of an item in the directory reached.  Only the
last name may be new.

Nothing is read or changed unless the walk ends well, and a change touches the place
reached and no other.

There are no links, so that an item has one place only, and neither permissions nor faults
of a disk: a file whose place is reached can be read, and is written as a whole or not at
all.
-/
import TermRef.Files.Path
import TermRef.Text.Quoted

namespace TermRef

/-! ### Errors -/

/-- Why a walk or a change fails. -/
inductive FileCause where
  /-- Something on the way, or at its end, is not there. -/
  | missing
  /-- Something is there already. -/
  | taken
  /-- Something on the way is a file. -/
  | notDirectory
  /-- The item reached is a directory, and no file. -/
  | isDirectory
  /-- A name, or the path as a whole, is too long. -/
  | nameTooLong
  deriving DecidableEq, Repr

/-- The number of a cause. -/
def FileCause.number : FileCause → Nat
  | .missing => 2
  | .taken => 17
  | .notDirectory => 20
  | .isDirectory => 21
  | .nameTooLong => 36

/-- A cause in words. -/
def FileCause.text : FileCause → String
  | .missing => "No such file or directory"
  | .taken => "File exists"
  | .notDirectory => "Not a directory"
  | .isDirectory => "Is a directory"
  | .nameTooLong => "File name too long"

/-- What can go wrong with a path. -/
inductive FileError where
  /-- The walk along it, or what is to be done at its end, fails. -/
  | system (cause : FileCause) (path : String)
  /-- It is no path, because it holds the null character. -/
  | nullCharacter
  deriving DecidableEq, Repr

/-- The text of an error. -/
def FileError.message : FileError → String
  | .system cause path =>
    "[Errno " ++ toString cause.number ++ "] " ++ cause.text ++ ": " ++ Quoted.ofText path
  | .nullCharacter => "embedded null byte"

/-! ### Trees -/

/-- A place: the names from the root. -/
abbrev Place := List String

/-- What can be at a place. -/
inductive Item where
  | file (bytes : List UInt8)
  | directory
  deriving DecidableEq, Repr

/-- A tree of files and directories, with a working directory. -/
structure FileTree where
  here : Place
  items : List (Place × Item) := []
  deriving DecidableEq, Repr

namespace FileTree

/-- The places that lead to a place, itself included and the root left out. -/
def leadingTo : Place → List Place
  | [] => []
  | name :: r => [name] :: (leadingTo r).map (name :: ·)

/-- The tree with nothing but a working directory. -/
def bare (here : Place) : FileTree := { here, items := (leadingTo here).map fun p => (p, .directory) }

/-- What is at a place. -/
def item? (t : FileTree) (p : Place) : Option Item :=
  if p = [] then some .directory else (t.items.find? fun e => e.1 == p).map (·.2)

/-- Items with the one at a place set: in place if there is one, at the end otherwise. -/
def setItem (p : Place) (i : Item) : List (Place × Item) → List (Place × Item)
  | [] => [(p, i)]
  | (q, j) :: r => if q = p then (q, i) :: r else (q, j) :: setItem p i r

/-- The tree with the item at a place set. -/
def set (t : FileTree) (p : Place) (i : Item) : FileTree := { t with items := setItem p i t.items }

/-- The tree without the item at a place. -/
def erase (t : FileTree) (p : Place) : FileTree :=
  { t with items := t.items.filter fun e => e.1 != p }

/-- The names of the items in a directory. -/
def childNames (t : FileTree) (p : Place) : List String :=
  t.items.filterMap fun e =>
    if p.isPrefixOf e.1 && e.1.length == p.length + 1 then e.1.getLast? else none

/-- The items at and below a place, each with the names from there. -/
def itemsFrom (t : FileTree) (p : Place) : List (Place × Item) :=
  t.items.filterMap fun e => if p.isPrefixOf e.1 then some (e.1.drop p.length, e.2) else none

/-! ### Walking -/

/-- The greatest number of bytes of a name. -/
def nameLimit : Nat := 255

/-- The greatest number of bytes of a path. -/
def pathLimit : Nat := 4095

/-- Where names lead from a directory: the place reached, and what is there.  All
names but the last have to be those of directories. -/
def walk (t : FileTree) : Place → List String → Except FileCause (Place × Option Item)
  | p, [] => .ok (p, some .directory)
  | p, name :: r =>
    if !Path.counts name then t.walk p r
    else if name = ".." then t.walk p.dropLast r
    else if nameLimit < name.utf8ByteSize then .error .nameTooLong
    else
      let q := p ++ [name]
      match t.item? q with
      | some .directory => t.walk q r
      | some (.file b) => if r.isEmpty then .ok (q, some (.file b)) else .error .notDirectory
      | none => if r.isEmpty then .ok (q, none) else .error .missing

/-- Where a path in writing leads. -/
def find (t : FileTree) (path : String) : Except FileError (Place × Option Item) :=
  if path.toList.contains '\x00' then .error .nullCharacter
  else if path = "" then .error (.system .missing path)
  else if pathLimit < path.utf8ByteSize then .error (.system .nameTooLong path)
  else
    let start := if path.toList.head? = some '/' then [] else t.here
    match t.walk start (Path.names path) with
    | .ok found => .ok found
    | .error cause => .error (.system cause path)

/-- The path leads to a file. -/
def isFile (t : FileTree) (path : String) : Bool := t.find path matches .ok (_, some (.file _))

/-- The path leads to a directory. -/
def isDirectory (t : FileTree) (path : String) : Bool :=
  t.find path matches .ok (_, some .directory)

/-- The path leads to a file or a directory. -/
def leadsSomewhere (t : FileTree) (path : String) : Bool := t.find path matches .ok (_, some _)

/-! ### Reading and changing -/

/-- The bytes of a file. -/
def read (t : FileTree) (path : String) : Except FileError (List UInt8) := do
  match ← t.find path with
  | (_, some (.file b)) => pure b
  | (_, some .directory) => throw (.system .isDirectory path)
  | (_, none) => throw (.system .missing path)

/-- The tree with bytes written to a file, which may be new. -/
def write (t : FileTree) (path : String) (bytes : List UInt8) : Except FileError FileTree := do
  match ← t.find path with
  | (_, some .directory) => throw (.system .isDirectory path)
  | (p, _) => pure (t.set p (.file bytes))

/-- The tree with a new directory. -/
def makeDirectory (t : FileTree) (path : String) : Except FileError FileTree := do
  match ← t.find path with
  | (_, some _) => throw (.system .taken path)
  | (p, none) => pure (t.set p .directory)

/-- The tree without a file. -/
def remove (t : FileTree) (path : String) : Except FileError FileTree := do
  match ← t.find path with
  | (p, some (.file _)) => pure (t.erase p)
  | (_, some .directory) => throw (.system .isDirectory path)
  | (_, none) => throw (.system .missing path)

/-- An error in making a directory is none if the directory is there. -/
def orPresent (t : FileTree) (path : String) (e : FileError) : FileTree × Option FileError :=
  if t.isDirectory path then (t, none) else (t, some e)

/-- Makes a directory that may be there already. -/
def provideDirectory (t : FileTree) (path : String) : FileTree × Option FileError :=
  match t.makeDirectory path with
  | .ok u => (u, none)
  | .error (.system .missing _) => (t, some (.system .missing path))
  | .error e => t.orPresent path e

/-- Makes the directories that lead to a path, whose parts are given last first, and
then the one at its end.  What has been made stays, also when a later one fails. -/
def provideAll (anchor : Anchor) : List String → FileTree → FileTree × Option FileError
  | [], t => t.provideDirectory (Path.text ⟨anchor, []⟩)
  | name :: up, t =>
    let path := Path.text ⟨anchor, (name :: up).reverse⟩
    match t.makeDirectory path with
    | .ok u => (u, none)
    | .error (.system .missing _) =>
      match provideAll anchor up t with
      | (u, some e) => (u, some e)
      | (u, none) => u.provideDirectory path
    | .error e => t.orPresent path e

/-- Makes a directory and those that lead to it, as far as they are not there. -/
def provide (t : FileTree) (p : Path) : FileTree × Option FileError :=
  provideAll p.anchor p.parts.reverse t

end FileTree

end TermRef
