/-
TermRef/Glossary/Load.lean

Loading a glossary from the files of its scope.

The administration of the scope says where its terminologies are: in the files of a
directory whose names fit a wildcard.  All of them are taken over, in the order of
their names.  Without any, or if the directory cannot be searched for them, the glossary
stays as it is; otherwise it is emptied first, and it is ready only when the last one has
been taken over.
-/
import TermRef.Glossary.Intake
import TermRef.Files.Wildcard

namespace TermRef

/-! ### The administration -/

/-- The name of the file with the administration of a scope. -/
def adminName : String := "saf.yaml"

/-- The glossary of the scope in a directory, not loaded yet. -/
def Glossary.open? (t : FileTree) (scopedir : Path) (j : Journal) :
    Except Failure (Glossary × Journal) :=
  let path := (scopedir.below [adminName]).text
  match t.mapping path ScopeAdmin.ofEntries with
  | .ok admin =>
    .ok ({ admin, scopedir }, j.note .glossary .debug
      ("Loaded SAF for scope '" ++ admin.scope.scopetag ++ "' from " ++ path))
  | .error e => .error (.ofMapping (.administration path) e)

/-! ### The terminologies -/

/-- Why a directory cannot be searched for terminologies: its path is too long, or that of an
item in it is whose name fits.  A directory that is not there is just one without
terminologies. -/
def searchError? (t : FileTree) (directory : Path) : Option FileError :=
  match t.find directory.text with
  | .error (.system .nameTooLong path) => some (.system .nameTooLong path)
  | .ok (p, some .directory) =>
    ((t.childNames p).filter (matchesName Failure.terminologyWildcard)).findSome? fun n =>
      let path := (directory.below [n]).text
      if FileTree.pathLimit < path.utf8ByteSize then some (.system .nameTooLong path) else none
  | _ => none

/-- The names of the terminologies in a directory that can be searched for them. -/
def terminologyNames (t : FileTree) (directory : Path) : List String :=
  match t.find directory.text with
  | .ok (p, some .directory) =>
    ((t.childNames p).filter fun n =>
      matchesName Failure.terminologyWildcard n && (t.item? (p ++ [n]) matches some (.file _))).mergeSort
        fun a b => a ≤ b
  | _ => []

/-- A glossary after an attempt to load it, and what has ended the attempt. -/
structure Loading where
  glossary : Glossary
  journal : Journal
  failure : Option Failure := none

namespace Loading

/-- The note that a terminology has been taken over. -/
def takenNote (i : Intake) (name : String) : String :=
  "Loaded " ++ toString i.added ++ " glossary entries from " ++ name

/-- Loads the terminologies with the given names. -/
def loadFrom (t : FileTree) : List String → Glossary → Journal → Loading
  | [], g, j => { glossary := g, journal := j }
  | name :: r, g, j =>
    let path := (g.directory.below [name]).text
    match t.mapping path Terminology.ofEntries with
    | .error e => ⟨g, j, some (.ofMapping (.terminology path) e)⟩
    | .ok terminology =>
      match Intake.take g j terminology path with
      | (i, some m) => ⟨i.glossary, i.journal, some (.mishap m)⟩
      | (i, none) => loadFrom t r i.glossary (i.journal.note .glossary .info (takenNote i name))

/-- The note that a glossary is ready. -/
def readyNote (g : Glossary) (count : Nat) : String :=
  "Runtime glossary for scope '" ++ g.scopetag ++ "' has " ++ toString g.entries.length ++
    " entries from " ++ toString count ++ " MRG file(s)"

/-- A loaded glossary made ready. -/
def finish (l : Loading) (count : Nat) : Loading :=
  match l.failure with
  | some _ => l
  | none =>
    { l with
      glossary := { l.glossary with ready := true }
      journal := l.journal.note .glossary .info (readyNote l.glossary count) }

end Loading

/-- Loads a glossary from the files of its scope. -/
def Glossary.load (t : FileTree) (g : Glossary) (j : Journal) : Loading :=
  match searchError? t g.directory with
  | some e => ⟨g, j, some (.mishap (.listing e))⟩
  | none =>
    match terminologyNames t g.directory with
    | [] => ⟨g, j, some (.noTerminology g.directory.text)⟩
    | names => (Loading.loadFrom t names g.emptied j).finish names.length

end TermRef
