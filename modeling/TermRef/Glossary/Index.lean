/-
TermRef/Glossary/Index.lean

The glossary of a scope: entries in the order of their coming, and an index of them.

The index has for every term and scope the entries for them, in the same order.  An
entry for a version is one that has the version as its own; if there is none, one that
lists it among the other names of its version.
-/
import TermRef.Glossary.Entry
import TermRef.Glossary.Terminology
import TermRef.Files.Path
import TermRef.Failure

namespace TermRef

/-! ### The index -/

/-- What entries are looked up by: a term and a scope. -/
structure EntryKey where
  term : String
  scopetag : String
  deriving DecidableEq, Repr

/-- The key of an entry. -/
def Entry.key (e : Entry) : EntryKey := ⟨e.term, e.scopetag⟩

/-- The entries of every key that has some. -/
abbrev EntryIndex := List (EntryKey × List Entry)

namespace EntryIndex

/-- The entries of a key. -/
def get (i : EntryIndex) (k : EntryKey) : List Entry :=
  match i.find? fun p => p.1 == k with
  | some p => p.2
  | none => []

/-- The index with one more entry. -/
def add (e : Entry) : EntryIndex → EntryIndex
  | [] => [(e.key, [e])]
  | (k, es) :: r => if k = e.key then (k, es ++ [e]) :: r else (k, es) :: add e r

end EntryIndex

/-- The entry for a version among some: one with that version, or else one that lists it. -/
def forVersion? (es : List Entry) (vsntag : String) : Option Entry :=
  match es.find? fun e => e.vsntag == vsntag with
  | some e => some e
  | none => es.find? fun e => e.altvsntags.contains vsntag

/-! ### The glossary -/

/-- The glossary of a scope.  It is `ready` once its terminologies have been loaded. -/
structure Glossary where
  admin : ScopeAdmin
  scopedir : Path
  entries : List Entry := []
  index : EntryIndex := []
  ready : Bool := false

namespace Glossary

/-- The tag of the scope. -/
def scopetag (g : Glossary) : String := g.admin.scope.scopetag

/-- The website of the scope. -/
def website (g : Glossary) : String := g.admin.scope.website

/-- The directory of the terminologies. -/
def directory (g : Glossary) : Path := g.scopedir.join (.ofText g.admin.scope.glossarydir)

/-- The glossary with one more entry. -/
def add (g : Glossary) (e : Entry) : Glossary :=
  { g with entries := g.entries ++ [e], index := g.index.add e }

/-- The glossary without entries, as it is before its terminologies are loaded. -/
def emptied (g : Glossary) : Glossary := { g with entries := [], index := [], ready := false }

/-- The entry for a term of a scope in a version. -/
def entry? (g : Glossary) (term scopetag vsntag : String) : Option Entry :=
  forVersion? (g.index.get ⟨term, scopetag⟩) vsntag

/-- The entry for a term of a scope in a version; only a loaded glossary answers. -/
def lookup (g : Glossary) (term scopetag vsntag : String) : Except Failure (Option Entry) :=
  if g.ready then .ok (g.entry? term scopetag vsntag) else .error .notReady

end Glossary

end TermRef
