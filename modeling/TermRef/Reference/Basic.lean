/-
TermRef/Reference/Basic.lean

References to terms, and where they occur in a text.

A reference shows some words and names a term, possibly with a trait of it, the
scope the term belongs to and the version of its terminology.  A part that the
text leaves out is absent; the term is never left out, because it can be
derived from the words shown.
-/
import TermRef.Text.Slug

namespace TermRef

/-- A reference to a term. -/
structure Reference where
  showtext : String
  term : String
  trait : Option String := none
  scopetag : Option String := none
  vsntag : Option String := none
  deriving DecidableEq, Repr

/-- A reference in a text: the span from `start` up to `stop`, and the text of
the span. -/
structure Occurrence where
  start : Nat
  stop : Nat
  text : String
  reference : Reference
  deriving DecidableEq, Repr

/-- The number of characters of the span. -/
def Occurrence.length (o : Occurrence) : Nat := o.stop - o.start

/-- The reference that the parts of a match make up.  An empty part counts as
absent, and an absent identifier is derived from the words shown. -/
def Reference.ofParts (part : String → Option String) : Reference :=
  let get := fun name => (part name).filter fun s => !s.isEmpty
  let showtext := (get "showtext").getD ""
  { showtext
    term := (get "id").getD (Slug.ofText showtext)
    trait := get "trait"
    scopetag := get "scopetag"
    vsntag := get "vsntag" }

end TermRef
