/-
TermRef/Link/Render.lean

Rendering references as links.

A template sees the fields of the entry that are not null, and over them the parts of
the reference that are not empty: a part that the reference leaves out never hides what
the entry says.  A template that fails renders as nothing, and a note says so.
-/
import TermRef.Link.Style
import TermRef.Template.Render
import TermRef.Glossary.Entry
import TermRef.Reference.Basic
import TermRef.Journal

namespace TermRef

/-- The parts of a reference with their names. -/
def Reference.parts (r : Reference) : List (String × Option String) :=
  [("showtext", some r.showtext), ("term", some r.term), ("trait", r.trait),
    ("scopetag", r.scopetag), ("vsntag", r.vsntag)]

/-- Fields by their names. -/
abbrev Fields := List (String × Value)

namespace Fields

/-- The value of a name. -/
def get? (fs : Fields) (n : String) : Option Value := (fs.find? fun f => f.1 == n).map (·.2)

/-- Fields with one set: in place if its name is there, at the end otherwise. -/
def put (n : String) (v : Value) : Fields → Fields
  | [] => [(n, v)]
  | (m, w) :: r => if m == n then (n, v) :: r else (m, w) :: put n v r

/-- Fields with a part of a reference set, unless it is absent or empty. -/
def putPart (fs : Fields) (part : String × Option String) : Fields :=
  match part.2 with
  | some s => if s.isEmpty then fs else put part.1 (.text s) fs
  | none => fs

/-- The fields of an entry that are not null. -/
def ofEntry (e : Entry) : Fields :=
  e.fields.filterMap fun (k, v) =>
    match k, v with
    | .text _, .null => none
    | .text n, v => some (n, v)
    | _, _ => none

/-- The fields of an entry and a reference to it. -/
def merge (e : Entry) (r : Reference) : Fields := r.parts.foldl putPart (ofEntry e)

end Fields

namespace LinkStyle

/-- The text of a reference to an entry, if the template does not fail. -/
def text? (s : LinkStyle) (e : Entry) (r : Reference) : Option String :=
  match s.template.render (Fields.merge e r) with
  | .ok t => some t
  | .error _ => none

/-- The note that a template has failed. -/
def failureNote (s : LinkStyle) (term : String) : Note :=
  ⟨.warning, .render, "Rendering term '" ++ term ++ "' with " ++ s.kind.name ++
    " template failed: <detail>"⟩

/-- The text of a reference to an entry, which is empty if the template fails. -/
def render (s : LinkStyle) (e : Entry) (r : Reference) (j : Journal) : String × Journal :=
  match s.text? e r with
  | some t => (t, j)
  | none => ("", { j with notes := j.notes ++ [s.failureNote e.term] })

end LinkStyle

end TermRef
