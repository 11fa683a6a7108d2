/-
TermRef/Conversion.lean

Converting the references of a text into links.

Every reference found has a fate of its own, which hangs on no other reference: it is
converted, or no entry is found for it, or its rendering is empty.  A part that says
which scope or version is meant and that the reference leaves out is filled in first.
The text after the conversion is the text before it with the converted spans replaced;
what is not converted is warned of.
-/
import TermRef.Glossary.Index
import TermRef.Link.Render
import TermRef.Reference.Scan
import TermRef.Text.Lines

namespace TermRef

/-! ### Notes of a scan -/

/-- The note of a finding. -/
def Finding.note : Finding → Note
  | .found o => ⟨.debug, .scan, "Interpreted term ref: " ++ o.reference.term ++ " " ++
      o.reference.scopetag.getD "None"⟩
  | .escaped start text => ⟨.debug, .scan, "Skipping escaped term ref at " ++ toString start ++
      ": " ++ text⟩

/-- The notes of a scan.  An empty text is not scanned. -/
def scanNotes (text : String) (fs : List Finding) : List Note :=
  if text = "" then []
  else fs.map Finding.note ++ [⟨.debug, .scan,
    "Found " ++ toString (fs.filterMap Finding.occurrence?).length ++ " term refs in text"⟩]

/-! ### Fates -/

/-- How references are found, completed and rendered. -/
structure Resolver where
  grammar : Grammar
  style : LinkStyle
  vsntag : String := "latest"

/-- What becomes of a reference. -/
inductive Fate where
  /-- It is replaced by a link to the entry for a term. -/
  | converted (link term : String)
  /-- There is no entry for it. -/
  | unresolved
  /-- Its rendering is empty. -/
  | empty
  /-- Its rendering, as a link to the entry for a term, fails. -/
  | failed (term : String)
  deriving DecidableEq, Repr

namespace Resolver

/-- A reference with its scope and version filled in. -/
def complete (r : Resolver) (g : Glossary) (ref : Reference) : Reference :=
  let filled := fun (part : Option String) (whole : String) =>
    match part with
    | some s => if s = "" then some whole else some s
    | none => some whole
  { ref with
    scopetag := filled ref.scopetag g.scopetag
    vsntag := filled ref.vsntag r.vsntag }

/-- The entry for a reference that is complete. -/
def entryFor? (g : Glossary) (ref : Reference) : Option Entry :=
  g.entry? ref.term (ref.scopetag.getD "") (ref.vsntag.getD "")

/-- What becomes of a reference. -/
def fate (r : Resolver) (g : Glossary) (ref : Reference) : Fate :=
  let ref := r.complete g ref
  match entryFor? g ref with
  | none => .unresolved
  | some e =>
    match r.style.text? e ref with
    | none => .failed e.term
    | some link => if link = "" then .empty else .converted link e.term

end Resolver

namespace Fate

/-- The edit that converts an occurrence. -/
def edit? (o : Occurrence) : Fate → Option Edit
  | .converted link _ => some ⟨o.start, o.stop, link⟩
  | _ => none

/-- The term whose entry is linked. -/
def term? : Fate → Option String
  | .converted _ term => some term
  | _ => none

/-- What is to be warned of, for an occurrence on a line of a file. -/
def warning? (file : String) (line : Nat) (o : Occurrence) : Fate → Option Diagnostic
  | .converted _ _ => none
  | .unresolved => some ⟨.unresolved,
      "Term ref '" ++ o.text ++ "' could not be matched with a MRG entry", some file, some line⟩
  | _ => some ⟨.emptyRender,
      "Conversion of term ref '" ++ o.text ++ "' resulted in an empty string", some file, some line⟩

/-- The notes that come before the warning. -/
def notes (style : LinkStyle) : Fate → List Note
  | .failed term => [style.failureNote term]
  | _ => []

end Fate

/-! ### Texts -/

/-- A text after conversion, and the terms whose entries are linked, in order. -/
structure Conversion where
  text : String
  terms : List String
  deriving DecidableEq, Repr

namespace Resolver

/-- The journal after what becomes of an occurrence in a text of a file. -/
def record (r : Resolver) (file text : String) (j : Journal) (p : Occurrence × Fate) : Journal :=
  let noted : Journal := { j with notes := j.notes ++ p.2.notes r.style }
  match p.2.warning? file (Lines.lineOf text.toList p.1.start) p.1 with
  | some d => noted.warn d
  | none => noted

/-- The occurrences in a text with what becomes of them. -/
def fates (r : Resolver) (g : Glossary) (os : List Occurrence) : List (Occurrence × Fate) :=
  os.map fun o => (o, r.fate g o.reference)

/-- A text with what is to be converted replaced. -/
def replaced (text : String) (ps : List (Occurrence × Fate)) : Except Failure Conversion :=
  match Edit.applyAll text (ps.filterMap fun p => p.2.edit? p.1) with
  | .ok (t, _) => .ok ⟨t, ps.filterMap fun p => p.2.term?⟩
  | .error e => .error (.mishap (.edits e))

/-- Converts a text of a file, if there is a reference in it. -/
def convert (r : Resolver) (g : Glossary) (file text : String) (j : Journal) :
    Except Failure (Option Conversion) × Journal :=
  let fs := r.grammar.findings text
  let scanned : Journal := { j with notes := j.notes ++ scanNotes text fs }
  match fs.filterMap Finding.occurrence? with
  | [] => (.ok none, scanned)
  | os =>
    if g.ready then
      let ps := r.fates g os
      ((replaced text ps).map some, ps.foldl (r.record file text) scanned)
    else (.error .notReady, scanned)

/-- Converts a text of a file and counts the terms converted. -/
def convertText (r : Resolver) (g : Glossary) (file text : String) (j : Journal) :
    Except Failure (Option String) × Journal :=
  match r.convert g file text j with
  | (.ok (some c), j) => (.ok (some c.text), c.terms.foldl Journal.converted j)
  | (.ok none, j) => (.ok none, j)
  | (.error e, j) => (.error e, j)

end Resolver

end TermRef
