/-
TermRef/Report.lean

The report of a run: the terms converted, and the problems met.

A report only grows.  Problems with references and entries are warnings, problems
with files are errors; the summary lists both after the number of conversions,
each on a line with a label and a place of fixed width before the message.
-/
namespace TermRef

/-- The kinds of problems. -/
inductive DiagnosticKind where
  /-- A reference that no entry matches. -/
  | unresolved
  /-- A reference whose rendering is empty. -/
  | emptyRender
  /-- An entry that was left out of the glossary. -/
  | invalidEntry
  /-- A file that could not be read or written. -/
  | fileError
  deriving DecidableEq, Repr

/-- The name of a kind. -/
def DiagnosticKind.name : DiagnosticKind → String
  | .unresolved => "unresolved"
  | .emptyRender => "empty-render"
  | .invalidEntry => "invalid-entry"
  | .fileError => "file-error"

/-- The kind with a name. -/
def DiagnosticKind.ofName? (s : String) : Option DiagnosticKind :=
  [DiagnosticKind.unresolved, .emptyRender, .invalidEntry, .fileError].find? (·.name == s)

/-- A problem: where it is, if that is known, and what it is. -/
structure Diagnostic where
  kind : DiagnosticKind
  message : String
  file : Option String := none
  line : Option Int := none
  deriving DecidableEq, Repr

/-- The report of a run. -/
structure Report where
  converted : List String := []
  diagnostics : List Diagnostic := []
  errors : List Diagnostic := []
  deriving DecidableEq, Repr

namespace Report

/-! ### Lines -/

/-- The width of the place. -/
def placeWidth : Nat := 50

/-- The width of the label. -/
def labelWidth : Nat := 12

/-- Text filled up with spaces to a width. -/
def padRight (width : Nat) (s : String) : String :=
  s ++ String.ofList (List.replicate (width - s.length) ' ')

/-- The place of a problem: its file and line, as far as they are known. -/
def place (file : Option String) (line : Option Int) : String :=
  match line with
  | some n => file.getD "" ++ ":" ++ toString n
  | none => file.getD ""

/-- A place in its fixed width: the end of a longer one after three dots. -/
def fitPlace (s : String) : String :=
  if s.length > placeWidth then
    "..." ++ String.ofList (s.toList.drop (s.length - (placeWidth - 3)))
  else padRight placeWidth s

/-- A line of the summary. -/
def formatLine (label : String) (file : Option String) (line : Option Int)
    (message : String) : String :=
  padRight labelWidth label ++ " " ++ fitPlace (place file line) ++ " " ++ message

/-! ### Growth -/

/-- One more term converted. -/
def addConverted (r : Report) (term : String) : Report :=
  { r with converted := r.converted ++ [term] }

/-- One more warning. -/
def addDiagnostic (r : Report) (d : Diagnostic) : Report :=
  { r with diagnostics := r.diagnostics ++ [d] }

/-- One more error. -/
def addError (r : Report) (d : Diagnostic) : Report :=
  { r with errors := r.errors ++ [d] }

/-! ### Views -/

/-- Some error has been met. -/
def hasErrors (r : Report) : Bool := !r.errors.isEmpty

/-- The problems of a kind, warnings first. -/
def ofKind (r : Report) (k : DiagnosticKind) : List Diagnostic :=
  (r.diagnostics ++ r.errors).filter (·.kind == k)

/-- The label of a warning. -/
def warningLabel (k : DiagnosticKind) : String :=
  if k = .invalidEntry then "MRG ENTRY" else "TERM HELP"

/-- The lines of some problems under a heading; without problems there is none. -/
def section_ (heading : String) (label : DiagnosticKind → String) (ds : List Diagnostic) :
    List String :=
  if ds.isEmpty then []
  else heading :: ds.map fun d => formatLine (label d.kind) d.file d.line d.message

/-- The lines of the summary. -/
def summaryLines (r : Report) : List String :=
  ["Resolution Report:", "       Number of terms converted: " ++ toString r.converted.length] ++
    section_ "   Warnings:" warningLabel r.diagnostics ++
    section_ "   Errors:" (fun _ => "ERROR") r.errors

/-- The summary. -/
def summary (r : Report) : String := "\n".intercalate r.summaryLines

end Report

end TermRef
