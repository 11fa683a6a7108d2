/-
TermRef/Journal.lean

The journal of a run: its report, and the notes it makes on the way.

A note has a level and names the part of the program that makes it.  Whatever
enters the report as a problem is noted as well, so the journal only offers to do
both at once; terms converted are counted without a note.
-/
import TermRef.Report

namespace TermRef

/-! ### Notes -/

/-- How much a note matters. -/
inductive Level where
  | debug
  | info
  | warning
  | error
  deriving DecidableEq, Repr

/-- The name of a level. -/
def Level.name : Level → String
  | .debug => "DEBUG"
  | .info => "INFO"
  | .warning => "WARNING"
  | .error => "ERROR"

/-- Levels as numbers, higher ones mattering more. -/
def Level.rank : Level → Nat
  | .debug => 10
  | .info => 20
  | .warning => 30
  | .error => 40

/-- The level with a name. -/
def Level.ofName? (s : String) : Option Level :=
  [Level.debug, .info, .warning, .error].find? (·.name == s)

/-- The parts of the program that make notes. -/
inductive Part where
  | report
  | glossary
  | scan
  | render
  | run
  | commandLine
  deriving DecidableEq, Repr

/-- The name under which a part makes its notes. -/
def Part.name : Part → String
  | .report => "trrt.report"
  | .glossary => "trrt.glossary"
  | .scan => "trrt.matcher"
  | .render => "trrt.renderer"
  | .run => "trrt.engine"
  | .commandLine => "trrt.cli"

/-- A note. -/
structure Note where
  level : Level
  part : Part
  message : String
  deriving DecidableEq, Repr

/-! ### Problems as notes -/

/-- The note of a warning: its place, then its message.  A file that is not known is
called "None". -/
def Diagnostic.warningNote (d : Diagnostic) : Note :=
  let file := d.file.getD "None"
  ⟨.warning, .report, match d.line with
    | some n => file ++ ":" ++ toString n ++ " " ++ d.message
    | none => file ++ ": " ++ d.message⟩

/-- The note of an error: its file if there is one, then its message. -/
def Diagnostic.errorNote (d : Diagnostic) : Note :=
  let file := d.file.getD ""
  ⟨.error, .report, if file.isEmpty then d.message else file ++ ": " ++ d.message⟩

/-! ### The journal -/

/-- The report and the notes of a run. -/
structure Journal where
  report : Report := {}
  notes : List Note := []
  deriving DecidableEq, Repr

namespace Journal

/-- One more note. -/
def note (j : Journal) (part : Part) (level : Level) (message : String) : Journal :=
  { j with notes := j.notes ++ [⟨level, part, message⟩] }

/-- One more warning. -/
def warn (j : Journal) (d : Diagnostic) : Journal where
  report := j.report.addDiagnostic d
  notes := j.notes ++ [d.warningNote]

/-- One more error. -/
def fail (j : Journal) (d : Diagnostic) : Journal where
  report := j.report.addError d
  notes := j.notes ++ [d.errorNote]

/-- One more term converted. -/
def converted (j : Journal) (term : String) : Journal :=
  { j with report := j.report.addConverted term }

/-- The notes of a level and those that matter more. -/
def notesFrom (j : Journal) (rank : Nat) : List Note :=
  j.notes.filter fun n => rank ≤ n.level.rank

end Journal

end TermRef
