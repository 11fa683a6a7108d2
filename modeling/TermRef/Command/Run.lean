/-
TermRef/Command/Run.lean

A call of the program: its arguments, its environment and the files it finds lead to
what it says, what it notes and the files it leaves.

A call that fails before the run, because its settings are not in order, shows the help
and then the error.  A call whose run fails says so in a note and still shows the
report.  Both return one; a call whose run comes to its end returns zero, whatever the
report lists.
-/
import TermRef.Command.Help
import TermRef.Settings.Load
import TermRef.Run

namespace TermRef.Command

/-! ### Levels -/

/-- The least rank of the notes that a level lets pass.  A name that is no level counts
as the level of information; the names of layouts are mishaps. -/
def threshold (name : String) : Except Mishap Nat :=
  match String.ofList (Unicode.upper name.toList) with
  | "CRITICAL" => .ok 50
  | "FATAL" => .ok 50
  | "ERROR" => .ok Level.error.rank
  | "WARNING" => .ok Level.warning.rank
  | "WARN" => .ok Level.warning.rank
  | "DEBUG" => .ok Level.debug.rank
  | "NOTSET" => .ok 0
  | "BASIC_FORMAT" => .error .levelIsLayout
  | "_STYLES" => .error .levelIsLayouts
  | _ => .ok Level.info.rank

/-! ### Calls -/

/-- A call of the program. -/
structure Call where
  arguments : List String
  environment : List (String × String)
  files : FileTree

/-- How a call ends. -/
inductive Ending where
  /-- The run is over, or could not start. -/
  | returned (code : Nat)
  /-- There was no run, because help was asked for or the arguments are refused. -/
  | exited (code : Nat)
  /-- A failure that is not foreseen. -/
  | broken (f : Failure)
  deriving DecidableEq, Repr

/-- What a call has done. -/
structure Outcome where
  ending : Ending
  output : String := ""
  errors : String := ""
  notes : List Note := []
  files : FileTree

namespace Call

/-- What the options set. -/
def overrides (o : Options) : List (String × Value) := [
  (Setting.scopedir.name, .ofOption o.scopedir), (Setting.output.name, .ofOption o.output),
  (Setting.glob.name, .ofOption o.glob), (Setting.vsntag.name, .ofOption o.vsntag),
  (Setting.interpreter.name, .ofOption o.interpreter),
  (Setting.converter.name, .ofOption o.converter),
  (Setting.logLevel.name, if o.verbose then .text Level.debug.name else .null)]

/-- The settings of a call, and the directories of the scope and of the output. -/
def settings (c : Call) (o : Options) : Except Failure (Settings × Path × Path) := do
  let s ← Settings.load c.files c.environment o.config (overrides o)
  pure (s, ← s.paths)

/-- The run that some settings ask for.  What has been noted on the way is there also if
it cannot start. -/
def openRun (files : FileTree) (s : Settings) (scopedir output : Path) :
    Except (Failure × Journal) Run := do
  let (glossary, journal) ← (Glossary.open? files scopedir {}).mapError fun e => (e, {})
  let grammar ← (Grammar.ofText s.interpreter).mapError fun e => (.grammar e, journal)
  let style ← (LinkStyle.ofText s.converter).mapError fun e => (.style e, journal)
  pure {
    resolver := { grammar, style, vsntag := s.vsntag }
    output, pattern := s.glob, inputRoot := ⟨.root, files.here⟩, glossary, files, journal }

/-- What a run has done: the report, after a note of the failure that ended it, if one
did. -/
def conclude (rank : Nat) (files : FileTree) (journal : Journal) : Option Failure → Outcome
  | none =>
    { ending := .returned 0, output := journal.report.summary ++ "\n",
      notes := journal.notesFrom rank, files }
  | some f =>
    if f.isForeseen then
      let noted := journal.note .commandLine .error ("Failed to resolve terms: " ++ f.message)
      { ending := .returned 1, output := journal.report.summary ++ "\n",
        notes := noted.notesFrom rank, files }
    else { ending := .broken f, notes := journal.notesFrom rank, files }

/-- Does what some settings ask for. -/
def runWith (c : Call) (rank : Nat) (s : Settings) (scopedir output : Path) : Outcome :=
  match openRun c.files s scopedir output with
  | .error (f, journal) => conclude rank c.files journal (some f)
  | .ok run =>
    match run.resolve with
    | (.ok (), r) => conclude rank r.files r.journal none
    | (.error f, r) => conclude rank r.files r.journal (some f)

/-- What a call has done that has failed before its run. -/
def fail (c : Call) (f : Failure) : Outcome :=
  if f.isForeseen then
    { ending := .returned 1, errors := help ++ "\nERROR: " ++ f.message ++ "\n", files := c.files }
  else { ending := .broken f, files := c.files }

/-- What a call does.  `locate` gives the paths of the scope and of the output the form
in which they are worked with and shown. -/
def run (locate : Path → Path) (c : Call) : Outcome :=
  match Options.ofArguments c.arguments with
  | .error .help => { ending := .exited 0, output := help, files := c.files }
  | .error (.usage e) => { ending := .exited 2, errors := refusal e, files := c.files }
  | .ok o =>
    match c.settings o with
    | .error f => c.fail f
    | .ok (s, scopedir, output) =>
      match threshold s.logLevel with
      | .error m => { ending := .broken (.mishap m), files := c.files }
      | .ok rank => c.runWith rank s (locate scopedir) (locate output)

end Call

end TermRef.Command
