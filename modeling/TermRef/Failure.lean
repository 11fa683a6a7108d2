/-
TermRef/Failure.lean

What ends a run.

A run ends early when what it is asked to work with is not there or not in order: its
settings, its grammar or style, the administration of its scope, its terminologies.
Problems of a single entry, reference or file do not end it; they enter the report.

Next to these foreseen failures there are mishaps: bytes, values or addresses at which
a reader gives up in a way that the run makes no provision for.
-/
import TermRef.Files.Document
import TermRef.Url.Host
import TermRef.Value.Check
import TermRef.Reference.Grammar
import TermRef.Link.Style
import TermRef.Edit

namespace TermRef

/-! ### Mishaps -/

/-- A failure that no provision is made for. -/
inductive Mishap where
  /-- A path holds the null character. -/
  | nullCharacter
  /-- The bytes of a file that has to be text are none. -/
  | bytes (f : Utf8.Fault)
  /-- A document asks for a value that does not exist. -/
  | value (f : Yaml.Fault)
  /-- A directory cannot be searched. -/
  | listing (e : FileError)
  /-- An address is malformed. -/
  | address (e : Url.Error)
  /-- A whole number is to be written, and is too long for that. -/
  | tooLong
  /-- The edits of a text do not fit it. -/
  | edits (e : Edit.Error)
  /-- A setting has a name that is no text. -/
  | nameNotText
  /-- The level of notes is the layout of their lines. -/
  | levelIsLayout
  /-- The level of notes is the collection of layouts. -/
  | levelIsLayouts
  deriving DecidableEq, Repr

/-- The text of a mishap. -/
def Mishap.message : Mishap → String
  | .nullCharacter => FileError.nullCharacter.message
  | .bytes f => f.message
  | .value f => f.message
  | .listing e => e.message
  | .address e => e.message
  | .tooLong => tooLongToWrite
  | .edits e => e.message
  | .nameNotText => "keywords must be strings"
  | .levelIsLayout => "Unknown level: '%(levelname)s:%(name)s:%(message)s'"
  | .levelIsLayouts =>
    "Level not an integer or a valid string: \x7b'%': (<class 'logging.PercentStyle'>, " ++
    "'%(levelname)s:%(name)s:%(message)s'), '\x7b': (<class 'logging.StrFormatStyle'>, " ++
    "'\x7blevelname\x7d:\x7bname\x7d:\x7bmessage\x7d'), " ++
    "'$': (<class 'logging.StringTemplateStyle'>, " ++
    "'$\x7blevelname\x7d:$\x7bname\x7d:$\x7bmessage\x7d')\x7d"

/-! ### Files with a mapping -/

/-- What is wrong with a file that should hold a mapping. -/
inductive Trouble where
  | unreadable (cause : FileCause) (path : String)
  | malformed
  | notMapping
  | invalid (ps : List Problem)
  deriving DecidableEq, Repr

/-- The text of a trouble.  What exactly is malformed or invalid is left open. -/
def Trouble.message : Trouble → String
  | .unreadable cause path => "cannot be read (" ++ (FileError.system cause path).message ++ ")"
  | .malformed => "is not valid YAML (<detail>)"
  | .notMapping => "does not contain a mapping"
  | .invalid _ => "invalid content (<detail>)"

/-- The problems of an invalid content. -/
def Trouble.problems : Trouble → List Problem
  | .invalid ps => ps
  | _ => []

/-- A file gives no mapping, by trouble with it or by mishap. -/
inductive MappingError where
  | trouble (t : Trouble)
  | mishap (m : Mishap)
  deriving DecidableEq, Repr

/-- An error in reading a document, seen from where a mapping is wanted. -/
def MappingError.ofDocument : DocumentError → MappingError
  | .file (.system cause path) => .trouble (.unreadable cause path)
  | .file .nullCharacter => .mishap .nullCharacter
  | .bytes f => .mishap (.bytes f)
  | .text .malformed => .trouble .malformed
  | .text f => .mishap (.value f)

/-- The mapping in a file, checked. -/
def FileTree.mapping {α : Type} (t : FileTree) (path : String) (check : Entries → Checked α) :
    Except MappingError α := do
  match ← (t.document path).mapError .ofDocument with
  | .mapping es =>
    match check es with
    | .good a => pure a
    | .bad ps => throw (.trouble (.invalid ps))
  | _ => throw (.trouble .notMapping)

/-! ### Settings -/

/-- What is wrong with settings. -/
inductive SettingsError where
  /-- The file of settings cannot be read. -/
  | unreadable (file : String) (cause : FileCause)
  /-- The file of settings is no document. -/
  | malformed (file : String)
  /-- The file of settings holds something other than a mapping. -/
  | notMapping (file : String)
  /-- Some settings have values that they cannot have. -/
  | invalid (ps : List Problem)
  /-- Options that are needed are not given. -/
  | incomplete (options : List String)
  deriving DecidableEq, Repr

/-- The text of an error in settings. -/
def SettingsError.message : SettingsError → String
  | .unreadable file cause =>
    "Failed to read config file " ++ file ++ ": " ++ (FileError.system cause file).message
  | .malformed file => "Failed to parse config file " ++ file ++ ": <detail>"
  | .notMapping file => "Config file " ++ file ++ " must contain a mapping"
  | .invalid _ => "Invalid configuration: <detail>"
  | .incomplete options =>
    "Required options are missing. Please provide: " ++
      ", ".intercalate (options.map fun o => "--" ++ o ++ " <path>")

/-- The problems of invalid settings. -/
def SettingsError.problems : SettingsError → List Problem
  | .invalid ps => ps
  | _ => []

/-! ### Failures -/

/-- What ends a run. -/
inductive Failure where
  /-- The administration of the scope is not in order. -/
  | administration (path : String) (t : Trouble)
  /-- A terminology is not in order. -/
  | terminology (path : String) (t : Trouble)
  /-- A directory holds no terminology. -/
  | noTerminology (directory : String)
  /-- The glossary is asked before it has been loaded. -/
  | notReady
  /-- The grammar is none. -/
  | grammar (e : Grammar.Error)
  /-- The style is none. -/
  | style (e : LinkStyle.Error)
  /-- The settings are not in order. -/
  | settings (e : SettingsError)
  | mishap (m : Mishap)
  deriving DecidableEq, Repr

namespace Failure

/-- The wildcard for the names of terminologies. -/
def terminologyWildcard : String := "mrg.*.*.yaml"

/-- The text of a failure. -/
def message : Failure → String
  | .administration path t => "SAF " ++ path ++ ": " ++ t.message
  | .terminology path t => "MRG " ++ path ++ ": " ++ t.message
  | .noTerminology directory =>
    "No terminology files matching " ++ Quoted.ofText terminologyWildcard ++ " found in " ++ directory
  | .notReady => "Runtime glossary has not been initialized"
  | .grammar e => e.message
  | .style e => e.message
  | .settings e => e.message
  | .mishap m => m.message

/-- Provision is made for the failure. -/
def isForeseen : Failure → Bool
  | .mishap _ => false
  | .grammar .countTooLarge => false
  | .grammar .flagsClash => false
  | .grammar .characterName => false
  | _ => true

/-- The problems that a failure lists. -/
def problems : Failure → List Problem
  | .administration _ t => t.problems
  | .terminology _ t => t.problems
  | .settings e => e.problems
  | _ => []

/-- An error in reading a mapping, where trouble with the file is a failure of its own. -/
def ofMapping (wrap : Trouble → Failure) : MappingError → Failure
  | .trouble t => wrap t
  | .mishap m => .mishap m

end Failure

end TermRef
