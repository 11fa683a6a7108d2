/-
TermRef/Settings/Load.lean

Loading settings: from a file of settings and from options, which are explicit, from the
environment, and from the file of variables in the working directory.

An option takes the place of an entry of the same name in the file of settings.  An
option that is null is not given at all.  A name that is that of no setting is ignored,
whatever it begins with: the names with an underscore in front by which the sources
themselves could be set up are left out here.
-/
import TermRef.Settings.Basic
import TermRef.Failure

namespace TermRef.Settings

/-! ### Files -/

/-- The mapping in a file of settings; an empty document stands for the empty mapping. -/
def fileEntries (t : FileTree) (path : String) : Except Failure Entries :=
  match t.document path with
  | .ok .null => .ok []
  | .ok (.mapping es) => .ok es
  | .ok _ => .error (.settings (.notMapping path))
  | .error (.file (.system cause _)) => .error (.settings (.unreadable path cause))
  | .error (.file .nullCharacter) => .error (.mishap .nullCharacter)
  | .error (.bytes f) => .error (.mishap (.bytes f))
  | .error (.text .malformed) => .error (.settings (.malformed path))
  | .error (.text f) => .error (.mishap (.value f))

/-- The name of the file of variables. -/
def envFileName : String := ".env"

/-- The bindings of the file of variables, if there is one. -/
def envBindings (t : FileTree) (environment : List (String × String)) :
    Except Failure (List Binding) :=
  match t.read envFileName with
  | .error _ => .ok []
  | .ok bytes =>
    match Utf8.decode bytes with
    | .ok text => .ok (EnvFile.read environment (Lines.unifyEnds text))
    | .error f => .error (.mishap (.bytes f))

/-! ### All sources -/

/-- Explicit values with an option over them, unless it is null. -/
def override (es : Entries) (option : String × Value) : Entries :=
  match option.2 with
  | .null => es
  | v => es.put (.text option.1) v

/-- The mapping of a file of settings that may not be named, or be named by nothing. -/
def optionalFile (t : FileTree) : Option String → Except Failure Entries
  | none => .ok []
  | some path => if path = "" then .ok [] else fileEntries t path

/-- Every name is a text. -/
def namesAreTexts (es : Entries) : Bool := es.all fun e => e.1 matches .text _

/-- The settings that a file of settings, options, the environment and the file of
variables make up. -/
def load (t : FileTree) (environment : List (String × String)) (file : Option String)
    (options : List (String × Value)) : Except Failure Settings := do
  let given := options.foldl override (← optionalFile t file)
  if !namesAreTexts given then throw (.mishap .nameNotText)
  let bindings ← envBindings t environment
  match ofSources { given, environment, bindings } with
  | .good s => pure s
  | .bad ps => throw (.settings (.invalid ps))

/-- The directories of the scope and of the output, which have to be set. -/
def paths (s : Settings) : Except Failure (Path × Path) :=
  match s.scopedir, s.output with
  | some scopedir, some output => .ok (scopedir, output)
  | _, _ => .error (.settings (.incomplete (s.missing.map Setting.name)))

end TermRef.Settings
