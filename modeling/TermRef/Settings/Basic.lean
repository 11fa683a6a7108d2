/-
TermRef/Settings/Basic.lean

Settings, and where they come from.

Every setting has a value of its own sources: what is given explicitly comes before the
environment, the environment before a file of environment variables, and that before the
default.  A source counts as soon as it has the setting, whatever the value; so an
explicit null is a value that is then refused, and not the absence of one.

Names are compared without regard to case.  Of several explicit names for a setting the
first counts, of several variables the last.
-/
import TermRef.Settings.EnvFile
import TermRef.Files.Path
import TermRef.Unicode.Case
import TermRef.Value.Check

namespace TermRef

open Value

/-! ### Names -/

/-- What can be set. -/
inductive Setting where
  | scopedir
  | output
  | glob
  | vsntag
  | interpreter
  | converter
  | logLevel
  deriving DecidableEq, Repr

/-- The name of a setting. -/
def Setting.name : Setting → String
  | .scopedir => "scopedir"
  | .output => "output"
  | .glob => "glob"
  | .vsntag => "vsntag"
  | .interpreter => "interpreter"
  | .converter => "converter"
  | .logLevel => "log_level"

/-- The name of the variable for a setting. -/
def Setting.variableName (s : Setting) : String := "trrt_" ++ s.name

/-- The name is the given one but for case. -/
def isNamed (name written : String) : Bool := Unicode.lower written.toList == name.toList

/-! ### Sources -/

/-- The sources of settings. -/
structure Sources where
  /-- Explicit values, in order. -/
  given : Entries
  environment : List (String × String)
  /-- Bindings of a file of variables. -/
  bindings : List Binding

namespace Sources

/-- The explicit value of a setting. -/
def given? (s : Sources) (x : Setting) : Option Value :=
  (s.given.find? fun e =>
    match e.1 with
    | .text k => isNamed x.name k
    | _ => false).map (·.2)

/-- What the environment has for a setting. -/
def environment? (s : Sources) (x : Setting) : Option String :=
  (s.environment.reverse.find? fun e => isNamed x.variableName e.1).map (·.2)

/-- What the file of variables has for a setting. -/
def bound? (s : Sources) (x : Setting) : Option String :=
  (s.bindings.reverse.find? fun b => isNamed x.variableName b.name).bind (·.value)

/-- The value of a setting from the first source that has it. -/
def value? (s : Sources) (x : Setting) : Option Value :=
  match s.given? x with
  | some v => some v
  | none =>
    match s.environment? x with
    | some t => some (.text t)
    | none => (s.bound? x).map .text

end Sources

/-! ### Settings -/

/-- The settings of a run. -/
structure Settings where
  scopedir : Option Path := none
  output : Option Path := none
  glob : String := "*"
  vsntag : String := "latest"
  interpreter : String := "default"
  converter : String := "default"
  logLevel : String := "INFO"
  deriving DecidableEq, Repr

/-- A path, or none. -/
def Value.path? : Value → Checked (Option Path)
  | .null => .good none
  | .text s => .good (some (.ofText s))
  | _ => .flaw .notPath

namespace Settings

/-- The checked value of a setting, or its default. -/
def setting {α : Type} (s : Sources) (x : Setting) (dflt : α) (check : Value → Checked α) :
    Checked α :=
  match s.value? x with
  | some v => (check v).under (.name x.name)
  | none => .good dflt

/-- The settings that some sources make up. -/
def ofSources (s : Sources) : Checked Settings :=
  let dflt : Settings := {}
  Settings.mk <$> setting s .scopedir dflt.scopedir path? <*>
    setting s .output dflt.output path? <*>
    setting s .glob dflt.glob tag? <*>
    setting s .vsntag dflt.vsntag tag? <*>
    setting s .interpreter dflt.interpreter tag? <*>
    setting s .converter dflt.converter tag? <*>
    setting s .logLevel dflt.logLevel text?

/-- The settings that a run cannot do without and that are missing. -/
def missing (s : Settings) : List Setting :=
  (if s.output.isNone then [.output] else []) ++ (if s.scopedir.isNone then [.scopedir] else [])

end Settings

end TermRef
