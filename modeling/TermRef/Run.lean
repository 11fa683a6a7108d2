/-
TermRef/Run.lean

A run over files: the glossary is loaded, and the files that a pattern names are
converted one after the other.

A file is read whole.  If it holds references, the converted text is written below the
output directory, under the path that leads to the file from the input root; a file
outside the input root keeps all of its path.  A file that cannot be read or written is
an error in the report and no more; terms count as converted once the file is written.
-/
import TermRef.Conversion
import TermRef.Glossary.Load
import TermRef.Files.Glob

namespace TermRef

/-! ### Runs -/

/-- How far a run has come. -/
inductive Phase where
  | idle
  | loading
  | scanning
  | done
  | failed
  deriving DecidableEq, Repr

/-- The name of a phase. -/
def Phase.name : Phase → String
  | .idle => "idle"
  | .loading => "initializing"
  | .scanning => "scanning"
  | .done => "done"
  | .failed => "failed"

/-- A run: what it works with, and what it has come to. -/
structure Run where
  resolver : Resolver
  output : Path
  pattern : String := "*"
  inputRoot : Path
  glossary : Glossary
  files : FileTree
  journal : Journal := {}
  phase : Phase := .idle

namespace Run

/-- The run with one more note. -/
def note (r : Run) (level : Level) (message : String) : Run :=
  { r with journal := r.journal.note .run level message }

/-- The run with one more error with a file. -/
def fileError (r : Run) (path message : String) : Run :=
  { r with journal := r.journal.fail ⟨.fileError, message, some path, none⟩ }

/-! ### Output paths -/

/-- The parts that lead from the input root to a path; all of its parts from the root of
the files if it does not lie below. -/
def partsOf (here : Place) (inputRoot path : Path) : List String :=
  let absolute := path.absolute here
  (Path.partsFrom? (inputRoot.absolute here) absolute).getD absolute.parts

/-- The path of what a file is converted to. -/
def outputPath (r : Run) (path : Path) : Path :=
  r.output.below (partsOf r.files.here r.inputRoot path)

/-! ### Files -/

/-- The text of a file, or what is wrong with it. -/
def readText (t : FileTree) (path : String) : Except Failure (Except String String) :=
  match t.read path with
  | .error .nullCharacter => .error (.mishap .nullCharacter)
  | .error e => .ok (.error e.message)
  | .ok bytes =>
    match Utf8.decode bytes with
    | .error f => .ok (.error f.message)
    | .ok text => .ok (.ok (String.ofList text))

/-- Writes bytes to a file, having made the directories that lead to it. -/
def writeBytes (t : FileTree) (target : Path) (bytes : List UInt8) : FileTree × Option FileError :=
  match t.provide target.parent with
  | (u, some e) => (u, some e)
  | (u, none) =>
    match u.write target.text bytes with
    | .ok v => (v, none)
    | .error e => (u, some e)

/-- Writes the conversion of a file, and counts its terms if that succeeds. -/
def deliver (r : Run) (path : Path) (c : Conversion) : Except Failure (Option Path) × Run :=
  let target := r.outputPath path
  match writeBytes r.files target (Utf8.encode c.text.toList) with
  | (t, none) =>
    let written := { r with files := t, journal := c.terms.foldl Journal.converted r.journal }
    (.ok (some target), written.note .debug ("Writing: " ++ target.text))
  | (t, some .nullCharacter) => (.error (.mishap .nullCharacter), { r with files := t })
  | (t, some e) =>
    (.ok none, { r with files := t }.fileError path.text
      ("Error writing file " ++ target.text ++ ": " ++ e.message))

/-- Converts a file; gives the path of what has been written, if anything has. -/
def processFile (r : Run) (path : Path) : Except Failure (Option Path) × Run :=
  match readText r.files path.text with
  | .error e => (.error e, r)
  | .ok (.error message) => (.ok none, r.fileError path.text ("Error reading file: " ++ message))
  | .ok (.ok text) =>
    match r.resolver.convert r.glossary path.text text r.journal with
    | (.error e, j) => (.error e, { r with journal := j })
    | (.ok none, j) => (.ok none, { r with journal := j })
    | (.ok (some c), j) => { r with journal := j }.deliver path c

/-- The files that the pattern names. -/
def listFiles (r : Run) : Except Failure (List Path) :=
  (Glob.files r.files r.pattern).mapError fun _ => .mishap .nullCharacter

/-- Converts files one after the other; gives the number of those written, added to the
number so far.  A failure ends this. -/
def processAll : List Path → Nat → Run → Except Failure Nat × Run
  | [], n, r => (.ok n, r)
  | p :: ps, n, r =>
    match r.processFile p with
    | (.error e, r) => (.error e, r)
    | (.ok (some _), r) => processAll ps (n + 1) r
    | (.ok none, r) => processAll ps n r

/-! ### The whole run -/

/-- Loads the glossary. -/
def load (r : Run) : Except Failure Unit × Run :=
  let l := r.glossary.load r.files r.journal
  let loaded := { r with glossary := l.glossary, journal := l.journal }
  match l.failure with
  | some e => (.error e, loaded)
  | none => (.ok (), loaded)

/-- Converts all files that the pattern names, with a glossary that has been loaded. -/
def scanAll (r : Run) : Except Failure Unit × Run :=
  match r.listFiles with
  | .error e => (.error e, r)
  | .ok paths =>
    match processAll paths 0 r with
    | (.error e, r) => (.error e, r)
    | (.ok n, r) =>
      (.ok (), { r with phase := .done }.note .info
        ("Resolution complete: wrote " ++ toString n ++ " of " ++ toString paths.length ++ " file(s)"))

/-- The notes with which a scan starts. -/
def startNotes (r : Run) : Run :=
  (r.note .info ("Using interpreter '" ++ r.resolver.grammar.kind.name ++ "' and converter '" ++
    r.resolver.style.kind.name ++ "'")).note .info
    ("Reading files using pattern string '" ++ r.pattern ++ "'")

/-- The whole run: the glossary is loaded, and then the files are converted. -/
def resolve (r : Run) : Except Failure Unit × Run :=
  match { r with phase := .loading }.load with
  | (.error e, r) => (.error e, if e.isForeseen then { r with phase := .failed } else r)
  | (.ok (), r) => { r.startNotes with phase := .scanning }.scanAll

end Run

end TermRef
