/-
TermRef/Main.lean

The program: it gathers the files that a call can touch, makes the call, and then
writes the files that have changed.

All that is decided is decided in the call; here bytes are only carried to it and from
it.
-/
import TermRef.Command.Run

namespace TermRef.Main

open Command

/-! ### Gathering -/

/-- How deep directories are entered. -/
def depthLimit : Nat := 100

/-- A place in writing. -/
def placeText (p : Place) : String := Path.text ⟨.root, p⟩

/-- The names in the directory at a place, if there is one. -/
def namesAt (p : Place) : IO (Option (List String)) := do
  match ← ((← IO.currentDir) / placeText p).readDir.toBaseIO with
  | .ok entries => pure (some (entries.toList.map (·.fileName)))
  | .error _ => pure none

/-- A tree with the file or directory at a place, and with all that is below it. -/
def gatherBelow : Nat → Place → FileTree → IO FileTree
  | 0, _, t => pure t
  | depth + 1, p, t => do
    match ← namesAt p with
    | some names =>
      names.foldlM (fun u n => gatherBelow depth (p ++ [n]) u) (t.set p .directory)
    | none =>
      match ← (IO.FS.readBinFile (placeText p)).toBaseIO with
      | .ok bytes => pure (t.set p (.file bytes.toList))
      | .error _ => pure t

/-- A tree with the directories that lead to a path, and with all that is below it. -/
def gather (t : FileTree) (path : Path) : IO FileTree := do
  let mut u := t
  for n in [0:path.parts.length] do
    let up := ({ path with parts := path.parts.take n }).absolute t.here
    if (← namesAt up.parts).isSome then u := u.set up.parts .directory
  gatherBelow depthLimit (path.absolute t.here).parts u

/-- The variables of the environment. -/
def environment : IO (List (String × String)) := do
  match ← (IO.FS.readBinFile "/proc/self/environ").toBaseIO with
  | .error _ => pure []
  | .ok bytes =>
    let text := (Utf8.decode bytes.toList).toOption.getD []
    pure ((Pieces.cut '\x00' text).filterMap fun e =>
      (Pieces.cutAt? ['='] e).map fun (n, v) => (String.ofList n, String.ofList v))

/-- The call with the files that its run can touch. -/
def withFiles (c : Call) (o : Options) : IO Call := do
  let files ← gather c.files (.ofText ((o.config.filter (· ≠ "")).getD Settings.envFileName))
  let files ← gather files (.ofText Settings.envFileName)
  match { c with files }.settings o with
  | .error _ => pure { c with files }
  | .ok (s, scopedir, output) =>
    let files ← gather files scopedir
    let files ← match Glossary.open? files (scopedir.absolute files.here) {} with
      | .ok (g, _) => gather files g.directory
      | .error _ => pure files
    let files ← gather files (.ofText (Glob.Pattern.ofText s.glob).stem)
    pure { c with files := ← gather files output }

/-! ### Carrying out -/

/-- Writes what is at a place. -/
def putItem (p : Place) : Item → IO Unit
  | .directory => IO.FS.createDirAll (placeText p)
  | .file bytes => IO.FS.writeBinFile (placeText p) (ByteArray.mk bytes.toArray)

/-- Writes what has changed from one tree to another. -/
def putChanges (old new : FileTree) : IO Unit := do
  for (p, i) in new.items do
    if old.item? p ≠ some i then putItem p i

/-- A note in writing. -/
def noteText (n : Note) : String :=
  Report.padRight 7 n.level.name ++ " " ++ n.part.name ++ ": " ++ n.message

/-- Carries out what a call has done. -/
def carryOut (old : FileTree) (o : Outcome) : IO UInt32 := do
  putChanges old o.files
  for n in o.notes do IO.eprintln (noteText n)
  IO.eprint o.errors
  IO.print o.output
  match o.ending with
  | .returned code => pure code.toUInt32
  | .exited code => pure code.toUInt32
  | .broken f =>
    IO.eprintln f.message
    pure 1

end TermRef.Main

open TermRef in
/-- Makes the call with the given arguments. -/
def main (arguments : List String) : IO UInt32 := do
  let here := (Path.ofText (← IO.currentDir).toString).parts
  let c : Command.Call := ⟨arguments, ← Main.environment, .bare here⟩
  let c ← match Command.Options.ofArguments arguments with
    | .ok o => Main.withFiles c o
    | .error _ => pure c
  Main.carryOut c.files (c.run fun p => p.absolute here)
