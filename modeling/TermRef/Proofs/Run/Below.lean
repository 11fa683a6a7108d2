/-
TermRef/Proofs/Run/Below.lean

Conversions stay below the output directory, and are laid out there as the files are in the input
root.

Whatever paths a run is given, each as a text, the path of a conversion is that of the output
directory with plain names behind it.  These are the names that lead from the normal form of the
input root to that of the file, or all names in the normal form of the file if it does not lie
below (`Run.outputPath_mirrors`).  So the conversion goes to a place below that of the output
directory, whatever there is in a tree.
-/
import TermRef.Proofs.Files.Normal
import TermRef.Proofs.Run.Mirror

namespace TermRef

namespace Path

variable {here s n : String} {base p : Path}

/-- The names in the path that a text names count, and hold no slash. -/
theorem counts_of_mem_ofText (h : n ∈ (ofText s).parts) : counts n = true ∧ '/' ∉ n.toList := by
  obtain ⟨hname, hcounts⟩ := List.mem_filter.mp h
  obtain ⟨w, hw, rfl⟩ := List.mem_map.mp hname
  refine ⟨hcounts, ?_⟩
  rw [String.toList_ofList]
  exact Pieces.not_mem_of_mem_cut hw

/-- Those in an absolute path are no two dots either. -/
theorem plain_of_mem_absolute (h : n ∈ ((ofText s).absolute (ofText here).parts).parts) :
    n ≠ ".." ∧ n ≠ "." ∧ n ≠ "" ∧ '/' ∉ n.toList := by
  have hslash : '/' ∉ n.toList :=
    (mem_of_mem_absolute h).elim (counts_of_mem_ofText · |>.2) (counts_of_mem_ofText · |>.2)
  rw [absolute_eq] at h
  obtain ⟨-, hplain⟩ := reaches_settled (spelled here s)
  obtain ⟨hcounts, hup⟩ := hplain n h
  obtain ⟨hempty, hdot⟩ : n ≠ "" ∧ n ≠ "." := by simpa [counts] using hcounts
  exact ⟨hup, hdot, hempty, hslash⟩

/-- What a path is called is made of names in it. -/
theorem mem_of_mem_nameFrom (h : n ∈ base.nameFrom p) : n ∈ p.parts := by
  rcases below_or_outside base p with ⟨rest, rfl⟩ | hout
  · rw [nameFrom_below] at h
    exact List.mem_append_right _ h
  · rwa [hout.nameFrom_eq] at h

end Path

namespace Run

/-- The run in a working directory and with its paths, all as they are written. -/
def placedAt (r : Run) (here output inputRoot : String) : Run :=
  { r with
    output := .ofText output
    inputRoot := .ofText inputRoot
    files := { r.files with here := (Path.ofText here).parts } }

/-- **A conversion is written below the output directory, where its file lies in the input root.**
The names that lead there are plain.  They lead from the normal form of the input root to that of
the file, or are all names of the latter if it lies outside. -/
theorem outputPath_mirrors (r : Run) (here output inputRoot path : String) :
    ∃ (root file : Path) (rest : List String),
      (∀ p, Path.IsNormal here inputRoot p ↔ p = root) ∧
      (∀ p, Path.IsNormal here path p ↔ p = file) ∧
      (r.placedAt here output inputRoot).outputPath (.ofText path) =
        (Path.ofText output).below rest ∧
      (∀ n ∈ rest, n ≠ ".." ∧ n ≠ "." ∧ n ≠ "" ∧ '/' ∉ n.toList) ∧
      (file = root.below rest ∨ root.Outside file ∧ rest = file.parts) ∧
      ∀ t : FileTree, t.placeOf ((r.placedAt here output inputRoot).outputPath (.ofText path)) =
        t.placeOf (.ofText output) ++ rest := by
  let root := (Path.ofText inputRoot).absolute (Path.ofText here).parts
  let file := (Path.ofText path).absolute (Path.ofText here).parts
  have hpath : (r.placedAt here output inputRoot).outputPath (.ofText path) =
      (Path.ofText output).below (root.nameFrom file) := rfl
  have hplain : ∀ n ∈ root.nameFrom file, n ≠ ".." ∧ n ≠ "." ∧ n ≠ "" ∧ '/' ∉ n.toList :=
    fun n hn => Path.plain_of_mem_absolute (Path.mem_of_mem_nameFrom hn)
  refine ⟨root, file, root.nameFrom file, fun _ => Path.isNormal_iff, fun _ => Path.isNormal_iff,
    hpath, hplain, ?_, fun t => ?_⟩
  · rcases Path.below_or_outside root file with ⟨rest, hfile⟩ | hout
    · rw [hfile, Path.nameFrom_below]
      exact .inl rfl
    · exact .inr ⟨hout, hout.nameFrom_eq⟩
  · rw [hpath, FileTree.placeOf_below fun hup => (hplain ".." hup).1 rfl]

/-- A directory whose name begins with that of the input root does not lie below it, and two dots
lead back by one name. -/
example : (shadowing.placedAt "/w" "out" "docs").outputPath (.ofText "x/..//docs/./a/../b") =
      .ofText "out/b" ∧
    (shadowing.placedAt "/w" "out" "docs").outputPath (.ofText "docs2/b") =
      .ofText "out/w/docs2/b" := by
  decide +kernel

end Run

end TermRef
