/-
TermRef/Proofs/Run/Once.lean

How often a run visits a file.

A run visits the files that its pattern names, in order, and as often as it names them.  It names
one for each way along the names of the pattern that ends at a file (`Glob.files_ways`).  Two ways
can lead to one file if two names of the pattern stand for directories at any depth, or if a name
leads back: then the file is visited twice, and its terms are counted twice (`files_named_twice`).
Otherwise no file is visited more than once (`resolve_visits_files_once`).
-/
import TermRef.Proofs.Files.Listing
import TermRef.Proofs.Run.Order

namespace TermRef.Run

open Glob

variable {r : Run} {ps : List Path}

/-- No two of the paths are found at one place, whatever is in the tree. -/
def FoundApart (ps : List Path) : Prop :=
  ps.Pairwise fun p q => ∀ (t : FileTree) x i j, t.find p.text = .ok (x, i) →
    t.find q.text ≠ .ok (x, j)

theorem files_of_listFiles (h : r.listFiles = .ok ps) : Glob.files r.files r.pattern = .ok ps := by
  rw [listFiles] at h
  rcases hfiles : Glob.files r.files r.pattern with e | qs
  · rw [hfiles] at h
    cases h
  · rw [hfiles] at h
    exact congrArg _ (Except.ok.inj h)

-- loading is not to be computed here
seal Glossary.load in
theorem started_listFiles (r : Run) : r.started.listFiles = r.listFiles := rfl

theorem foundApart_of_listFiles (ht : r.files.Proper) (h : r.listFiles = .ok ps)
    (hdeep : (Pattern.ofText r.pattern).names.count "**" ≤ 1)
    (hdots : ".." ∉ (Pattern.ofText r.pattern).names) : FoundApart ps := by
  have hfiles := files_of_listFiles h
  refine (nodup_files ht hfiles hdeep).imp_of_mem fun hp hq hne t x i j hfind hfind' => ?_
  exact hne (eq_of_find_eq ht hfiles hdots hp hq hfind hfind')

/-- **A run lists one file for each way along the names of its pattern that ends at a file, and
visits what it lists.**  If no more than one name stands for directories at any depth, nothing is
listed twice; if no name leads back either, the run visits no file twice. -/
theorem resolve_visits_files_once (r : Run) (ht : r.files.Proper) :
    let p := Pattern.ofText r.pattern
    (∀ ps, r.listFiles = .ok ps →
      (∃ ws : List (List String), ws.Nodup ∧
        (∀ w, w ∈ ws ↔ Way r.files p.stem p.names w ∧ r.files.isFile (ending p.stem w) = true) ∧
        ps.Perm (ws.map fun w => Path.ofText (ending p.stem w))) ∧
      (p.names.count "**" ≤ 1 → ps.Nodup) ∧
      (p.names.count "**" ≤ 1 → ".." ∉ p.names → FoundApart ps)) ∧
    ∃ vs last, r.started.Tour vs last ∧ last.files.GrowsOutside [] r.resolve.2.files ∧
      (r.resolve.1 = .ok () → r.listFiles = .ok (vs.map Prod.fst) ∧
        r.resolve.2.journal.report = last.journal.report) ∧
      (p.names.count "**" ≤ 1 → (vs.map Prod.fst).Nodup) ∧
      (p.names.count "**" ≤ 1 → ".." ∉ p.names → FoundApart (vs.map Prod.fst)) := by
  intro p
  refine ⟨fun ps h => ⟨files_ways ht (files_of_listFiles h), nodup_files ht (files_of_listFiles h),
    foundApart_of_listFiles ht h⟩, ?_⟩
  obtain ⟨vs, last, htour, hlisted, hgrows, hok⟩ := r.resolve_tour
  refine ⟨vs, last, htour, hgrows, fun h => ?_, ?_⟩
  · obtain ⟨hlist, -, hreport⟩ := hok h
    exact ⟨started_listFiles r ▸ hlist, hreport⟩
  · rcases hlisted with rfl | ⟨ps, hps, hpre⟩
    · exact ⟨fun _ => .nil, fun _ _ => .nil⟩
    · rw [started_listFiles] at hps
      exact ⟨fun hdeep => (nodup_files ht (files_of_listFiles hps) hdeep).sublist hpre.sublist,
        fun hdeep hdots => (foundApart_of_listFiles ht hps hdeep hdots).sublist hpre.sublist⟩

/-- A run with two directories, in one of which is a file with a reference. -/
def nested (pattern : String) : Run where
  resolver := .plain
  output := .ofText "/out"
  pattern := pattern
  inputRoot := ⟨.root, []⟩
  glossary := .plain
  files :=
    { here := []
      items := [
        (["d"], .directory),
        (["d", "a.md"], .file (Utf8.encode "[a](@)".toList)),
        (["e"], .directory)] }

/-- With one name for directories at any depth, the file is visited once. -/
theorem resolve_visits_files_once_nested :
    (nested "**/*.md").files.Proper ∧
      (nested "**/*.md").listFiles = .ok [.ofText "d/a.md"] ∧
      [Path.ofText "d/a.md"].Nodup ∧ FoundApart [.ofText "d/a.md"] := by
  have hproper : (nested "**/*.md").files.Proper := by decide +kernel
  have hlist : (nested "**/*.md").listFiles = .ok [.ofText "d/a.md"] := by decide +kernel
  have honce := (resolve_visits_files_once (nested "**/*.md") hproper).1 _ hlist
  exact ⟨hproper, hlist, honce.2.1 (by decide +kernel), honce.2.2 (by decide +kernel)
    (by decide +kernel)⟩

/-- What is found in the order of its characters is listed as it is found. -/
theorem listFiles_of_sorted (found : List String)
    (hnames : (Pattern.ofText r.pattern).names.isEmpty = false)
    (h : pathsFrom r.files [(Pattern.ofText r.pattern).stem] (Pattern.ofText r.pattern).names =
      .ok found) (hsorted : found.Pairwise fun a b => decide (a ≤ b) = true) :
    r.listFiles = .ok ((found.filter r.files.isFile).map Path.ofText) := by
  have hpaths : paths r.files r.pattern = .ok (found.mergeSort fun a b => a ≤ b) := by
    rw [paths, if_neg (by simp [hnames]), h]
    rfl
  rw [listFiles, Glob.files, hpaths, List.mergeSort_of_pairwise hsorted]
  rfl

/-- With two such names the file is listed twice, and the term in it is counted twice; with a name
that leads back the file is listed under two paths. -/
theorem files_named_twice :
    let p := Path.ofText "d/a.md"
    (nested "**/**/*.md").listFiles = .ok [p, p] ∧
      (processAll [p, p] 0 (nested "**/**/*.md")).2.journal.report.converted = ["a", "a"] ∧
      (nested "*/../d/a.md").listFiles = .ok [.ofText "d/../d/a.md", .ofText "e/../d/a.md"] := by
  refine ⟨?_, by decide +kernel, ?_⟩
  · rw [listFiles_of_sorted ["d/a.md", "d/a.md"] (by decide +kernel)
      (by decide +kernel) (by decide +kernel)]
    decide +kernel
  · rw [listFiles_of_sorted ["d/../d/a.md", "e/../d/a.md"] (by decide +kernel)
      (by decide +kernel) (by decide +kernel)]
    decide +kernel

end TermRef.Run
