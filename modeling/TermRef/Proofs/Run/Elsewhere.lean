/-
TermRef/Proofs/Run/Elsewhere.lean

Visiting a file when others have been visited before.

Two files are separate if their conversions are written to paths apart, and neither of them over
the other file (`Separate`).  A run is undisturbed for a file as long as only files separate from it
have been visited (`Undisturbed.step`): the file still holds what it held at the start, and the
files are beside those of the start, seen from the path that its conversion is written to.

So the visit of the file comes to what it would have come to at the start (`Undisturbed.visit`).  It
changes the same places in the same way, counts the same terms and gives the same warnings.  Its
errors are the same, too, apart from one thing (`Alike`): why a conversion cannot be written may be
told by another place, if what bars the way to it lies behind a place where nothing was.
-/
import TermRef.Proofs.Files.Beside
import TermRef.Proofs.Run.Account

namespace TermRef

open FileTree

/-- The record of a file whose conversion cannot be written. -/
def Diagnostic.unwritten (file target : Path) (cause : FileError) : Diagnostic :=
  ⟨.fileError, "Error writing file " ++ target.text ++ ": " ++ cause.message, some file.text, none⟩

namespace Run

variable {r s r' s' : Run} {p q : Path} {v w : Visit}

/-! ### Files to convert -/

/-- There is a file at the path, and its conversion is written to a path that ends in a name. -/
structure Eligible (r : Run) (p : Path) : Prop where
  file : r.files.isFile p.text = true
  proper : (r.outputPath p).Proper
  named : ∃ up name, (r.outputPath p).parts = up ++ [name] ∧ name ≠ ".."

theorem clears_of_isFile (hfile : r.files.isFile p.text = true)
    (hproper : (r.outputPath p).Proper) : r.Clears p := by
  obtain ⟨x, b, hfind⟩ := exists_find_of_isFile hfile
  exact ⟨Path.nullFree_of_text (find_eq_ok.mp hfind).1, hproper.nullFree⟩

/-- A file whose paths are clear of the null character is visited. -/
theorem exists_visit (hg : r.glossary.ready = true) (h : r.Clears p) :
    ∃ v, r.Visits p v (r.processFile p).2 := by
  rcases ends_processFile hg p with ⟨v, -, hv, -⟩ | ⟨hnull, -⟩
  · exact ⟨v, hv⟩
  · rcases (stepsTo_processFile hg p).2 with ⟨a, ha⟩ | ⟨-, hnot⟩
    · rw [ha] at hnull
      cases hnull
    · exact absurd h hnot

theorem Eligible.writes (h : r.Eligible p) (t : FileTree) (b : List UInt8) :
    t.Writes (r.outputPath p) b (writeBytes t (r.outputPath p) b) := by
  obtain ⟨up, name, hparts, hdots⟩ := h.named
  exact writes_writeBytes hparts h.proper hdots b

/-- A visit touches the path that the conversion is written to, at most. -/
theorem Eligible.touches (h : r.Eligible p) (hv : r.Visits p v s) :
    r.files.Touches (r.outputPath p) s.files := by
  cases hv with
  | unreadable _ _ _ hfiles => exact hfiles ▸ .refl _ _
  | plain _ _ _ hfiles => exact hfiles ▸ .refl _ _
  | @written _ _ out _ _ _ _ hwrite =>
    have htouches := (h.writes r.files (Utf8.encode out.toList)).touches
    rwa [hwrite] at htouches
  | @unwritable _ _ out _ _ _ _ _ hwrite =>
    have htouches := (h.writes r.files (Utf8.encode out.toList)).touches
    rwa [hwrite] at htouches

/-- The conversions of two files are written to paths apart, and neither over the other file. -/
structure Separate (r : Run) (p q : Path) : Prop where
  apart : r.files.Apart (r.outputPath p) (r.outputPath q)
  left : ∀ i, r.files.find p.text ≠ .ok (r.files.placeOf (r.outputPath q), i)
  right : ∀ i, r.files.find q.text ≠ .ok (r.files.placeOf (r.outputPath p), i)

theorem Separate.symm (h : r.Separate p q) : r.Separate q p := ⟨h.apart.symm, h.right, h.left⟩

/-! ### Undisturbed runs -/

/-- What has been done since a run was at its start does not concern a file. -/
structure Undisturbed (r s : Run) (p : Path) : Prop where
  keeps : r.Keeps s
  beside : r.files.Beside s.files (r.outputPath p)
  directories : ∀ x, r.files.item? x = some .directory → s.files.item? x = some .directory
  source : ∀ x b, r.files.find p.text = .ok (x, some (.file b)) → s.files.item? x = some (.file b)

theorem Undisturbed.refl (r : Run) (p : Path) : r.Undisturbed r p where
  keeps := .refl r
  beside := .refl _ _
  directories _ h := h
  source _ _ h := (item?_of_find h (by simp)).2

/-- **A run stays undisturbed for a file when one separate from it is visited.** -/
theorem Undisturbed.step {u : FileTree} (h : r.Undisturbed s q) (hkeeps : s.Keeps s')
    (hsep : r.Separate p q) (hu : r.files.Touches (r.outputPath p) u)
    (hitem : ∀ x, s'.files.item? x = (r.files.newIn u x).or (s.files.item? x)) :
    r.Undisturbed s' q where
  keeps := h.keeps.trans hkeeps
  beside := h.beside.step hu hsep.apart hkeeps.here hitem
  directories x hx := by
    rw [hitem, hu.newIn_eq_none hx (.inl rfl), Option.none_or]
    exact h.directories x hx
  source x b hfind := by
    have hx := (item?_of_find hfind (by simp)).2
    have hne : x ≠ r.files.placeOf (r.outputPath p) := by
      rintro rfl
      exact hsep.right _ hfind
    rw [hitem, hu.newIn_eq_none hx (.inr hne), Option.none_or]
    exact h.source x b hfind

/-! ### What a visit comes to -/

/-- Two visits of a file come to the same, except that they may tell different causes why its
conversion cannot be written; and not even these differ if nothing that bars the way is hidden. -/
structure Alike (r : Run) (p : Path) (v w : Visit) : Prop where
  terms : w.terms = v.terms
  warnings : w.warnings = v.warnings
  errors : w.errors = v.errors ∨ ∃ cause cause',
    v.errors = [.unwritten p (r.outputPath p) cause] ∧
      w.errors = [.unwritten p (r.outputPath p) cause']
  unhidden : r.files.Unhidden (r.outputPath p) → w.errors = v.errors

theorem Alike.refl (r : Run) (p : Path) (v : Visit) : r.Alike p v v :=
  ⟨rfl, rfl, .inl rfl, fun _ => rfl⟩

theorem newIn_self (t : FileTree) (x : Place) : t.newIn t x = none := if_pos rfl

namespace Undisturbed

theorem outputPath_eq (h : r.Undisturbed s p) : s.outputPath p = r.outputPath p := by
  rw [outputPath, outputPath, h.keeps.output, h.keeps.here, h.keeps.inputRoot]

/-- The file still holds what it held. -/
theorem read_eq (h : r.Undisturbed s p) (he : r.Eligible p) :
    s.files.read p.text = r.files.read p.text := by
  obtain ⟨x, b, hfind⟩ := exists_find_of_isFile he.file
  have hfind' : s.files.find p.text = .ok (x, some (.file b)) :=
    find_of_directories hfind (by simp) h.keeps.here h.directories (h.source x b hfind)
  rw [FileTree.read, FileTree.read, hfind, hfind']

variable {text text' out out' : String} {os os' : List (Occurrence × Resolution)}

theorem holds (h : r.Undisturbed s p) (he : r.Eligible p) (hholds : s.Holds p text) :
    r.Holds p text := by
  rwa [Holds, h.read_eq he] at hholds

theorem unreadable {why : String} (h : r.Undisturbed s p) (he : r.Eligible p)
    (hun : s.Unreadable p why) : r.Unreadable p why := by
  cases hun with
  | file herror hne => exact .file (h.read_eq he ▸ herror) hne
  | bytes hread hnone hdecode => exact .bytes (h.read_eq he ▸ hread) hnone hdecode

theorem converts (h : r.Undisturbed s p)
    (hconv : Converts s.resolver s.glossary p.text text os out) :
    Converts r.resolver r.glossary p.text text os out := by
  rwa [h.keeps.resolver, h.keeps.glossary] at hconv

/-- The file has one conversion, in both runs. -/
theorem converts_unique (h : r.Undisturbed s p) (he : r.Eligible p) (hholds : r.Holds p text)
    (hconv : Converts r.resolver r.glossary p.text text os out) (hholds' : s.Holds p text')
    (hconv' : Converts s.resolver s.glossary p.text text' os' out') : os = os' ∧ out = out' :=
  hholds.converts_unique (h.holds he hholds') hconv (h.converts hconv')

/-- Writing the conversion changes the same places. -/
theorem item?_writeBytes (h : r.Undisturbed s p) (he : r.Eligible p) (b : List UInt8) (x : Place) :
    (writeBytes s.files (s.outputPath p) b).1.item? x =
      (r.files.newIn (writeBytes r.files (r.outputPath p) b).1 x).or (s.files.item? x) := by
  rw [h.outputPath_eq]
  exact h.beside.item?_eq (he.writes _ b) (he.writes _ b) x

/-- It is written in both runs or in neither. -/
theorem writeBytes_eq_none_iff (h : r.Undisturbed s p) (he : r.Eligible p) (b : List UInt8) :
    (writeBytes s.files (s.outputPath p) b).2 = none ↔
      (writeBytes r.files (r.outputPath p) b).2 = none := by
  rw [h.outputPath_eq, (he.writes _ b).error, (he.writes _ b).error]
  exact h.beside.admits_iff

/-- **The visit of a file comes to what it would have come to at the start.** -/
theorem visit (h : r.Undisturbed s p) (he : r.Eligible p) (hv : r.Visits p v r')
    (hw : s.Visits p w s') : r.Alike p v w ∧
      ∀ x, s'.files.item? x = (r.files.newIn r'.files x).or (s.files.item? x) := by
  -- nothing is changed by a visit that writes nothing
  have hsame : r'.files = r.files → s'.files = s.files →
      ∀ x, s'.files.item? x = (r.files.newIn r'.files x).or (s.files.item? x) := by
    intro hr hs x
    rw [hr, hs, newIn_self, Option.none_or]
  cases hv with
  | unreadable hun heq _ hfiles =>
    cases hw with
    | unreadable hun' heq' _ hfiles' =>
      rw [heq, heq', hun.unique (h.unreadable he hun')]
      exact ⟨.refl _ _ _, hsame hfiles hfiles'⟩
    | plain hholds => exact absurd (h.holds he hholds) hun.not_holds
    | written hholds => exact absurd (h.holds he hholds) hun.not_holds
    | unwritable hholds => exact absurd (h.holds he hholds) hun.not_holds
  | plain hholds hscan _ hfiles =>
    cases hw with
    | unreadable hun => exact absurd hholds (h.unreadable he hun).not_holds
    | plain _ _ _ hfiles' => exact ⟨.refl _ _ _, hsame hfiles hfiles'⟩
    | written hholds' hconv =>
      exact absurd (h.converts hconv) (hholds.not_converts (h.holds he hholds') hscan)
    | unwritable hholds' hconv =>
      exact absurd (h.converts hconv) (hholds.not_converts (h.holds he hholds') hscan)
  | @written _ _ out _ _ hholds hconv hwrite =>
    cases hw with
    | unreadable hun => exact absurd hholds (h.unreadable he hun).not_holds
    | plain hholds' hscan =>
      rw [h.keeps.resolver] at hscan
      exact absurd hconv ((h.holds he hholds').not_converts hholds hscan)
    | written hholds' hconv' hwrite' =>
      obtain ⟨rfl, rfl⟩ := h.converts_unique he hholds hconv hholds' hconv'
      have hitem := h.item?_writeBytes he (Utf8.encode out.toList)
      rw [hwrite, hwrite'] at hitem
      exact ⟨⟨rfl, rfl, .inl rfl, fun _ => rfl⟩, hitem⟩
    | unwritable hholds' hconv' hwrite' =>
      obtain ⟨rfl, rfl⟩ := h.converts_unique he hholds hconv hholds' hconv'
      have hnone := (h.writeBytes_eq_none_iff he (Utf8.encode out.toList)).mpr (by rw [hwrite])
      rw [hwrite'] at hnone
      cases hnone
  | @unwritable _ _ out cause _ _ hholds hconv hwrite _ heq =>
    cases hw with
    | unreadable hun => exact absurd hholds (h.unreadable he hun).not_holds
    | plain hholds' hscan =>
      rw [h.keeps.resolver] at hscan
      exact absurd hconv ((h.holds he hholds').not_converts hholds hscan)
    | written hholds' hconv' hwrite' =>
      obtain ⟨rfl, rfl⟩ := h.converts_unique he hholds hconv hholds' hconv'
      have hnone := (h.writeBytes_eq_none_iff he (Utf8.encode out.toList)).mp (by rw [hwrite'])
      rw [hwrite] at hnone
      cases hnone
    | @unwritable _ _ _ cause' _ _ hholds' hconv' hwrite' _ heq' =>
      obtain ⟨rfl, rfl⟩ := h.converts_unique he hholds hconv hholds' hconv'
      have hitem := h.item?_writeBytes he (Utf8.encode out.toList)
      rw [hwrite, hwrite'] at hitem
      rw [h.outputPath_eq] at heq' hwrite'
      refine ⟨⟨rfl, rfl, .inr ⟨cause, cause', by rw [heq]; rfl, by rw [heq']; rfl⟩, fun hun => ?_⟩,
        hitem⟩
      obtain ⟨up, name, hparts, hdots⟩ := he.named
      have herror := h.beside.error_eq hparts he.proper hdots hun (Utf8.encode out.toList)
      rw [hwrite, hwrite'] at herror
      obtain rfl : cause' = cause := Option.some.inj herror
      rw [heq, heq']

end Undisturbed

end Run

end TermRef
