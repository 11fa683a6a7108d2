/-
TermRef/Proofs/Reference/Spelled.lean

References that leave out their identifier, and the same references with it written out.

An identifier that is left out is derived from the words shown.  What is derived has characters of
identifiers only, whatever the words are, so it can be written where nothing stood
(`Citation.spelled`), and the reference means what it meant (`Citation.spelled_reference`).  That
holds of the empty identifier as well: in the alternate syntax nothing at all and a pair of empty
parentheses are two ways to leave the identifier out, and writing out the empty one makes the
second of the first.

Passages are read back whatever references they hold, so one form can stand for the other, alone
(`Citation.scan_standardText`, `Citation.scan_alternateText`) or among other references and plain
text (`Passage.spelled`).
-/
import TermRef.Proofs.Reference.Passage
import TermRef.Proofs.Text.Slug

namespace TermRef

open Grammar

namespace Citation

/-! ### Writing out -/

/-- The identifier that a reference means: the one that it writes, or the one derived from the
words shown. -/
def ident (x : Citation) : List Char :=
  match (x.naming.getD .absent).id with
  | [] => Slug.ofChars x.mention.shown
  | c :: r => c :: r

theorem ident_isSlugChar (x : Citation) : ∀ c ∈ x.ident, Slug.isSlugChar c = true := by
  have hid := (x.naming.getD .absent).id_slug
  rw [ident]
  split
  · exact (Slug.isSlug_ofChars _).alphabet
  · rename_i heq
    rwa [heq] at hid

/-- The reference with its identifier written out. -/
def spelled (x : Citation) : Citation where
  mention := x.mention
  naming := some {
    id := x.ident
    trait := (x.naming.getD .absent).trait
    id_slug := x.ident_isSlugChar
    trait_slug := (x.naming.getD .absent).trait_slug }

/-- What a reference means does not depend on whether its identifier is written out. -/
theorem spelled_reference (x : Citation) : x.spelled.reference = x.reference := by
  have hterm : (presentPart x.ident).getD (Slug.ofText (String.ofList x.mention.shown)) =
      (presentPart (x.naming.getD .absent).id).getD
        (Slug.ofText (String.ofList x.mention.shown)) := by
    rw [ident]
    split
    · rename_i heq
      rw [heq, Slug.ofText, String.toList_ofList, presentPart]
      -- the identifier that is derived may be empty, and is then derived once more
      split
      · rfl
      · rfl
    · rename_i heq
      rw [heq]
  simp only [reference, Mention.reference, spelled, Option.getD_some, hterm]

/-! ### A reference alone -/

/-- A reference with nothing before and behind it. -/
def alone (x : Citation) : Passage where
  pieces := [([], x)]
  last := []
  plain := by simp
  unescaped := by simp
  apart := by simp

/-- In the default syntax a reference is found where it has been written. -/
theorem scan_standardText (x : Citation) : standard.scan (String.ofList x.standardText) =
    [⟨0, x.standardText.length, String.ofList x.standardText, x.reference⟩] := by
  have hscan := x.alone.scan_standardText
  simpa [Passage.standardText, Passage.occurrences, alone, written, occurrencesFrom] using hscan

/-- So it is in the alternate one. -/
theorem scan_alternateText (x : Citation) : alternate.scan (String.ofList x.alternateText) =
    [⟨0, x.alternateText.length, String.ofList x.alternateText, x.reference⟩] := by
  have hscan := x.alone.scan_alternateText
  simpa [Passage.alternateText, Passage.occurrences, alone, written, occurrencesFrom] using hscan

end Citation

/-! ### Passages -/

/-- The passage with all identifiers written out. -/
def Passage.spelled (p : Passage) : Passage where
  pieces := p.pieces.map fun q => (q.1, q.2.spelled)
  last := p.last
  plain := by
    rw [List.map_map]
    exact p.plain
  unescaped := List.forall_mem_map.mpr p.unescaped
  apart := by
    rw [List.map_map]
    exact p.apart

theorem Passage.spelled_references (p : Passage) : p.spelled.references = p.references := by
  simp only [references, spelled, List.map_map]
  exact List.map_congr_left fun q _ => q.2.spelled_reference

/-- **Derived identifiers are canonical and can be written out.**  What is derived from a text is
an identifier, the identifiers are the texts that this leaves alone, and so it leaves alone what
it has derived.  A reference is read as the same one whether its identifier is left out or written
out, in either syntax, and so are all references of a passage. -/
theorem derived_identifiers_spelled :
    (∀ s : String, Slug.IsSlug (Slug.ofText s).toList ∧
      (Slug.ofText s = s ↔ Slug.IsSlug s.toList) ∧
      Slug.ofText (Slug.ofText s) = Slug.ofText s) ∧
    (∀ x : Citation,
      (standard.scan (String.ofList x.standardText)).map Occurrence.reference = [x.reference] ∧
      (standard.scan (String.ofList x.spelled.standardText)).map Occurrence.reference =
        [x.reference] ∧
      (alternate.scan (String.ofList x.alternateText)).map Occurrence.reference = [x.reference] ∧
      (alternate.scan (String.ofList x.spelled.alternateText)).map Occurrence.reference =
        [x.reference]) ∧
    ∀ p : Passage,
      (standard.scan p.spelled.standardText).map Occurrence.reference =
        (standard.scan p.standardText).map Occurrence.reference ∧
      (alternate.scan p.spelled.alternateText).map Occurrence.reference =
        (alternate.scan p.alternateText).map Occurrence.reference := by
  have hslug : ∀ s : String, Slug.IsSlug (Slug.ofText s).toList := fun s => by
    rw [Slug.ofText, String.toList_ofList]
    exact Slug.isSlug_ofChars _
  refine ⟨fun s => ⟨hslug s, Slug.ofText_eq_self_iff, Slug.ofText_eq_self_iff.mpr (hslug s)⟩,
    fun x => ⟨?_, ?_, ?_, ?_⟩, fun p => ⟨?_, ?_⟩⟩
  · rw [x.scan_standardText, List.map_singleton]
  · rw [x.spelled.scan_standardText, List.map_singleton, x.spelled_reference]
  · rw [x.scan_alternateText, List.map_singleton]
  · rw [x.spelled.scan_alternateText, List.map_singleton, x.spelled_reference]
  · rw [p.spelled.scan_standardText, p.scan_standardText, Passage.occurrences,
      Passage.occurrences, map_reference_occurrencesFrom, map_reference_occurrencesFrom]
    exact p.spelled_references
  · rw [p.spelled.scan_alternateText, p.scan_alternateText, Passage.occurrences,
      Passage.occurrences, map_reference_occurrencesFrom, map_reference_occurrencesFrom]
    exact p.spelled_references

/-- Nothing is derived from a mark that is no character of identifiers, and that is written out
as well. -/
example : ∃ x : Citation, x.naming = none ∧ String.ofList x.alternateText = "[?@s]" ∧
    String.ofList x.spelled.alternateText = "[?@s]()" :=
  ⟨⟨⟨['?'], ⟨['s'], none, List.all_eq_true.mp rfl, by simp⟩, by simp, List.all_eq_true.mp rfl⟩,
    none⟩, rfl, rfl, by decide +kernel⟩

end TermRef
