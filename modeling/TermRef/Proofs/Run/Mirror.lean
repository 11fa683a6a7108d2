/-
TermRef/Proofs/Run/Mirror.lean

Which files are converted to one and the same path.

A file in the input root is converted to the path below the output directory that leads to the
file from that root; a file outside keeps all of its parts (`Path.nameFrom`).

Two files in the input root have different output paths, and so have two files outside, unless one
of them is written with two slashes at its start and the other with one.  The two ways meet where
a file in the input root is called from there what another one is called from the root of all
files (`outputPath_eq_iff`).  Then the conversion of the one is lost to that of the other
(`shadowed_conversion_is_lost`).
-/
import TermRef.Proofs.Run.Order

namespace TermRef

namespace Path

variable {base p q : Path} {rest rest' : List String}

/-! ### Inside and outside -/

/-- The path does not lie below the first one. -/
def Outside (base p : Path) : Prop := ∀ rest, p ≠ base.below rest

theorem partsFrom?_eq_some : partsFrom? base p = some rest ↔ p = base.below rest := by
  rw [partsFrom?]
  constructor
  · intro h
    split at h
    · rename_i hpre
      obtain rfl : p.parts.drop base.parts.length = rest := by injection h
      have hparts := List.prefix_iff_eq_append.mp (List.isPrefixOf_iff_prefix.mp hpre.2)
      rw [below, hparts, ← hpre.1]
    · cases h
  · rintro rfl
    rw [if_pos ⟨rfl, List.isPrefixOf_iff_prefix.mpr (List.prefix_append _ _)⟩, below,
      List.drop_left]

theorem partsFrom?_eq_none : partsFrom? base p = none ↔ base.Outside p := by
  rw [Option.eq_none_iff_forall_ne_some]
  exact forall_congr' fun rest => partsFrom?_eq_some.not

theorem below_left_inj : base.below rest = base.below rest' ↔ rest = rest' := by
  simp [below]

/-- A path lies below the first one or outside. -/
theorem below_or_outside (base p : Path) : (∃ rest, p = base.below rest) ∨ base.Outside p := by
  by_cases h : ∃ rest, p = base.below rest
  · exact .inl h
  · exact .inr (not_exists.mp h)

/-! ### Names of paths -/

/-- What a path is called from the first one, or from the root of all files if it does not lie
below. -/
def nameFrom (base p : Path) : List String := (partsFrom? base p).getD p.parts

theorem nameFrom_below (base : Path) (rest : List String) :
    base.nameFrom (base.below rest) = rest := by
  rw [nameFrom, partsFrom?_eq_some.mpr rfl, Option.getD_some]

theorem Outside.nameFrom_eq (h : base.Outside p) : base.nameFrom p = p.parts := by
  rw [nameFrom, partsFrom?_eq_none.mpr h, Option.getD_none]

theorem not_outside_below (base : Path) (rest : List String) : ¬ base.Outside (base.below rest) :=
  fun h => h rest rfl

/-- **Two paths are called the same in three cases only**: they are one path; they lie outside and
differ in their anchors; or one lies outside, and the other below as the first does below the root
of all files. -/
theorem nameFrom_eq_nameFrom : base.nameFrom p = base.nameFrom q ↔
    p = q ∨ (base.Outside p ∧ base.Outside q ∧ p.parts = q.parts) ∨
      (base.Outside q ∧ p = base.below q.parts) ∨ (base.Outside p ∧ q = base.below p.parts) := by
  rcases below_or_outside base p with ⟨rest, rfl⟩ | hp
  · have hin := not_outside_below base rest
    rw [nameFrom_below]
    rcases below_or_outside base q with ⟨rest', rfl⟩ | hq
    · simp [nameFrom_below, below_left_inj, hin, not_outside_below base rest']
    · have hne : base.below rest ≠ q := (hq rest).symm
      simp [hq.nameFrom_eq, below_left_inj, hin, hne, hq]
  · rw [hp.nameFrom_eq]
    rcases below_or_outside base q with ⟨rest', rfl⟩ | hq
    · have hin := not_outside_below base rest'
      simp [nameFrom_below, below_left_inj, hin, hp rest', hp, eq_comm]
    · have hne : p ≠ base.below q.parts := hp q.parts
      have hne' : q ≠ base.below p.parts := hq p.parts
      rw [hq.nameFrom_eq]
      simp only [hp, hq, hne, hne', true_and, and_false, or_false]
      exact ⟨.inr, fun h => h.elim (congrArg parts) id⟩

end Path

namespace Run

/-! ### Output paths -/

/-- **Two files share an output path in three cases only**: they are one file; they lie outside the
input root and differ in the slashes at their start; or one of them lies outside, and the other
leads from the input root where the first leads from the root of all files. -/
theorem outputPath_eq_iff (r : Run) (p q : Path) :
    let root := r.inputRoot.absolute r.files.here
    let a := p.absolute r.files.here
    let b := q.absolute r.files.here
    r.outputPath p = r.outputPath q ↔
      a = b ∨ (root.Outside a ∧ root.Outside b ∧ a.parts = b.parts) ∨
        (root.Outside b ∧ a = root.below b.parts) ∨ (root.Outside a ∧ b = root.below a.parts) :=
  Path.below_left_inj.trans Path.nameFrom_eq_nameFrom

/-- A run in which a file of the input root is called from there what another one is called from
the root of all files. -/
def shadowing : Run where
  resolver := .plain
  output := .ofText "/out"
  inputRoot := .ofText "/docs"
  glossary := .plain
  files :=
    { here := []
      items := [
        (["docs"], .directory),
        (["docs", "a"], .file (Utf8.encode "[a](@)".toList)),
        (["a"], .file (Utf8.encode "[a](@) [b](@)".toList))] }

/-- Both files are converted, and the output directory holds the conversion of the second one
only. -/
theorem shadowed_conversion_is_lost :
    let p := Path.ofText "/docs/a"
    let q := Path.ofText "/a"
    p.absolute shadowing.files.here ≠ q.absolute shadowing.files.here ∧
      shadowing.outputPath p = shadowing.outputPath q ∧
      (processAll [p, q] 0 shadowing).1 = .ok 2 ∧
      (processAll [p, q] 0 shadowing).2.files.itemsFrom ["out"] =
        (shadowing.processFile q).2.files.itemsFrom ["out"] := by
  decide +kernel

end Run

end TermRef
