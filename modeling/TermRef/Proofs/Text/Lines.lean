/-
TermRef/Proofs/Text/Lines.lean

Line ends written as line feeds.

What holds no carriage return stays as it is (`unifyEnds_append`), and white space stays white
space (`exists_unifyEnds_blank`), though not part by part: a carriage return and a line feed that
meet where two parts are joined are one line end.
-/
import TermRef.Text.Lines

namespace TermRef.Lines

variable {a s w : List Char} {c : Char}

theorem unifyEnds_cons (h : c ≠ '\r') (s : List Char) : unifyEnds (c :: s) = c :: unifyEnds s := by
  rw [unifyEnds]
  · exact fun _ hc => absurd hc h
  · exact h

/-- A carriage return counts with the line feed behind it, or by itself. -/
theorem unifyEnds_return (s : List Char) :
    unifyEnds ('\r' :: s) = if s.head? = some '\n' then unifyEnds s else '\n' :: unifyEnds s := by
  rcases s with - | ⟨c, s⟩
  · rfl
  · by_cases hc : c = '\n'
    · subst hc
      have hfeed : unifyEnds ('\n' :: s) = '\n' :: unifyEnds s := unifyEnds_cons (by decide) s
      rw [List.head?_cons, if_pos rfl, hfeed, unifyEnds]
    · rw [if_neg (by simpa using hc), unifyEnds]
      rintro _ ⟨⟩
      exact hc rfl

theorem unifyEnds_append (h : '\r' ∉ a) (s : List Char) :
    unifyEnds (a ++ s) = a ++ unifyEnds s := by
  induction a with
  | nil => rfl
  | cons c a ih =>
    rw [List.mem_cons, not_or] at h
    rw [List.cons_append, unifyEnds_cons (Ne.symm h.1), ih h.2, List.cons_append]

/-- Spaces and line ends become spaces and line feeds. -/
theorem exists_unifyEnds_blank (h : ∀ c ∈ a, c ∈ [' ', '\n', '\r']) (s : List Char) :
    ∃ w, (∀ c ∈ w, c = ' ' ∨ c = '\n') ∧ unifyEnds (a ++ s) = w ++ unifyEnds s := by
  induction a with
  | nil => exact ⟨[], nofun, rfl⟩
  | cons c a ih =>
    obtain ⟨hc, ha⟩ := List.forall_mem_cons.mp h
    obtain ⟨w, hw, heq⟩ := ih ha
    by_cases hreturn : c = '\r'
    · subst hreturn
      rw [List.cons_append, unifyEnds_return, heq]
      split
      · exact ⟨w, hw, rfl⟩
      · exact ⟨'\n' :: w, List.forall_mem_cons.mpr ⟨.inr rfl, hw⟩, rfl⟩
    · refine ⟨c :: w, ?_, by rw [List.cons_append, unifyEnds_cons hreturn, heq, List.cons_append]⟩
      refine List.forall_mem_cons.mpr ⟨?_, hw⟩
      simpa [hreturn] using hc

theorem mem_unifyEnds (h : c ∈ unifyEnds s) : c ∈ s ∨ c = '\n' := by
  fun_induction unifyEnds s <;> grind

end TermRef.Lines
