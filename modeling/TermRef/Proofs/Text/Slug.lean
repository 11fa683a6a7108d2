/-
TermRef/Proofs/Text/Slug.lean

Identifiers, and the texts that are their own identifiers.

What is derived from shown words is an identifier: it has characters of the alphabet only, and no
hyphen at its ends (`isSlug_ofChars`).  The words that are an identifier already are the ones that
nothing is done to (`ofChars_eq_self_iff`): none of their characters has another lower case, is
silent or stands outside the alphabet.
-/
import TermRef.Proofs.Reference.Parts

namespace TermRef.Slug

/-- The text is an identifier. -/
structure IsSlug (s : List Char) : Prop where
  alphabet : ∀ c ∈ s, isSlugChar c = true
  head : s.head? ≠ some '-'
  last : s.getLast? ≠ some '-'

instance (s : List Char) : Decidable (IsSlug s) :=
  decidable_of_iff (s.all isSlugChar = true ∧ s.head? ≠ some '-' ∧ s.getLast? ≠ some '-')
    ⟨fun h => ⟨List.all_eq_true.mp h.1, h.2.1, h.2.2⟩,
      fun h => ⟨List.all_eq_true.mpr h.alphabet, h.head, h.last⟩⟩

/-! ### The alphabet -/

theorem isSlugChar_toNat {c : Char} (h : isSlugChar c = true) : c.toNat < 123 := by
  rw [isSlugChar_eq_within] at h
  simp only [Pattern.within, Bool.or_eq_true, Bool.and_eq_true, decide_eq_true_eq,
    beq_iff_eq] at h
  rcases h with ((h | h) | rfl) | rfl
  · exact Nat.lt_succ_of_le h.2
  · exact Nat.lt_of_le_of_lt h.2 (by decide)
  · decide
  · decide

/-- A character of the alphabet is in lower case and leaves a trace. -/
theorem fold_of_isSlugChar {c : Char} (h : isSlugChar c = true) :
    Unicode.fold c = c ∧ isSilent c = false := by
  have hall : ∀ n < 123, isSlugChar (Char.ofNat n) = true →
      Unicode.fold (Char.ofNat n) = Char.ofNat n ∧ isSilent (Char.ofNat n) = false := by
    decide +kernel
  have hc := hall c.toNat (isSlugChar_toNat h)
  rw [Char.ofNat_toNat] at hc
  exact hc h

theorem lowerFrom_of_alphabet {s : List Char} (h : ∀ c ∈ s, isSlugChar c = true)
    (before : List Char) : Unicode.lowerFrom before s = s := by
  induction s generalizing before with
  | nil => rfl
  | cons c s ih =>
    obtain ⟨hc, hs⟩ := List.forall_mem_cons.mp h
    have hdotted : c ≠ 'İ' := by
      rintro rfl
      exact absurd (isSlugChar_toNat hc) (by decide)
    have hsigma : c ≠ 'Σ' := by
      rintro rfl
      exact absurd (isSlugChar_toNat hc) (by decide)
    rw [Unicode.lowerFrom, ih hs, Unicode.lowerAt, if_neg (by simpa using hdotted),
      if_neg (by simpa using hsigma), (fold_of_isSlugChar hc).1, List.singleton_append]

theorem hyphenate_of_alphabet {s : List Char} (h : ∀ c ∈ s, isSlugChar c = true) :
    hyphenate false s = s := by
  induction s with
  | nil => rfl
  | cons c s ih =>
    obtain ⟨hc, hs⟩ := List.forall_mem_cons.mp h
    rw [hyphenate, if_pos hc, ih hs]

theorem alphabet_hyphenate (run : Bool) (s : List Char) :
    ∀ c ∈ hyphenate run s, isSlugChar c = true := by
  fun_induction hyphenate run s with
  | case1 => simp
  | case2 run c r hc ih => exact List.forall_mem_cons.mpr ⟨hc, ih⟩
  | case3 c r hc ih => exact ih
  | case4 run c r hc hrun ih => exact List.forall_mem_cons.mpr ⟨rfl, ih⟩

/-! ### The ends -/

theorem head?_dropWhile_hyphen (s : List Char) :
    (s.dropWhile (· == '-')).head? ≠ some '-' := by
  intro h
  have hnot := List.head?_dropWhile_not (· == '-') s
  rw [h] at hnot
  cases hnot

theorem dropWhile_hyphen_eq_self {s : List Char} (h : s.head? ≠ some '-') :
    s.dropWhile (· == '-') = s := by
  cases s with
  | nil => rfl
  | cons c s =>
    have hc : c ≠ '-' := by simpa using h
    rw [List.dropWhile_cons_of_neg (by simpa using hc)]

/-- Without hyphens at its ends, a text stays as it is. -/
theorem trimHyphens_eq_self {s : List Char} (hhead : s.head? ≠ some '-')
    (hlast : s.getLast? ≠ some '-') : trimHyphens s = s := by
  have hrev : s.reverse.head? ≠ some '-' := by rwa [List.head?_reverse]
  rw [trimHyphens, dropWhile_hyphen_eq_self hhead, dropWhile_hyphen_eq_self hrev,
    List.reverse_reverse]

theorem isSlug_trimHyphens {s : List Char} (h : ∀ c ∈ s, isSlugChar c = true) :
    IsSlug (trimHyphens s) := by
  rw [trimHyphens]
  generalize hs : s.dropWhile (· == '-') = t
  have ht : t.head? ≠ some '-' := hs ▸ head?_dropWhile_hyphen s
  refine ⟨fun c hc => ?_, ?_, ?_⟩
  · have hmem : c ∈ t := by simpa using List.dropWhile_subset _ (List.mem_reverse.mp hc)
    exact h c (List.dropWhile_subset _ (hs ▸ hmem))
  · -- what is left of the text begins as it did, if anything is left
    obtain ⟨u, hu⟩ : (t.reverse.dropWhile (· == '-')).reverse <+: t := by
      rw [← List.reverse_suffix, List.reverse_reverse]
      exact List.dropWhile_suffix _
    rcases hd : (t.reverse.dropWhile (· == '-')).reverse with - | ⟨c, r⟩
    · simp
    · rw [hd] at hu
      rw [← hu] at ht
      simpa using ht
  · rw [List.getLast?_reverse]
    exact head?_dropWhile_hyphen _

/-! ### Identifiers -/

/-- **What is derived from shown words is an identifier.** -/
theorem isSlug_ofChars (s : List Char) : IsSlug (ofChars s) :=
  isSlug_trimHyphens (alphabet_hyphenate false _)

/-- **The words that are an identifier are those that it is derived from unchanged.** -/
theorem ofChars_eq_self_iff {s : List Char} : ofChars s = s ↔ IsSlug s := by
  constructor
  · intro h
    rw [← h]
    exact isSlug_ofChars s
  · intro h
    have hsilent : s.filter (fun c => !isSilent c) = s := by
      rw [List.filter_eq_self]
      intro c hc
      rw [(fold_of_isSlugChar (h.alphabet c hc)).2]
      rfl
    rw [ofChars, Unicode.lower, lowerFrom_of_alphabet h.alphabet, hsilent,
      hyphenate_of_alphabet h.alphabet, trimHyphens_eq_self h.head h.last]

theorem ofText_eq_self_iff {s : String} : ofText s = s ↔ IsSlug s.toList := by
  rw [← ofChars_eq_self_iff, ofText, ← String.toList_inj, String.toList_ofList]

end TermRef.Slug
