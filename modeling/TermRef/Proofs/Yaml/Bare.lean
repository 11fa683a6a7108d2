/-
TermRef/Proofs/Yaml/Bare.lean

Versions without quotes.

The characters of a version mean nothing to the lexer (`isWordChar_of_isVersion`), so that it reads
a version as one word; only a lone hyphen is none.

What a plain scalar stands for is settled by its spelling.  Numbers and dates are texts there; of
the words for other things, those that could be versions are left out (`IsBare`), and so a bare
version is always a text (`plainTag_of_isBare`).
-/
import TermRef.Proofs.Reference.Mention
import TermRef.Proofs.Yaml.Fields
import TermRef.Proofs.Yaml.Word

namespace TermRef.Yaml

/-! ### Bare versions -/

/-- A version that can be written without quotes: neither a lone hyphen nor a word for something
else. -/
structure IsBare (t : String) : Prop where
  nonempty : t ≠ ""
  chars : ∀ c ∈ t.toList, isVersion c = true
  hyphen : t ≠ "-"
  word : t ∉ ["true", "false", "yes", "no", "on", "off", "null"]

instance (t : String) : Decidable (IsBare t) :=
  decidable_of_iff
    (t ≠ "" ∧ t.toList.all isVersion = true ∧ t ≠ "-" ∧
      t ∉ ["true", "false", "yes", "no", "on", "off", "null"])
    ⟨fun h => ⟨h.1, List.all_eq_true.mp h.2.1, h.2.2.1, h.2.2.2⟩,
      fun h => ⟨h.nonempty, List.all_eq_true.mpr h.chars, h.hyphen, h.word⟩⟩

variable {t : String} {c x : Char} {w tail : List Char}

theorem IsBare.toList_ne_nil (h : IsBare t) : t.toList ≠ [] := by
  simpa using h.nonempty

theorem IsBare.toList_ne_hyphen (h : IsBare t) : t.toList ≠ ['-'] := by
  intro hhyphen
  exact h.hyphen (String.toList_inj.mp hhyphen)

theorem ne_of_isVersion (h : isVersion c = true) (hx : isVersion x = false) : c ≠ x := by
  rintro rfl
  rw [h] at hx
  cases hx

theorem ne_of_mem_of_isVersion {xs : List Char} (h : isVersion c = true)
    (hxs : (xs.all fun x => !isVersion x) = true) : ∀ x ∈ xs, c ≠ x := by
  intro x hx
  have hno := List.all_eq_true.mp hxs x hx
  exact ne_of_isVersion h (by simpa using hno)

theorem toNat_of_isVersion (h : isVersion c = true) : 45 ≤ c.toNat ∧ c.toNat ≤ 122 := by
  have lower : c.isLower = (decide (c.val ≥ 'a'.val) && decide (c.val ≤ 'z'.val)) := rfl
  simp only [isVersion, Slug.isSlugChar, lower, Char.isDigit, Bool.or_eq_true,
    Bool.and_eq_true, decide_eq_true_eq, ge_iff_le, UInt32.le_iff_toNat_le, beq_iff_eq] at h
  rcases h with (((h | h) | rfl) | rfl) | rfl
  case inl.inl.inl.inl | inl.inl.inl.inr =>
    exact ⟨Nat.le_trans (by decide) h.1, Nat.le_trans h.2 (by decide)⟩
  all_goals decide

/-- **A bare version is a text by its spelling**, whatever number or date it looks like. -/
theorem plainTag_of_isBare (h : IsBare t) : plainTag t = standardTag "str" := by
  have hfeed : '\n' ∉ t.toList := fun hmem => absurd (h.chars _ hmem) (by decide)
  -- a word for something else is no version, or one of those that are left out
  have hother : ∀ v ∈ wordsForOthers, v = "" ∨
      v ∈ ["true", "false", "yes", "no", "on", "off", "null"] ∨
        v.toList.any (fun c => !isVersion c) = true := by decide
  refine plainTag_eq_text hfeed fun hmem => ?_
  rcases hother t hmem with hempty | hword | hchar
  · exact h.nonempty hempty
  · exact h.word hword
  · obtain ⟨c, hc, hno⟩ := List.any_eq_true.mp hchar
    rw [h.chars c hc] at hno
    cases hno

/-! ### Words -/

theorem isWordChar_of_isVersion (h : isVersion c = true) : isWordChar c = true := by
  by_cases hhyphen : c = '-'
  · rw [hhyphen]
    decide
  have hne : ∀ x ∈ "\t \x00\n\r\u0085\u2028\u2029?:,[]\x7b\x7d#&*!|>'\"%@\x60".toList, c ≠ x :=
    ne_of_mem_of_isVersion h (by decide)
  simp at hne
  simp [isWordChar, Lexer.isIndicator, isGap, isSpaceOrEnd, isBreakOrEnd, isBreak, endMark, hhyphen,
    hne]

theorem isBreak_of_isVersion (h : isVersion c = true) : isBreak c = false := by
  have hgap := isGap_of_isWordChar (isWordChar_of_isVersion h)
  simp only [isGap, isSpaceOrEnd, isBreakOrEnd, Bool.or_eq_false_iff] at hgap
  exact hgap.2.2.2

/-- Characters of versions are passed over within the line. -/
theorem skip_of_isVersion (hw : ∀ c ∈ w, isVersion c = true) (i l k : Nat) :
    Place.skip w.length ⟨w ++ tail, i, l, k⟩ = ⟨tail, i + w.length, l, k + w.length⟩ := by
  induction w generalizing i k with
  | nil => rfl
  | cons c w ih =>
    obtain ⟨hc, hw⟩ := List.forall_mem_cons.mp hw
    have hmark : c ≠ '\ufeff' := ne_of_isVersion hc (by decide)
    have hstep : Place.step ⟨c :: (w ++ tail), i, l, k⟩ = ⟨w ++ tail, i + 1, l, k + 1⟩ := by
      simp [Place.step, isBreak_of_isVersion hc, hmark]
    rw [List.length_cons, Place.skip, List.cons_append, hstep, ih hw, Nat.add_right_comm,
      Nat.add_right_comm k, Nat.add_assoc, Nat.add_assoc k]

theorem head?_of_isVersion (hw : ∀ c ∈ w, isVersion c = true) (hne : w ≠ []) (tail : List Char) :
    ∃ c r, w ++ tail = c :: r ∧ isVersion c = true := by
  obtain ⟨c, r, rfl⟩ := List.exists_cons_of_ne_nil hne
  exact ⟨c, r ++ tail, rfl, hw c List.mem_cons_self⟩

end TermRef.Yaml
