/-
TermRef/Proofs/Glossary/Phrases.lean

What the further forms of a term can be.

A phrase comes from what is written between commas: it is what is written, or what is written
with the leftmost mark replaced by one of the endings of its family (`mem_ofChars`).  Whatever
that makes is looked through once more, and with an opening and the next closing brace in it a
phrase is not used.  Every mark has such braces (`hasMark_of_marked`), so no phrase holds a mark,
were it left over or put together by the replacement (`not_marked_of_mem_ofText`).

What is written is trimmed and not empty, and no ending is blank.  So no phrase is blank either
(`exists_not_blank_of_mem_ofText`).
-/
import TermRef.Glossary.Phrases
import Mathlib.Data.List.TakeWhile

namespace TermRef

/-! ### Text that is not blank -/

namespace Unicode

theorem isBlankText_eq_false {s : List Char} :
    isBlankText s = false ↔ ∃ c ∈ s, isBlank c = false := by
  simp [isBlankText]

/-- The characters that print in seven bits are not blank. -/
theorem isBlank_of_toNat {c : Char} (hlow : 33 ≤ c.toNat) (hhigh : c.toNat ≤ 126) :
    isBlank c = false := by
  simp only [isBlank, Ranges.mem, Ranges.has, blankRanges, List.any_cons, List.any_nil,
    Bool.or_false, Bool.or_eq_false_iff, Bool.and_eq_false_iff, decide_eq_false_iff_not]
  omega

theorem exists_stripLeft (s : List Char) : ∃ l, s = l ++ stripLeft s ∧
    (∀ c ∈ l, isBlank c = true) ∧ ∀ c ∈ (stripLeft s).head?, isBlank c = false := by
  refine ⟨s.takeWhile isBlank, List.takeWhile_append_dropWhile.symm, fun c hc => ?_,
    fun c hc => ?_⟩
  · exact List.mem_takeWhile_imp hc
  · have hhead := List.head?_dropWhile_not isBlank s
    rw [← stripLeft, Option.mem_def.mp hc] at hhead
    simpa using hhead

theorem exists_stripRight (s : List Char) : ∃ r, s = stripRight s ++ r ∧
    (∀ c ∈ r, isBlank c = true) ∧ ∀ c ∈ (stripRight s).getLast?, isBlank c = false := by
  obtain ⟨l, hl, hblank, hhead⟩ := exists_stripLeft s.reverse
  refine ⟨l.reverse, ?_, fun c hc => hblank c (List.mem_reverse.mp hc), fun c hc => ?_⟩
  · rw [stripRight, ← stripLeft, ← List.reverse_append, ← hl, List.reverse_reverse]
  · rw [stripRight, ← stripLeft, List.getLast?_reverse] at hc
    exact hhead c hc

/-- What trimming leaves ends in a character that is not blank. -/
theorem exists_not_blank_of_stripRight {s : List Char} (h : stripRight s ≠ []) :
    ∃ c ∈ stripRight s, isBlank c = false := by
  obtain ⟨r, -, -, hlast⟩ := exists_stripRight s
  exact ⟨(stripRight s).getLast h, List.getLast_mem h, hlast _ (List.getLast_mem_getLast? h)⟩

end Unicode

namespace Phrases

open Unicode

/-! ### Marks -/

/-- A text holds the mark of a family of endings. -/
def Marked (s : List Char) : Prop := ∃ f ∈ families, f.mark <:+: s

theorem closesNext_of_mem {w b : List Char} (hw : '\x7b' ∉ w) :
    closesNext (w ++ '\x7d' :: b) = true := by
  induction w with
  | nil => rfl
  | cons c w ih =>
    have hc : c ≠ '\x7b' := fun h => hw (h ▸ List.mem_cons_self)
    have hrest := ih fun h => hw (List.mem_cons_of_mem _ h)
    rw [List.cons_append, closesNext.eq_def]
    split
    · contradiction
    · rfl
    · rename_i heq
      exact absurd (List.cons.inj heq).1 hc
    · rename_i heq
      rw [← (List.cons.inj heq).2]
      exact hrest

/-- More text in front or behind takes no mark away. -/
theorem hasMark_append {a w b : List Char} (hw : '\x7b' ∉ w) :
    hasMark (a ++ '\x7b' :: (w ++ '\x7d' :: b)) = true := by
  induction a with
  | nil => simp [hasMark, closesNext_of_mem hw]
  | cons c a ih => simp [hasMark, ih]

/-- The marks of the families have braces around something without one. -/
theorem mark_eq : ∀ f ∈ families, ∃ w, f.mark = '\x7b' :: w ++ ['\x7d'] ∧ '\x7b' ∉ w := by
  intro f hf
  refine ⟨f.mark.tail.dropLast, ?_⟩
  revert f hf
  decide

/-- A text that holds a mark is seen to hold one. -/
theorem hasMark_of_marked {s : List Char} (h : Marked s) : hasMark s = true := by
  obtain ⟨f, hf, a, b, rfl⟩ := h
  obtain ⟨w, hmark, hw⟩ := mark_eq f hf
  have happend := hasMark_append (a := a) (b := b) hw
  rw [hmark]
  simpa using happend

/-! ### Where phrases come from -/

theorem mem_distinct {ps : List (List Char)} {p : List Char} : p ∈ distinct ps ↔ p ∈ ps := by
  -- what has been collected so far stands in front
  have from_ : ∀ acc : List (List Char),
      p ∈ ps.foldl (fun acc p => if acc.contains p then acc else acc ++ [p]) acc ↔
        p ∈ acc ∨ p ∈ ps := by
    induction ps with
    | nil => simp
    | cons q ps ih =>
      intro acc
      rw [List.foldl_cons, ih]
      by_cases hq : acc.contains q = true
      · rw [if_pos hq, List.mem_cons]
        have hmem : q ∈ acc := by simpa using hq
        exact ⟨fun h => h.imp_right .inr, fun h => h.elim .inl fun h =>
          h.elim (fun h => .inl (h ▸ hmem)) .inr⟩
      · rw [if_neg hq, List.mem_append, List.mem_singleton, List.mem_cons, or_assoc]
  rw [distinct, from_]
  simp

theorem leftmost?_eq_some {s a b : List Char} {f : Family} (h : leftmost? s = some (a, f, b)) :
    f ∈ families ∧ s = a ++ f.mark ++ b := by
  induction s generalizing a with
  | nil => cases h
  | cons c r ih =>
    rw [leftmost?] at h
    split at h
    · rename_i f' rest hat
      obtain ⟨rfl, rfl, rfl⟩ : [] = a ∧ f' = f ∧ rest = b := by simpa using h
      obtain ⟨g, hg, hafter⟩ := List.exists_of_findSome?_eq_some hat
      obtain ⟨r', hr', heq⟩ := Option.map_eq_some_iff.mp hafter
      obtain ⟨rfl, rfl⟩ := Prod.mk.inj heq
      rw [after?] at hr'
      split at hr'
      · rename_i hpre
        obtain rfl := Option.some.inj hr'
        obtain ⟨t, ht⟩ := List.isPrefixOf_iff_prefix.mp hpre
        refine ⟨hg, ?_⟩
        rw [← ht, List.drop_left, List.nil_append]
      · cases hr'
    · obtain ⟨⟨a', f', b'⟩, hrest, heq⟩ := Option.map_eq_some_iff.mp h
      obtain ⟨rfl, rfl, rfl⟩ : c :: a' = a ∧ f' = f ∧ b' = b := by simpa using heq
      obtain ⟨hf, hr⟩ := ih hrest
      exact ⟨hf, by rw [hr]; rfl⟩

theorem mem_inflected {w p : List Char} : p ∈ inflected w ↔
    ∃ a f b, leftmost? w = some (a, f, b) ∧ ∃ e ∈ f.endings, p = a ++ e ++ b := by
  rw [inflected]
  split
  · rename_i a f b hfound
    rw [List.mem_map]
    constructor
    · rintro ⟨e, he, rfl⟩
      exact ⟨a, f, b, hfound, e, he, rfl⟩
    · rintro ⟨a', f', b', hfound', e, he, rfl⟩
      obtain ⟨rfl, rfl, rfl⟩ : a = a' ∧ f = f' ∧ b = b' := by
        simpa [hfound] using hfound'
      exact ⟨e, he, rfl⟩
  · rename_i hnone
    simp [hnone]

/-- **A phrase is what is written between commas**, as it is or with one of its marks replaced
by an ending of the family, and no mark is seen in it. -/
theorem mem_ofChars {s p : List Char} (h : p ∈ ofChars s) : hasMark p = false ∧
    ∃ w ∈ parts s, p = w ∨
      ∃ f ∈ families, ∃ a b, ∃ e ∈ f.endings, w = a ++ f.mark ++ b ∧ p = a ++ e ++ b := by
  obtain ⟨hmem, hmark⟩ := List.mem_filter.mp (mem_distinct.mp h)
  refine ⟨by simpa using hmark, ?_⟩
  rcases List.mem_append.mp hmem with hw | hw
  · exact ⟨p, hw, .inl rfl⟩
  · obtain ⟨w, hw, hp⟩ := List.mem_flatMap.mp hw
    refine ⟨w, hw, .inr ?_⟩
    obtain ⟨a, f, b, hleft, e, he, rfl⟩ := mem_inflected.mp hp
    obtain ⟨hf, heq⟩ := leftmost?_eq_some hleft
    exact ⟨f, hf, a, b, e, he, heq, rfl⟩

/-! ### What phrases are not -/

variable {s p : String}

/-- **No phrase holds a mark.** -/
theorem not_marked_of_mem_ofText (h : p ∈ ofText s) : ¬ Marked p.toList := by
  obtain ⟨q, hq, rfl⟩ := List.mem_map.mp h
  rw [String.toList_ofList]
  intro hmarked
  have hnone := (mem_ofChars hq).1
  rw [hasMark_of_marked hmarked] at hnone
  cases hnone

/-- No ending is blank. -/
theorem exists_not_blank_of_ending :
    ∀ f ∈ families, ∀ e ∈ f.endings, ∃ c ∈ e, isBlank c = false := by
  have hany : ∀ f ∈ families, ∀ e ∈ f.endings, e.any (fun c => !isBlank c) = true := by decide
  intro f hf e he
  simpa using hany f hf e he

/-- **No phrase is blank.** -/
theorem exists_not_blank_of_mem_ofText (h : p ∈ ofText s) :
    ∃ c ∈ p.toList, isBlank c = false := by
  obtain ⟨q, hq, rfl⟩ := List.mem_map.mp h
  rw [String.toList_ofList]
  obtain ⟨-, w, hw, rfl | ⟨f, hf, a, b, e, he, -, rfl⟩⟩ := mem_ofChars hq
  · obtain ⟨hmem, hne⟩ := List.mem_filter.mp hw
    obtain ⟨v, -, rfl⟩ := List.mem_map.mp hmem
    exact exists_not_blank_of_stripRight (by simpa [strip] using hne)
  · obtain ⟨c, hc, hblank⟩ := exists_not_blank_of_ending f hf e he
    exact ⟨c, by simp [hc], hblank⟩

end Phrases

end TermRef
