/-
TermRef/Proofs/Glossary/Expansion.lean

The further forms of a term, exactly.

`Expansion` says without an algorithm what the phrases of a text are.  The text is cut at its
commas, and what is written between them is trimmed and left out if nothing remains (`Written`).
Behind the phrases that are written come those that they stand for, each by its leftmost mark
(`Leftmost`), and whatever holds a token is left out, be it a mark or not (`Tokened`).  What
remains stands in the order in which it is first met.  All this leaves one list only
(`Expansion.unique`), and it is the one that is computed (`exists_expansion_iff`).

The leftmost mark is looked for among the marks of all families at once.  It is then also the
first place of that mark alone, so replacing the first occurrence of the mark hits the same place
(`Leftmost.replace`).  Which mark is leftmost is not in doubt, since no mark begins with another
(`mark_unique`).

An ending has neither blanks at its ends nor a comma, and it is not empty.  So what replaces a mark
at the end of a trimmed text leaves the text trimmed (`isTrimmed_replaced`).  The phrases can
therefore be joined with commas and read again, and they come back as they were
(`ofText_intercalate_ofText`).
-/
import TermRef.Proofs.Glossary.Phrases
import TermRef.Proofs.Text.Pieces
import Mathlib.Data.List.Forall2
import Mathlib.Data.List.Induction

namespace TermRef

/-! ### Trimmed text -/

namespace Unicode

/-- A text has no blanks at its ends. -/
structure IsTrimmed (s : List Char) : Prop where
  head : ∀ c ∈ s.head?, isBlank c = false
  last : ∀ c ∈ s.getLast?, isBlank c = false

/-- `w` is what remains of `s` without the blanks at its ends. -/
def Trims (s w : List Char) : Prop :=
  ∃ l r, s = l ++ w ++ r ∧ (∀ c ∈ l ++ r, isBlank c = true) ∧ IsTrimmed w

theorem isTrimmed_of_forall {s : List Char} (h : ∀ c ∈ s, isBlank c = false) : IsTrimmed s :=
  ⟨fun c hc => h c (List.mem_of_head? hc), fun c hc => h c (List.mem_of_getLast? hc)⟩

/-- What replaces a part of a trimmed text leaves it trimmed if it is trimmed itself. -/
theorem isTrimmed_replaced {a m e b : List Char} (h : IsTrimmed (a ++ m ++ b)) (he : IsTrimmed e)
    (hne : e ≠ []) : IsTrimmed (a ++ e ++ b) := by
  constructor
  · intro c hc
    rcases a with - | ⟨d, a⟩
    · rw [List.nil_append, List.head?_append_of_ne_nil _ hne] at hc
      exact he.head c hc
    · exact h.head c hc
  · intro c hc
    rcases hlast : b.getLast? with - | d
    · rw [List.getLast?_eq_none_iff.mp hlast, List.append_nil,
        List.getLast?_append_of_ne_nil _ hne] at hc
      exact he.last c hc
    · have hd : ∀ r : List Char, (r ++ b).getLast? = some d := fun r => by
        rw [List.getLast?_append, hlast, Option.some_or]
      refine h.last c ?_
      rw [hd, Option.mem_def] at hc ⊢
      exact hc

theorem trims_strip (s : List Char) : Trims s (strip s) := by
  obtain ⟨l, hl, hlblank, hhead⟩ := exists_stripLeft s
  obtain ⟨r, hr, hrblank, hlast⟩ := exists_stripRight (stripLeft s)
  refine ⟨l, r, ?_, fun c hc => ?_, fun c hc => ?_, hlast⟩
  · rw [List.append_assoc, strip, ← hr]
    exact hl
  · exact (List.mem_append.mp hc).elim (hlblank c) (hrblank c)
  · refine hhead c ?_
    rw [strip, Option.mem_def] at hc
    rw [hr, List.head?_append, hc]
    rfl

/-- Nothing else remains. -/
theorem Trims.eq_strip {s w : List Char} (h : Trims s w) : w = strip s := by
  obtain ⟨l, r, rfl, hblank, hw⟩ := h
  have hl : ∀ c ∈ l, isBlank c = true := fun c hc => hblank c (List.mem_append_left _ hc)
  have hr : ∀ c ∈ r, isBlank c = true := fun c hc => hblank c (List.mem_append_right _ hc)
  rw [strip, stripLeft, List.append_assoc, List.dropWhile_append_of_pos hl]
  rcases w with - | ⟨c, w⟩
  · rw [List.nil_append, List.dropWhile_eq_nil_iff.mpr hr]
    rfl
  -- the first character of what remains stops the trimming on the left, the last one on the right
  · have hc : isBlank c = false := hw.head c rfl
    rw [List.cons_append, List.dropWhile_cons_of_neg (by simp [hc]), ← List.cons_append, stripRight,
      List.reverse_append, List.dropWhile_append_of_pos fun d hd => hr d (List.mem_reverse.mp hd)]
    rcases hrev : (c :: w).reverse with - | ⟨d, v⟩
    · simp at hrev
    · have hd : isBlank d = false :=
        hw.last d (by rw [← List.head?_reverse, hrev]; rfl)
      rw [List.dropWhile_cons_of_neg (by simp [hd]), ← hrev, List.reverse_reverse]

end Unicode

namespace Phrases

open Unicode

/-! ### Tokens -/

/-- A text holds a token: an opening brace, text without a brace, and a closing brace. -/
def Tokened (s : List Char) : Prop :=
  ∃ a w b, s = a ++ '\x7b' :: (w ++ '\x7d' :: b) ∧ '\x7b' ∉ w ∧ '\x7d' ∉ w

theorem closesNext_iff {s : List Char} :
    closesNext s = true ↔ ∃ w b, s = w ++ '\x7d' :: b ∧ '\x7b' ∉ w ∧ '\x7d' ∉ w := by
  constructor
  · intro h
    fun_induction closesNext s with
    | case1 => cases h
    | case2 r => exact ⟨[], r, rfl, by simp⟩
    | case3 => cases h
    | case4 c r hclose hopen ih =>
      obtain ⟨w, b, rfl, hw⟩ := ih h
      exact ⟨c :: w, b, rfl, by simpa [eq_comm] using ⟨⟨hopen, hw.1⟩, hclose, hw.2⟩⟩
  · rintro ⟨w, b, rfl, hw, -⟩
    exact closesNext_of_mem hw

theorem hasMark_iff {s : List Char} : hasMark s = true ↔ Tokened s := by
  constructor
  · intro h
    induction s with
    | nil => cases h
    | cons c s ih =>
      rw [hasMark, Bool.or_eq_true, Bool.and_eq_true, beq_iff_eq] at h
      rcases h with ⟨rfl, h⟩ | h
      · obtain ⟨w, b, rfl, hw⟩ := closesNext_iff.mp h
        exact ⟨[], w, b, rfl, hw⟩
      · obtain ⟨a, w, b, rfl, hw⟩ := ih h
        exact ⟨c :: a, w, b, rfl, hw⟩
  · rintro ⟨a, w, b, rfl, hw, -⟩
    exact hasMark_append hw

/-! ### The leftmost mark -/

/-- `s` is `a`, the mark of the family `f`, and `b`; and no mark of any family begins further to
the left. -/
structure Leftmost (s a : List Char) (f : Family) (b : List Char) : Prop where
  family : f ∈ families
  eq : s = a ++ f.mark ++ b
  least : ∀ a' f' b', f' ∈ families → s = a' ++ f'.mark ++ b' → a.length ≤ a'.length

variable {s a b : List Char} {f : Family}

theorem familyAt?_eq_none : familyAt? s = none ↔ ∀ f ∈ families, ¬ f.mark <+: s := by
  simp [familyAt?, after?, List.findSome?_eq_none_iff]

theorem leftmost?_eq_none (h : leftmost? s = none) : ¬ Marked s := by
  rintro ⟨f, hf, a, b, rfl⟩
  induction a with
  | nil =>
    obtain ⟨w, hmark, -⟩ := mark_eq f hf
    have hat : familyAt? (f.mark ++ b) ≠ none := fun hnone =>
      familyAt?_eq_none.mp hnone f hf ⟨b, rfl⟩
    rw [hmark] at h hat
    rw [List.nil_append, List.cons_append, List.cons_append, leftmost?] at h
    split at h
    · cases h
    · contradiction
  | cons c a ih =>
    rw [List.cons_append, List.cons_append, leftmost?] at h
    split at h
    · cases h
    · exact ih (Option.map_eq_none_iff.mp h)

/-- What is found is the leftmost mark. -/
theorem leftmost_of_leftmost? (h : leftmost? s = some (a, f, b)) : Leftmost s a f b := by
  obtain ⟨hf, heq⟩ := leftmost?_eq_some h
  refine ⟨hf, heq, fun a' f' b' hf' heq' => ?_⟩
  clear heq hf
  induction s generalizing a a' with
  | nil => cases h
  | cons c r ih =>
    rw [leftmost?] at h
    split at h
    · simp only [Option.some.injEq, Prod.mk.injEq] at h
      rw [← h.1]
      exact Nat.zero_le _
    · rename_i hat
      obtain ⟨⟨a₀, f₀, b₀⟩, hrest, hfound⟩ := Option.map_eq_some_iff.mp h
      obtain ⟨rfl, rfl, rfl⟩ : c :: a₀ = a ∧ f₀ = f ∧ b₀ = b := by simpa using hfound
      -- at the front there is no mark, so the other one is in the rest as well
      rcases a' with - | ⟨c', a'⟩
      · exact absurd ⟨b', heq'.symm⟩ (familyAt?_eq_none.mp hat f' hf')
      · exact Nat.succ_le_succ (ih hrest a' (List.cons.inj heq').2)

/-- No mark begins with another one. -/
theorem mark_unique {f f' : Family} (hf : f ∈ families) (hf' : f' ∈ families) {b b' : List Char}
    (h : f.mark ++ b = f'.mark ++ b') : f = f' := by
  have hall : ∀ f ∈ families, ∀ f' ∈ families, f.mark <+: f'.mark →
      f.mark = f'.mark ∧ f.endings = f'.endings := by decide
  have hext : ∀ {f f' : Family}, f.mark = f'.mark ∧ f.endings = f'.endings → f = f' := by
    rintro ⟨mark, endings⟩ ⟨mark', endings'⟩ ⟨rfl, rfl⟩
    rfl
  rcases List.prefix_or_prefix_of_prefix ⟨b, h⟩ ⟨b', rfl⟩ with hpre | hpre
  · exact hext (hall f hf f' hf' hpre)
  · exact (hext (hall f' hf' f hf hpre)).symm

/-- **The leftmost mark is found.** -/
theorem leftmost?_eq_some_iff : leftmost? s = some (a, f, b) ↔ Leftmost s a f b := by
  refine ⟨leftmost_of_leftmost?, fun h => ?_⟩
  rcases hfound : leftmost? s with - | ⟨a', f', b'⟩
  · exact absurd ⟨f, h.family, a, b, h.eq.symm⟩ (leftmost?_eq_none hfound)
  · have h' := leftmost_of_leftmost? hfound
    -- neither begins before the other, so both split the text at one place
    have hlength : a.length = a'.length :=
      Nat.le_antisymm (h.least a' f' b' h'.family h'.eq) (h'.least a f b h.family h.eq)
    have heq := h.eq.symm.trans h'.eq
    rw [List.append_assoc, List.append_assoc] at heq
    obtain ⟨rfl, hrest⟩ := List.append_inj heq hlength
    obtain rfl := mark_unique h.family h'.family hrest
    rw [List.append_cancel_left hrest]

/-- The leftmost mark is the first occurrence of its text, and that is what replacing one
occurrence replaces. -/
theorem Leftmost.replace (h : Leftmost s a f b) (e : List Char) :
    Pieces.replace f.mark e (some 1) s = a ++ e ++ b := by
  obtain ⟨w, hmark, -⟩ := mark_eq f h.family
  have hne : f.mark ≠ [] := by simp [hmark]
  rw [h.eq]
  exact Pieces.replace_first hne (fun a' b' heq => h.least a' f b' h.family (h.eq.trans heq)) e

/-! ### Phrases that a phrase stands for -/

/-- `p` is `w` with the leftmost of its marks replaced by an ending of the family. -/
def Inflects (w p : List Char) : Prop :=
  ∃ a f b, Leftmost w a f b ∧ ∃ e ∈ f.endings, p = a ++ e ++ b

/-- The phrases that a phrase stands for, in the order of the endings. -/
inductive Inflections : List Char → List (List Char) → Prop
  | marked {w a f b} : Leftmost w a f b → Inflections w (f.endings.map fun e => a ++ e ++ b)
  | plain {w} : ¬ Marked w → Inflections w []

theorem inflections_inflected (w : List Char) : Inflections w (inflected w) := by
  rw [inflected]
  split
  · rename_i a f b h
    exact .marked (leftmost?_eq_some_iff.mp h)
  · rename_i h
    exact .plain (leftmost?_eq_none h)

theorem Inflections.eq_inflected {w : List Char} {block : List (List Char)}
    (h : Inflections w block) : block = inflected w := by
  rw [inflected]
  cases h with
  | marked hleft => rw [leftmost?_eq_some_iff.mpr hleft]
  | plain hnone =>
    split
    · rename_i a f b hfound
      exact absurd ⟨f, (leftmost?_eq_some hfound).1, a, b, (leftmost?_eq_some hfound).2.symm⟩ hnone
    · rfl

theorem mem_inflected_iff {w p : List Char} : p ∈ inflected w ↔ Inflects w p := by
  simp only [mem_inflected, leftmost?_eq_some_iff, Inflects]

/-! ### First occurrences -/

theorem distinct_concat (ps : List (List Char)) (p : List Char) :
    distinct (ps ++ [p]) = if p ∈ ps then distinct ps else distinct ps ++ [p] := by
  rw [distinct, List.foldl_append, ← distinct, List.foldl_cons, List.foldl_nil]
  simp only [List.contains_iff_mem, mem_distinct]

/-- What remains of a list without repetitions stands in the order of first occurrences. -/
theorem pairwise_distinct_filter (q : List Char → Bool) (ps : List (List Char)) :
    (distinct (ps.filter q)).Pairwise fun p p' => ps.idxOf p < ps.idxOf p' := by
  -- from the end, because what is met again is left out for what stands before it
  induction ps using List.reverseRecOn with
  | nil => exact .nil
  | append_singleton ps p ih =>
    have hmem : ∀ r ∈ distinct (ps.filter q), r ∈ ps := fun r hr =>
      (List.mem_filter.mp (mem_distinct.mp hr)).1
    have hold : (distinct (ps.filter q)).Pairwise fun r r' =>
        (ps ++ [p]).idxOf r < (ps ++ [p]).idxOf r' := by
      refine ih.imp_of_mem fun {r r'} hr hr' hlt => ?_
      rwa [List.idxOf_append_of_mem (hmem r hr), List.idxOf_append_of_mem (hmem r' hr')]
    rw [List.filter_append, List.filter_singleton]
    cases hq : q p with
    | false => simpa using hold
    | true =>
      dsimp only [cond_true]
      rw [distinct_concat]
      split
      · exact hold
      · rename_i hnew
        have hp : p ∉ ps := fun h => hnew (List.mem_filter.mpr ⟨h, hq⟩)
        -- what is met first stands behind all that has been met
        refine List.pairwise_append.mpr ⟨hold, List.pairwise_singleton _ _, fun r hr r' hr' => ?_⟩
        obtain rfl := List.mem_singleton.mp hr'
        rw [List.idxOf_append_of_mem (hmem r hr), List.idxOf_append_of_notMem hp]
        exact Nat.lt_add_right _ (List.idxOf_lt_length_of_mem (hmem r hr))

/-! ### Phrases of a text -/

/-- `ws` is what stands between the commas of a text, trimmed, but for what is then empty. -/
def Written (s : List Char) (ws : List (List Char)) : Prop :=
  ∃ pieces trimmed, Pieces.join [','] pieces = s ∧ (∀ w ∈ pieces, ',' ∉ w) ∧
    List.Forall₂ Trims pieces trimmed ∧ ws = trimmed.filter fun w => !w.isEmpty

theorem written_parts (s : List Char) : Written s (parts s) := by
  refine ⟨Pieces.cut ',' s, (Pieces.cut ',' s).map strip, Pieces.join_cut ',' s,
    fun w => Pieces.not_mem_of_mem_cut, ?_, rfl⟩
  exact List.forall₂_map_right_iff.mpr (List.forall₂_same.mpr fun w _ => trims_strip w)

theorem Written.eq_parts {ws : List (List Char)} (h : Written s ws) : ws = parts s := by
  obtain ⟨pieces, trimmed, rfl, hcomma, htrims, rfl⟩ := h
  obtain rfl : trimmed = pieces.map strip := by
    induction htrims with
    | nil => rfl
    | cons htrim _ ih =>
      rw [List.map_cons, htrim.eq_strip, ih fun w hw => hcomma w (List.mem_cons_of_mem _ hw)]
  rcases eq_or_ne pieces [] with rfl | hne
  · rfl
  · rw [parts, Pieces.cut_join hne hcomma]

/-- A text can stand as a phrase: it is not empty, has no comma and is trimmed. -/
structure IsPhrase (p : List Char) : Prop where
  ne_nil : p ≠ []
  comma : ',' ∉ p
  trimmed : IsTrimmed p

theorem isPhrase_of_mem_parts {w : List Char} (h : w ∈ parts s) : IsPhrase w := by
  obtain ⟨hmem, hne⟩ := List.mem_filter.mp h
  obtain ⟨v, hv, rfl⟩ := List.mem_map.mp hmem
  obtain ⟨l, r, heq, -, htrimmed⟩ := trims_strip v
  refine ⟨by simpa using hne, fun hc => Pieces.not_mem_of_mem_cut hv ?_, htrimmed⟩
  rw [heq]
  exact List.mem_append_left _ (List.mem_append_right _ hc)

theorem isPhrase_of_mem_endings : ∀ f ∈ families, ∀ e ∈ f.endings, IsPhrase e := by
  have hall : ∀ f ∈ families, ∀ e ∈ f.endings,
      (!e.isEmpty && e.all fun c => c != ',' && !isBlank c) = true := by decide
  intro f hf e he
  have hending := hall f hf e he
  simp only [Bool.and_eq_true, Bool.not_eq_true', List.isEmpty_eq_false_iff, List.all_eq_true,
    bne_iff_ne] at hending
  exact ⟨hending.1, fun hc => (hending.2 _ hc).1 rfl,
    isTrimmed_of_forall fun c hc => (hending.2 c hc).2⟩

/-- What a phrase stands for can stand as a phrase. -/
theorem Inflects.isPhrase {w p : List Char} (h : Inflects w p) (hw : IsPhrase w) : IsPhrase p := by
  obtain ⟨a, f, b, hleft, e, he, rfl⟩ := h
  obtain ⟨hne, hcomma, htrimmed⟩ := isPhrase_of_mem_endings f hleft.family e he
  have hcommaw := hw.comma
  have htrimmedw := hw.trimmed
  rw [hleft.eq] at hcommaw htrimmedw
  refine ⟨by simp [hne], ?_, isTrimmed_replaced htrimmedw htrimmed hne⟩
  simp only [List.mem_append, not_or] at hcommaw ⊢
  exact ⟨⟨hcommaw.1.1, hcomma⟩, hcommaw.2⟩

/-- `ps` are the phrases of the text `s`, of which `written` is written and stands for `blocks`. -/
structure Expansion (s : String) (written : List (List Char)) (blocks : List (List (List Char)))
    (ps : List String) : Prop where
  writes : Written s.toList written
  stands : List.Forall₂ Inflections written blocks
  /-- A phrase holds no token and is written, or something written stands for it. -/
  mem : ∀ p, p ∈ ps ↔
    ¬ Tokened p.toList ∧ (p.toList ∈ written ∨ ∃ w ∈ written, Inflects w p.toList)
  nodup : ps.Nodup
  /-- What is written comes first, and either kind stands as it is first met. -/
  order : ps.Pairwise fun p p' =>
    (written ++ blocks.flatten).idxOf p.toList < (written ++ blocks.flatten).idxOf p'.toList
  /-- To replace the first occurrence of the leftmost mark's text is to replace that mark. -/
  replaced : ∀ w ∈ written, ∀ a f b, Leftmost w a f b → ∀ e ∈ f.endings,
    Pieces.replace f.mark e (some 1) w = a ++ e ++ b
  isPhrase : ∀ p ∈ ps, IsPhrase p.toList

theorem mem_ofText {s p : String} : p ∈ ofText s ↔ ¬ Tokened p.toList ∧
    (p.toList ∈ parts s.toList ∨ ∃ w ∈ parts s.toList, Inflects w p.toList) := by
  have hof : p ∈ ofText s ↔ p.toList ∈ ofChars s.toList := by
    rw [ofText, List.mem_map]
    exact ⟨fun ⟨q, hq, hp⟩ => by rwa [← hp, String.toList_ofList],
      fun h => ⟨p.toList, h, String.ofList_toList⟩⟩
  rw [hof, ofChars, mem_distinct, List.mem_filter, List.mem_append, List.mem_flatMap, and_comm,
    ← hasMark_iff, Bool.not_eq_true', Bool.not_eq_true]
  simp only [mem_inflected_iff]

theorem expansion_ofText (s : String) :
    Expansion s (parts s.toList) ((parts s.toList).map inflected) (ofText s) := by
  have horder : (ofText s).Pairwise fun p p' =>
      (parts s.toList ++ ((parts s.toList).map inflected).flatten).idxOf p.toList <
        (parts s.toList ++ ((parts s.toList).map inflected).flatten).idxOf p'.toList := by
    rw [ofText, List.pairwise_map, ← List.flatMap_def]
    simpa only [String.toList_ofList, ofChars] using
      pairwise_distinct_filter (fun p => !hasMark p) _
  exact {
    writes := written_parts s.toList
    stands := List.forall₂_map_right_iff.mpr <|
      List.forall₂_same.mpr fun w _ => inflections_inflected w
    mem := fun p => mem_ofText
    nodup := horder.imp fun {p p'} hlt (heq : p = p') => by
      subst heq
      exact Nat.lt_irrefl _ hlt
    order := horder
    replaced := fun w _ a f b hleft e _ => hleft.replace e
    isPhrase := fun p hp => by
      rcases (mem_ofText.mp hp).2 with hw | ⟨w, hw, hp⟩
      · exact isPhrase_of_mem_parts hw
      · exact hp.isPhrase (isPhrase_of_mem_parts hw) }

/-- What is written settles the phrases and their order. -/
theorem Expansion.unique {s : String} {written : List (List Char)}
    {blocks : List (List (List Char))} {ps ps' : List String} (h : Expansion s written blocks ps)
    (h' : Expansion s written blocks ps') : ps = ps' := by
  have hperm : ps.Perm ps' := (List.perm_ext_iff_of_nodup h.nodup h'.nodup).mpr fun p =>
    (h.mem p).trans (h'.mem p).symm
  exact hperm.eq_of_pairwise (fun p p' _ _ hlt hlt' => absurd hlt' (Nat.lt_asymm hlt)) h.order
    h'.order

/-- **The phrases of a text, exactly**: these and no others, in this order. -/
theorem exists_expansion_iff (s : String) (ps : List String) :
    (∃ written blocks, Expansion s written blocks ps) ↔ ps = ofText s := by
  constructor
  · rintro ⟨written, blocks, h⟩
    obtain rfl := h.writes.eq_parts
    obtain rfl : blocks = (parts s.toList).map inflected := by
      have hblocks := h.stands.imp fun _ _ hb => hb.eq_inflected.symm
      rw [← List.forall₂_map_left_iff, List.forall₂_eq_eq_eq] at hblocks
      exact hblocks.symm
    exact h.unique (expansion_ofText s)
  · rintro rfl
    exact ⟨_, _, expansion_ofText s⟩

/-- A phrase whose mark is left over, and one that is met again, are left out. -/
example : ofText "gateway\x7bss\x7d, gate-way, gate-way, a\x7bss\x7d\x7byies\x7d, \x7bx\x7d" =
    ["gate-way", "gateways"] := by decide

/-! ### Phrases joined again -/

/-- Nothing is left to do for a list of phrases: each can stand as one and holds no token, and
none is met twice. -/
structure IsNormal (ps : List String) : Prop where
  isPhrase : ∀ p ∈ ps, IsPhrase p.toList
  untokened : ∀ p ∈ ps, ¬ Tokened p.toList
  nodup : ps.Nodup

theorem isNormal_ofText (s : String) : IsNormal (ofText s) where
  isPhrase := (expansion_ofText s).isPhrase
  untokened := fun _ hp => (mem_ofText.mp hp).1
  nodup := (expansion_ofText s).nodup

/-- Phrases are found again between the commas. -/
theorem parts_join {ws : List (List Char)} (h : ∀ w ∈ ws, IsPhrase w) :
    parts (Pieces.join [','] ws) = ws := by
  have htrims : List.Forall₂ Trims ws ws := List.forall₂_same.mpr fun w hw =>
    ⟨[], [], by simp, by simp, (h w hw).trimmed⟩
  have hkept : ws = ws.filter fun w => !w.isEmpty := (List.filter_eq_self.mpr fun w hw => by
    simpa using (h w hw).ne_nil).symm
  exact (Written.eq_parts ⟨ws, ws, rfl, fun w hw => (h w hw).comma, htrims, hkept⟩).symm

/-- A phrase without a token stands for no other. -/
theorem inflected_eq_nil {w : List Char} (h : ¬ Tokened w) : inflected w = [] :=
  have hplain : ¬ Marked w := fun hmarked => h (hasMark_iff.mp (hasMark_of_marked hmarked))
  (Inflections.plain hplain).eq_inflected.symm

theorem distinct_eq_self {ps : List (List Char)} (h : ps.Nodup) : distinct ps = ps := by
  induction ps using List.reverseRecOn with
  | nil => rfl
  | append_singleton ps p ih =>
    obtain ⟨hps, -, hnew⟩ := List.nodup_append.mp h
    rw [distinct_concat, if_neg fun hp => hnew p hp p List.mem_cons_self rfl, ih hps]

/-- A list of phrases to which nothing is left to do is what its members make when joined. -/
theorem IsNormal.ofText_intercalate {ps : List String} (h : IsNormal ps) :
    ofText (",".intercalate ps) = ps := by
  have hparts : parts (",".intercalate ps).toList = ps.map String.toList := by
    rw [String.toList_intercalate]
    exact parts_join (List.forall_mem_map.mpr h.isPhrase)
  have hinflected : (ps.map String.toList).flatMap inflected = [] :=
    List.flatMap_eq_nil_iff.mpr (List.forall_mem_map.mpr fun p hp =>
      inflected_eq_nil (h.untokened p hp))
  have hkept : (ps.map String.toList).filter (fun w => !hasMark w) = ps.map String.toList :=
    List.filter_eq_self.mpr (List.forall_mem_map.mpr fun p hp => by
      rw [Bool.not_eq_true', ← Bool.not_eq_true, hasMark_iff]
      exact h.untokened p hp)
  have hnodup : (ps.map String.toList).Nodup :=
    List.pairwise_map.mpr (h.nodup.imp fun hne heq => hne (String.toList_inj.mp heq))
  rw [ofText, ofChars, hparts, hinflected, List.append_nil, hkept, distinct_eq_self hnodup,
    List.map_map]
  exact List.map_id'' (fun p => String.ofList_toList) ps

/-- **The phrases of a text are a normal form**: joined with commas they are the phrases of what
this makes, and the lists of which that holds are those to which nothing is left to do. -/
theorem ofText_intercalate_ofText (s : String) :
    ofText (",".intercalate (ofText s)) = ofText s ∧
      ∀ ps : List String, ofText (",".intercalate ps) = ps ↔ IsNormal ps := by
  refine ⟨(isNormal_ofText s).ofText_intercalate, fun ps => ⟨fun h => ?_, fun h => ?_⟩⟩
  · rw [← h]
    exact isNormal_ofText _
  · exact h.ofText_intercalate

end Phrases

end TermRef
