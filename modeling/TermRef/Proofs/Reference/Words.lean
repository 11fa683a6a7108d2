/-
TermRef/Proofs/Reference/Words.lean

The words of a head, and what follows them.

In both named grammars a head is an opening bracket, some words, and a rest that begins
with a mark which no word holds: `](id#trait@scope:version)` after the mark `]` in the
default grammar, `@scope:version]` after the mark `@` in the alternate one.  `Worded` says
this of a set of heads, and that the words stand for themselves only: with other words and
the same rest there is another head.

So a head with an inner bracket is a head from there on (`Worded.inner`), and more words
with a bracket after them can be put in front (`Worded.outer`); and a bracket with words
that end at the mark of another grammar begins no head (`Worded.quiet`).  A match that begins
within another has the rest of its head for its own (`Worded.split_of_inner`).
-/
import TermRef.Proofs.Reference.Bracketed

namespace TermRef

open Pattern Grammar

/-- Heads that consist of words and a rest behind a mark, and tails that open no bracket, square
or pointed, as the rest opens none. -/
structure Worded (mark : Char) (Head Tail : List Char → Prop) : Prop where
  ends : isShown mark = false
  split : ∀ {w}, Head w → ∃ shown v, w = '[' :: (shown ++ mark :: v) ∧ shown ≠ [] ∧
    (∀ c ∈ shown, isShown c = true) ∧ (∀ c ∈ mark :: v, c ≠ '[' ∧ c ≠ '<')
  reword : ∀ {shown v shown'}, Head ('[' :: (shown ++ mark :: v)) →
    (∀ c ∈ shown, isShown c = true) → shown' ≠ [] → (∀ c ∈ shown', isShown c = true) →
    Head ('[' :: (shown' ++ mark :: v))
  tail : ∀ {t}, Tail t → ∀ c ∈ t, c ≠ '[' ∧ c ≠ '<'

namespace Worded

variable {mark : Char} {Head Tail : List Char → Prop}

theorem not_mem_rest {v : List Char} (h : ∀ c ∈ mark :: v, c ≠ '[' ∧ c ≠ '<') :
    '[' ∉ mark :: v := fun hm => (h _ hm).1 rfl

/-- From an inner bracket on, a head is a head again, if there are words left. -/
theorem inner (hw : Worded mark Head Tail) {p q : List Char} {x : Char} (hx : isShown x = true)
    (h : Head (p ++ '[' :: x :: q)) : Head ('[' :: x :: q) := by
  obtain ⟨shown, v, heq, -, hshown, hv⟩ := hw.split h
  rcases p with - | ⟨y, p⟩
  · exact h
  · obtain ⟨u, hu, hq⟩ := append_eq_append_of_not_mem (not_mem_rest hv) (List.cons.inj heq).2.symm
    have hwords : ∀ c ∈ u, isShown c = true := fun c hc => hshown c (by simp [hu, hc])
    -- the words left are not empty, because the mark is not shown
    have hne : u ≠ [] := by
      rintro rfl
      obtain ⟨rfl, -⟩ := List.cons.inj (show x :: q = mark :: v from hq)
      rw [hw.ends] at hx
      cases hx
    rw [heq] at h
    rw [hq]
    exact hw.reword h hshown hne hwords

/-- What is left of a head from an inner bracket on is the head that begins there. -/
theorem eq_of_inner (hw : Worded mark Head Tail) {g : Grammar}
    (hb : g.Bracketed Head Tail) {p q h r s : List Char} (hq : Head (p ++ '[' :: q)) (hh : Head h)
    (heq : h ++ r = '[' :: q ++ s) : h = '[' :: q := by
  obtain ⟨shown, v, rfl, hne, hshown, -⟩ := hw.split hh
  rcases q with - | ⟨x, q⟩
  · -- a head does not end in an opening bracket
    obtain ⟨shown', v', hq', -, -, hv'⟩ := hw.split hq
    rcases p with - | ⟨y, p⟩
    · simp at hq'
    · obtain ⟨u, -, hu⟩ := append_eq_append_of_not_mem (not_mem_rest hv')
        (List.cons.inj hq').2.symm
      simp at hu
  · obtain ⟨y, ys, rfl⟩ := List.exists_cons_of_ne_nil hne
    obtain rfl : y = x := by simpa using (List.cons.inj (List.cons.inj heq).2).1
    exact hb.head_inj hh (hw.inner (hshown y (by simp)) hq) heq

/-- A match that begins within another takes its head from what is left of the other's, and has
what follows that head behind its own. -/
theorem split_of_inner (hw : Worded mark Head Tail) {g : Grammar} (hb : g.Bracketed Head Tail)
    {p q h t h' r s : List Char} (hh : Head h) (ht : t = [] ∨ Tail t) (heq : h ++ t = p ++ q)
    (hq : q ≠ []) (hh' : Head h') (hr : h' ++ r = q ++ s) : q = h' ++ t ∧ r = t ++ s := by
  -- the inner match begins with a bracket, which no tail has
  obtain ⟨v, rfl⟩ := (hb.isHead hh').bracket
  obtain ⟨x, q, rfl⟩ := List.exists_cons_of_ne_nil hq
  obtain rfl : '[' = x := (List.cons.inj hr).1
  have hmem : '[' ∉ t := by
    rcases ht with rfl | ht
    · exact List.not_mem_nil
    · exact hb.not_mem_tail ht
  obtain ⟨u, rfl, rfl⟩ := append_eq_append_of_not_mem hmem heq
  -- so the heads end at one place
  have hheads := hw.eq_of_inner hb hh hh' (r := r) (s := t ++ s) (by simpa using hr)
  rw [hheads] at hr
  exact ⟨by simp [hheads], by simpa using hr⟩

/-- With more words and a bracket in front, a head is a head again. -/
theorem outer (hw : Worded mark Head Tail) {p q : List Char} (hp : ∀ c ∈ p, isShown c = true)
    (h : Head ('[' :: q)) : Head ('[' :: (p ++ '[' :: q)) := by
  obtain ⟨shown, v, heq, -, hshown, -⟩ := hw.split h
  obtain rfl := (List.cons.inj heq).2
  have hwords : ∀ c ∈ p ++ '[' :: shown, isShown c = true := by
    intro c hc
    rcases List.mem_append.mp hc with hc | hc
    · exact hp c hc
    · rcases List.mem_cons.mp hc with rfl | hc
      · rfl
      · exact hshown c hc
  have := hw.reword h hshown (by simp) hwords
  simpa using this

/-- No head begins in words that end at another mark. -/
theorem quiet (hw : Worded mark Head Tail) {shown r y : List Char} {x : Char}
    (hshown : ∀ c ∈ shown, isShown c = true) (hx : isShown x = false) (hne : x ≠ mark)
    (hr : '[' ∉ x :: r) : Quiet Head ('[' :: (shown ++ x :: r)) y := by
  rintro u v huv h hh ⟨s, hs⟩
  -- from the bracket on there are words up to the same mark
  obtain ⟨shown', rfl, hshown'⟩ :
      ∃ shown', v = shown' ++ x :: r ∧ ∀ c ∈ shown', isShown c = true := by
    rcases u with - | ⟨b, u⟩
    · exact ⟨shown, (List.cons.inj huv).2.symm, hshown⟩
    · obtain ⟨w, hw', hv⟩ := append_eq_append_of_not_mem hr (List.cons.inj huv).2
      exact ⟨w, hv, fun c hc => hshown c (by simp [hw', hc])⟩
  obtain ⟨words, w, rfl, -, hwords, -⟩ := hw.split hh
  simp only [List.cons_append, List.append_assoc, List.cons.injEq, true_and] at hs
  obtain ⟨-, hmark, -⟩ := append_cons_inj hwords hshown' hw.ends hx hs
  exact hne hmark.symm

end Worded

/-! ### The two grammars -/

theorem Naming.text_ne (n : Naming) : ∀ c ∈ n.text, c ≠ '[' ∧ c ≠ '<' := fun c hc =>
  ⟨fun h => n.not_mem_text (x := '[') (by decide) (h ▸ hc),
    fun h => n.not_mem_text (x := '<') (by decide) (h ▸ hc)⟩

theorem Origin.text_ne (o : Origin) : ∀ c ∈ o.text, c ≠ '[' ∧ c ≠ '<' := fun c hc =>
  ⟨fun h => o.not_mem_text (x := '[') (by decide) (h ▸ hc),
    fun h => o.not_mem_text (x := '<') (by decide) (h ▸ hc)⟩

theorem standard_worded :
    Worded ']' (fun w => ∃ m n, w = Mention.standardText m n) fun _ => False where
  ends := rfl
  split := by
    rintro _ ⟨m, n, rfl⟩
    refine ⟨m.shown, '(' :: (n.text ++ '@' :: (m.origin.text ++ [')'])), ?_, m.shown_ne_nil,
      m.shown_isShown, ?_⟩
    · simp [Mention.standardText]
    · simp only [List.mem_cons, List.mem_append, List.not_mem_nil, or_false]
      rintro c (rfl | rfl | hc | rfl | hc | rfl)
      · decide
      · decide
      · exact n.text_ne c hc
      · decide
      · exact m.origin.text_ne c hc
      · decide
  reword := by
    rintro shown v shown' ⟨m, n, heq⟩ hshown hne hshown'
    have hrest : shown ++ ']' :: v =
        m.shown ++ ']' :: '(' :: (n.text ++ '@' :: (m.origin.text ++ [')'])) := by
      simpa [Mention.standardText] using heq
    obtain ⟨-, -, rfl⟩ := append_cons_inj hshown m.shown_isShown rfl rfl hrest
    exact ⟨⟨shown', m.origin, hne, hshown'⟩, n, by simp [Mention.standardText]⟩
  tail := fun ht => ht.elim

theorem alternate_worded :
    Worded '@' (fun w => ∃ m, w = Mention.headText m) fun w => ∃ n, w = Naming.tailText n where
  ends := rfl
  split := by
    rintro _ ⟨m, rfl⟩
    refine ⟨m.shown, m.origin.text ++ [']'], ?_, m.shown_ne_nil, m.shown_isShown, ?_⟩
    · simp [Mention.headText]
    · simp only [List.mem_cons, List.mem_append, List.not_mem_nil, or_false]
      rintro c (rfl | hc | rfl)
      · decide
      · exact m.origin.text_ne c hc
      · decide
  reword := by
    rintro shown v shown' ⟨m, heq⟩ hshown hne hshown'
    have hrest : shown ++ '@' :: v = m.shown ++ '@' :: (m.origin.text ++ [']']) := by
      simpa [Mention.headText] using heq
    obtain ⟨-, -, rfl⟩ := append_cons_inj hshown m.shown_isShown rfl rfl hrest
    exact ⟨⟨shown', m.origin, hne, hshown'⟩, by simp [Mention.headText]⟩
  tail := by
    rintro _ ⟨n, rfl⟩
    simp only [Naming.tailText, List.mem_cons, List.mem_append, List.not_mem_nil, or_false]
    rintro c ((rfl | hc) | rfl)
    · decide
    · exact n.text_ne c hc
    · decide

/-- **The matches of a named grammar take heads that are made of words.** -/
theorem Grammar.worded_of_named {g : Grammar} (h : g = .standard ∨ g = .alternate) :
    ∃ mark Head Tail, g.Bracketed Head Tail ∧ Worded mark Head Tail := by
  rcases h with rfl | rfl
  · exact ⟨_, _, _, standard_bracketed, standard_worded⟩
  · exact ⟨_, _, _, alternate_bracketed, alternate_worded⟩

end TermRef
