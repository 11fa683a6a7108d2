/-
TermRef/Proofs/Edit/Pass.lean

Applying edits in one pass, and splicing them in one at a time.

A pass copies what lies between two spans and puts out a replacement for each span.
`Pass n w s es out offsets` says so of the text `s`, which begins at position `n` of the old
text and whose result begins at position `w` of the new one: `s` is what is kept, what goes,
and the rest, and `out` is what is kept, the replacement, and what becomes of the rest.
Nothing is cut at a position here.  Edits go through when there is such a pass, and then they
give what it makes (`applyFrom_outcome`, `Pass.applyFrom`); so the facts about edits that go
through are inductions over it.

Edits are refused exactly when one of them is a misfit (`applyAll_outcome`,
`Pass.not_hasMisfit`).  If they go through, the new text is what comes of splicing them in one at
a time, from the last to the first (`Pass.foldr_splice`).  An edit does not move what lies before
it, so in this order each one still finds its span where it was, and no account has to be kept of
positions; that makes it the specification of the pass.
-/
import Mathlib.Algebra.Ring.Int.Defs
import Mathlib.Tactic.ByContra
import TermRef.Proofs.Edit.Order

namespace TermRef.Edit

/-! ### The specification -/

/-- A text with the span of an edit replaced. -/
def splice (e : Edit) (s : List Char) : List Char :=
  s.take e.start.toNat ++ (e.replacement.toList ++ s.drop e.stop.toNat)

/-- One of the edits starts before the text or before the end of the edit in front of it, ends
before it starts, or ends behind the text, which has `size` characters. -/
def HasMisfit (size : Nat) (es : List Edit) : Prop :=
  ∃ l e r, es = l ++ e :: r ∧ (e.start < 0 ∨ (∃ f ∈ l.getLast?, e.start < f.stop) ∨
    e.stop < e.start ∨ (size : Int) < e.stop)

/-- The text `s` becomes `out` by edits that are spliced in one at a time, from the last to the
first, and each replacement stands in it at its offset. -/
structure Splices (s : List Char) (es : List Edit) (out : List Char) (offsets : List Nat) :
    Prop where
  text : out = es.foldr splice s
  /-- Every edit has an offset, and nothing else has. -/
  count : offsets.length = es.length
  /-- An offset is the start of its edit, moved by the deltas of the edits before. -/
  offset : ∀ (k o : Nat) e, es[k]? = some e → offsets[k]? = some o →
    (o : Int) = e.start + ((es.take k).map delta).sum
  landed : ∀ (k o : Nat) e, es[k]? = some e → offsets[k]? = some o →
    (out.drop o).take e.replacement.length = e.replacement.toList
  length : (out.length : Int) = s.length + (es.map delta).sum

/-! ### Passes -/

/-- In one pass the edits `es` make `out` of the text `s`, which begins at position `n`, and
whose result begins at position `w`; the replacements land at the offsets. -/
inductive Pass : Nat → Nat → List Char → List Edit → List Char → List Nat → Prop
  /-- The text that is left is kept. -/
  | done {n w s} : Pass n w s [] s []
  /-- Some of the text is kept, and the span of an edit is replaced. -/
  | step {n w kept gone s} {e : Edit} {es out offsets} :
      e.start = (n + kept.length : Nat) → e.stop = (n + kept.length + gone.length : Nat) →
      Pass (n + kept.length + gone.length) (w + kept.length + e.replacement.length) s es out
        offsets →
      Pass n w (kept ++ (gone ++ s)) (e :: es) (kept ++ (e.replacement.toList ++ out))
        ((w + kept.length) :: offsets)

/-! ### One step -/

/-- The span of an edit lies between two positions. -/
def Within (lo hi : Int) (e : Edit) : Prop := lo ≤ e.start ∧ e.start ≤ e.stop ∧ e.stop ≤ hi

variable {n w size : Nat} {s out : List Char} {e : Edit} {es : List Edit} {offsets : List Nat}

/-- A span cuts a text into what is kept, what goes, and the rest. -/
theorem exists_cut (h : e.Within n (n + s.length : Nat)) : ∃ kept gone rest,
    s = kept ++ (gone ++ rest) ∧ e.start = (n + kept.length : Nat) ∧
      e.stop = (n + kept.length + gone.length : Nat) := by
  obtain ⟨hstart, hstop, hend⟩ := h
  refine ⟨s.take (e.start - n).toNat, (s.drop (e.start - n).toNat).take (e.stop - e.start).toNat,
    (s.drop (e.start - n).toNat).drop (e.stop - e.start).toNat, ?_, ?_, ?_⟩
  · rw [List.take_append_drop, List.take_append_drop]
  · rw [List.length_take]
    omega
  · rw [List.length_take, List.length_take, List.length_drop]
    omega

/-- The first edit leaves a text in front of what the others make of the rest. -/
theorem applyFrom_cons {kept gone : List Char} (hstart : e.start = (n + kept.length : Nat))
    (hstop : e.stop = (n + kept.length + gone.length : Nat))
    (hsize : size = n + (kept ++ (gone ++ s)).length) :
    applyFrom size n w (kept ++ (gone ++ s)) (e :: es) =
      (applyFrom size (n + kept.length + gone.length : Nat)
          (w + kept.length + e.replacement.length) s es).map
        fun p => (kept ++ (e.replacement.toList ++ p.1), (w + kept.length) :: p.2) := by
  rw [List.length_append, List.length_append] at hsize
  have hkept : (kept ++ (gone ++ s)).take (e.start - n).toNat = kept := by
    rw [show (e.start - n).toNat = kept.length by omega, List.take_left']
    rfl
  have hrest : (kept ++ (gone ++ s)).drop (e.stop - n).toNat = s := by
    rw [← List.append_assoc, List.drop_left']
    rw [List.length_append]
    omega
  rw [applyFrom, if_neg (by omega), if_neg (by omega)]
  simp only [hkept, hrest, List.append_assoc]
  rw [hstop]
  cases applyFrom size (n + kept.length + gone.length : Nat)
    (w + kept.length + e.replacement.length) s es <;> rfl

/-- Where the last of some edits ends, if any of them stands behind the first. -/
theorem stop_getLast?_cons (e : Edit) (l : List Edit) (n : Int) :
    ((e :: l).getLast?.map stop).getD n = (l.getLast?.map stop).getD e.stop := by
  rw [List.getLast?_cons]
  cases l.getLast? <;> rfl

/-- An edit that does not lie in what is left is refused. -/
theorem applyFrom_of_not_within (h : ¬ e.Within n size) :
    ∃ x, applyFrom size n w s (e :: es) = .error x := by
  rw [applyFrom]
  split
  · exact ⟨_, rfl⟩
  · split
    · exact ⟨_, rfl⟩
    · exact absurd ⟨by omega, by omega, by omega⟩ h

/-! ### Edits that go through, and edits that do not -/

/-- Edits go through in a pass, or one of them does not lie behind the one in front of it and in
the text. -/
theorem applyFrom_outcome (w : Nat) (es : List Edit) (hsize : size = n + s.length) :
    (∃ out offsets, applyFrom size n w s es = .ok (out, offsets) ∧ Pass n w s es out offsets) ∨
      ((∃ x, applyFrom size n w s es = .error x) ∧
        ∃ l e r, es = l ++ e :: r ∧ ¬ e.Within ((l.getLast?.map stop).getD n) size) := by
  -- what is left of the text begins at `n`, where the last edit that went through has ended
  induction es generalizing n w s with
  | nil => exact .inl ⟨s, [], rfl, .done⟩
  | cons e es ih =>
    by_cases hwithin : e.Within n size
    · rw [hsize] at hwithin
      obtain ⟨kept, gone, s, rfl, hstart, hstop⟩ := exists_cut hwithin
      have hrest : size = n + kept.length + gone.length + s.length := by
        simp [hsize, Nat.add_assoc]
      rw [applyFrom_cons hstart hstop hsize]
      rcases ih (w + kept.length + e.replacement.length) hrest with
        ⟨out, offsets, hok, hpass⟩ | ⟨⟨x, hx⟩, l, f, r, rfl, hf⟩
      · exact .inl ⟨_, _, by rw [hok]; rfl, .step hstart hstop hpass⟩
      · refine .inr ⟨⟨x, by rw [hx]; rfl⟩, e :: l, f, r, rfl, ?_⟩
        rwa [stop_getLast?_cons, hstop]
    · exact .inr ⟨applyFrom_of_not_within hwithin, [], e, es, rfl, hwithin⟩

/-- What a pass makes of a text is what applying its edits gives. -/
theorem Pass.applyFrom (h : Pass n w s es out offsets) (hsize : size = n + s.length) :
    applyFrom size n w s es = .ok (out, offsets) := by
  induction h with
  | done => rfl
  | step hstart hstop _ ih =>
    rw [applyFrom_cons hstart hstop hsize, ih (by simp [hsize, Nat.add_assoc])]
    rfl

namespace Pass

/-- In a pass each edit lies behind the one in front of it, and in the text. -/
theorem within (h : Pass n w s es out offsets) {l r : List Edit} (hes : es = l ++ e :: r) :
    (n : Int) ≤ e.start ∧ e.Within ((l.getLast?.map stop).getD n) (n + s.length : Nat) := by
  induction h generalizing l with
  | done => simp at hes
  | @step n w kept gone s e₀ es out offsets hstart hstop _ ih =>
    rw [List.length_append, List.length_append]
    rcases l with - | ⟨f, l⟩
    · obtain ⟨rfl, -⟩ := List.cons.inj hes
      refine ⟨by omega, ?_, by omega, by omega⟩
      simp only [List.getLast?_nil, Option.map_none, Option.getD_none]
      omega
    · obtain ⟨rfl, hrest⟩ := List.cons.inj hes
      obtain ⟨hle, hbehind, hordered, hend⟩ := ih hrest
      refine ⟨by omega, ?_, hordered, by omega⟩
      rwa [stop_getLast?_cons, hstop]

/-- In a pass edits are in the order of their starts. -/
theorem ascending (h : Pass n w s es out offsets) : es.Pairwise fun e f => e.start ≤ f.start := by
  induction h with
  | done => exact .nil
  | step hstart hstop hrest ih =>
    -- what follows starts where the rest of the text begins, or later
    refine List.pairwise_cons.mpr ⟨fun f hf => ?_, ih⟩
    obtain ⟨l, r, hes⟩ := List.append_of_mem hf
    have := (hrest.within hes).1
    omega

/-- **A pass is made of splices**, from the last edit to the first. -/
theorem foldr_splice (h : Pass n w s es out offsets) (before : List Char)
    (hn : before.length = n) : es.foldr splice (before ++ s) = before ++ out := by
  induction h generalizing before with
  | done => rfl
  | @step n w kept gone s e es out offsets hstart hstop _ ih =>
    -- the later edits come first, and leave what stands before them in its place
    have hlater : es.foldr splice (before ++ (kept ++ (gone ++ s))) =
        before ++ (kept ++ (gone ++ out)) := by
      have := ih (before ++ kept ++ gone) (by simp [hn, Nat.add_assoc])
      simpa using this
    have htake : (before ++ (kept ++ (gone ++ out))).take e.start.toNat = before ++ kept := by
      rw [← List.append_assoc, List.take_left']
      rw [List.length_append]
      omega
    have hdrop : (before ++ (kept ++ (gone ++ out))).drop e.stop.toNat = out := by
      rw [← List.append_assoc, ← List.append_assoc, List.drop_left']
      rw [List.length_append, List.length_append]
      omega
    rw [List.foldr_cons, hlater, splice, htake, hdrop, List.append_assoc]

theorem length_offsets (h : Pass n w s es out offsets) : offsets.length = es.length := by
  induction h with
  | done => rfl
  | step _ _ _ ih => rw [List.length_cons, List.length_cons, ih]

/-- An offset is the start of its edit, moved by what the new text is ahead of the old one. -/
theorem offset_eq (h : Pass n w s es out offsets) {k o : Nat} (he : es[k]? = some e)
    (ho : offsets[k]? = some o) :
    (o : Int) = e.start + ((es.take k).map delta).sum + (w - n) := by
  induction h generalizing k with
  | done => cases he
  | step hstart hstop _ ih =>
    rcases k with - | k
    · obtain rfl := Option.some.inj he
      obtain rfl := Option.some.inj ho
      simp only [List.take_zero, List.map_nil, List.sum_nil]
      omega
    · -- behind the first edit the new text is ahead by its delta more
      have := ih he ho
      rw [List.take_succ_cons, List.map_cons, List.sum_cons, delta]
      omega

/-- A replacement stands where it has landed. -/
theorem exists_landed (h : Pass n w s es out offsets) {k o : Nat} (he : es[k]? = some e)
    (ho : offsets[k]? = some o) :
    ∃ u v, out = u ++ (e.replacement.toList ++ v) ∧ o = w + u.length := by
  induction h generalizing k with
  | done => cases he
  | @step n w kept gone s e₀ es out offsets _ _ _ ih =>
    rcases k with - | k
    · obtain rfl := Option.some.inj he
      obtain rfl := Option.some.inj ho
      exact ⟨kept, out, rfl, rfl⟩
    · obtain ⟨u, v, rfl, rfl⟩ := ih he ho
      refine ⟨kept ++ (e₀.replacement.toList ++ u), v, by simp, ?_⟩
      simp only [List.length_append, String.length_toList]
      omega

theorem length_eq (h : Pass n w s es out offsets) :
    (out.length : Int) = s.length + (es.map delta).sum := by
  induction h with
  | done => simp
  | step hstart hstop _ ih =>
    rw [List.map_cons, List.sum_cons, delta]
    simp only [List.length_append, String.length_toList]
    omega

/-- A pass over a whole text does what splicing does. -/
theorem splices (h : Pass 0 0 s es out offsets) : Splices s es out offsets where
  text := (h.foldr_splice [] rfl).symm
  count := h.length_offsets
  offset := fun k o e he ho => by simpa using h.offset_eq he ho
  landed := fun k o e he ho => by
    obtain ⟨u, v, rfl, rfl⟩ := h.exists_landed he ho
    rw [Nat.zero_add, List.drop_left', List.take_left']
    · exact String.length_toList
    · rfl
  length := h.length_eq

end Pass

/-! ### Misfits -/

/-- Among the edits of a pass there is no misfit. -/
theorem Pass.not_hasMisfit (h : Pass 0 0 s es out offsets) : ¬ HasMisfit s.length es := by
  rintro ⟨l, e, r, hes, hmisfit⟩
  obtain ⟨hstart, hbehind, hordered, hend⟩ := h.within hes
  rcases hmisfit with hlt | ⟨f, hf, hlt⟩ | hlt | hlt
  · omega
  · rw [Option.mem_def.mp hf] at hbehind
    simp only [Option.map_some, Option.getD_some] at hbehind
    omega
  · omega
  · omega

/-- An edit that does not lie behind the one in front of it and in the text is a misfit. -/
theorem hasMisfit_of_not_within {l r : List Edit} (hes : es = l ++ e :: r)
    (h : ¬ e.Within ((l.getLast?.map stop).getD 0) size) : HasMisfit size es := by
  refine ⟨l, e, r, hes, ?_⟩
  by_contra hfit
  simp only [not_or, not_exists, not_and, Int.not_lt, Option.mem_def] at hfit
  obtain ⟨hstart, hbehind, hordered, hend⟩ := hfit
  refine h ⟨?_, hordered, hend⟩
  rcases hl : l.getLast? with - | f
  · exact hstart
  · exact hbehind f hl

/-- The edits of a text make a pass, or there is a misfit among them. -/
theorem applyAll_outcome (text : String) (es : List Edit) :
    (∃ out offsets, applyAll text es = .ok (out, offsets) ∧
      Pass 0 0 text.toList (sortByStart es) out.toList offsets) ∨
    ((∃ x, applyAll text es = .error x) ∧ HasMisfit text.length (sortByStart es)) := by
  have hsize : text.length = 0 + text.toList.length := by
    rw [Nat.zero_add, String.length_toList]
  rcases applyFrom_outcome 0 (sortByStart es) hsize with
    ⟨out, offsets, hok, hpass⟩ | ⟨⟨x, hx⟩, l, e, r, hes, hmisfit⟩
  · refine .inl ⟨String.ofList out, offsets, ?_, by rwa [String.toList_ofList]⟩
    rw [applyAll, show applyFrom text.length 0 0 text.toList (sortByStart es) = _ from hok]
  · refine .inr ⟨⟨x, ?_⟩, hasMisfit_of_not_within hes hmisfit⟩
    rw [applyAll, show applyFrom text.length 0 0 text.toList (sortByStart es) = _ from hx]

/-- What applying edits gives is what a pass gives. -/
theorem pass_of_applyAll {text out : String} (h : applyAll text es = .ok (out, offsets)) :
    Pass 0 0 text.toList (sortByStart es) out.toList offsets := by
  rcases applyAll_outcome text es with ⟨out', offsets', hok, hpass⟩ | ⟨⟨x, hx⟩, -⟩
  · obtain ⟨rfl, rfl⟩ := Prod.mk.inj (Except.ok.inj (h.symm.trans hok))
    exact hpass
  · rw [hx] at h
    cases h

/-- What a pass makes of a whole text is what applying its edits gives. -/
theorem applyAll_of_pass {text out : String} (h : Pass 0 0 text.toList es out.toList offsets) :
    applyAll text es = .ok (out, offsets) := by
  have hsize : text.length = 0 + text.toList.length := by
    rw [Nat.zero_add, String.length_toList]
  rw [applyAll, sortByStart_eq_self h.ascending,
    show applyFrom text.length 0 0 text.toList es = _ from h.applyFrom hsize]
  simp only [String.ofList_toList]

/-- **Applying edits in one pass is splicing them in**, unless there is a misfit among them, and
then they are refused. -/
theorem applyAll_splices_or_refuses (text : String) (es : List Edit) :
    InStartOrder es (sortByStart es) ∧
      ((HasMisfit text.length (sortByStart es) ∧ ∃ x, applyAll text es = .error x) ∨
        (¬ HasMisfit text.length (sortByStart es) ∧ ∃ out offsets,
          applyAll text es = .ok (out, offsets) ∧
            Splices text.toList (sortByStart es) out.toList offsets)) := by
  refine ⟨inStartOrder_sortByStart es, ?_⟩
  rcases applyAll_outcome text es with ⟨out, offsets, hok, hpass⟩ | ⟨herror, hmisfit⟩
  · refine .inr ⟨?_, out, offsets, hok, hpass.splices⟩
    rw [← String.length_toList]
    exact hpass.not_hasMisfit
  · exact .inl ⟨hmisfit, herror⟩

/-- An insertion, a deletion at its place and a replacement behind it, given the other way round. -/
example : applyAll "abcd" [⟨2, 4, "y"⟩, ⟨1, 1, "x"⟩, ⟨1, 2, ""⟩] = .ok ("axy", [1, 2, 2]) := rfl

end TermRef.Edit
