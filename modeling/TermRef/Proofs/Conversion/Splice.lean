/-
TermRef/Proofs/Conversion/Splice.lean

The references that a scan picks, as spans of its text, and the text with some of them
replaced.

`Spliced n s ps out` reads `s` from position `n` on, character by character: what lies
in no span is kept, and a span is put out as it is or as its replacement.  It settles at
once that the spans are in order, do not overlap and lie within the text, and what the
text becomes.

The edits of picked references make a pass that does what `Spliced` says
(`Picks.pass_editsOf`), so none of them can be refused: one starts where the scan had come
to, and ends where a match ended.  This is an induction over what the scan picks; the edits
lag behind the scan by the characters that it has passed by since the last of them, which
are kept in front (`u` below).
-/
import TermRef.Proofs.Edit.Pass
import TermRef.Proofs.Reference.Scan

namespace TermRef

open Pattern

variable {g : Grammar} {c : Cursor} {os : List Occurrence}

/-! ### Spliced texts -/

/-- The text `s`, which begins at position `n`, with each span put out as its replacement
if it has one, and as it is otherwise. -/
inductive Spliced : Nat → List Char → List (Occurrence × Option String) → List Char → Prop
  /-- The text ends. -/
  | done {n} : Spliced n [] [] []
  /-- A character outside of all spans is kept. -/
  | keep {n x s ps out} : Spliced (n + 1) s ps out → Spliced n (x :: s) ps (x :: out)
  /-- A span begins here, and the text goes on at its end. -/
  | span {n o w l s ps out} : o.start = n → o.stop = n + w.length → o.text.toList = w → w ≠ [] →
      Spliced o.stop s ps out →
      Spliced n (w ++ s) ((o, l) :: ps) ((l.map String.toList).getD w ++ out)

namespace Spliced

variable {n : Nat} {s out : List Char} {ps : List (Occurrence × Option String)}

theorem le_start (h : Spliced n s ps out) : ∀ p ∈ ps, n ≤ p.1.start := by
  induction h with
  | done => simp
  | keep _ ih => exact fun p hp => Nat.le_of_succ_le (ih p hp)
  | span hstart hstop _ _ _ ih =>
    intro p hp
    rcases List.mem_cons.mp hp with rfl | hp
    · exact Nat.le_of_eq hstart.symm
    · exact Nat.le_trans (hstop ▸ Nat.le_add_right _ _) (ih p hp)

/-- What is picked is a span, whatever replaces it. -/
theorem pick {g : Grammar} {c d : Cursor} (hm : g.pattern.matchAt? c = some d)
    (hp : isPassedOver c d = false) (h : Spliced d.pos d.rest ps out) (l : Option String) :
    Spliced c.pos c.rest ((g.occurrence c d, l) :: ps)
      ((l.map String.toList).getD (c.textFrom d) ++ out) := by
  obtain ⟨w, hw, hr, -, hpos, htext⟩ := ahead_of_not_passedOver (Pattern.matchAt?_ahead hm) hp
  rw [hr, htext]
  exact .span rfl hpos (by rw [Grammar.occurrence, htext, String.toList_ofList]) hw h

/-- The spans and their replacements settle what a text becomes. -/
theorem unique {out' : List Char} (h : Spliced n s ps out) (h' : Spliced n s ps out') :
    out = out' := by
  induction h generalizing out' with
  | done =>
    generalize hs : ([] : List Char) = s' at h'
    cases h' with
    | done => rfl
    | keep => cases hs
  | @keep n x s ps out h ih =>
    generalize hs : x :: s = s' at h'
    cases h' with
    | done => cases hs
    | keep h' =>
      obtain ⟨rfl, rfl⟩ := List.cons.inj hs
      rw [ih h']
    | span hstart =>
      have hle := h.le_start _ List.mem_cons_self
      dsimp only at hle
      omega
  | @span n o w l s ps out hstart hstop htext hw h ih =>
    generalize hs : w ++ s = s' at h'
    cases h' with
    | keep h' =>
      have hle := h'.le_start _ List.mem_cons_self
      dsimp only at hle
      omega
    | span _ _ htext' _ h' =>
      obtain rfl := htext.symm.trans htext'
      obtain rfl := List.append_cancel_left hs
      rw [ih h']

/-- A text of which nothing is replaced stays as it is. -/
theorem eq_self (h : Spliced n s ps out) (hn : ∀ p ∈ ps, p.2 = none) : out = s := by
  induction h with
  | done => rfl
  | keep _ ih => rw [ih hn]
  | span _ _ _ _ _ ih =>
    obtain rfl := hn _ List.mem_cons_self
    rw [ih fun p hp => hn p (List.mem_cons_of_mem _ hp)]
    rfl

end Spliced

/-- The edits that replace the spans of some references. -/
def editsOf (f : Occurrence → Option String) (os : List Occurrence) : List Edit :=
  os.filterMap fun o => (f o).map fun l => ⟨o.start, o.stop, l⟩

/-- The text with what is picked replaced, and the edits that make it so in one pass. -/
theorem Grammar.Picks.pass_editsOf (h : g.Picks c os) (f : Occurrence → Option String) :
    ∃ out, Spliced c.pos c.rest (os.map fun o => (o, f o)) out ∧
      ∀ (u : List Char) (n m : Nat), c.pos = n + u.length →
        ∃ offsets, Edit.Pass n m (u ++ c.rest) (editsOf f os) (u ++ out) offsets := by
  induction h with
  | done hr =>
    rw [hr]
    exact ⟨[], .done, fun u n m _ => ⟨[], .done⟩⟩
  | @pass c x r os hr _ _ ih =>
    obtain ⟨out, hout, hedits⟩ := ih
    rw [hr]
    refine ⟨x :: out, .keep hout, fun u n m hu => ?_⟩
    -- one more character stands between the edits and the scan
    obtain ⟨offsets, ho⟩ := hedits (u ++ [x]) n m (by simp [hu, Nat.add_assoc])
    exact ⟨offsets, by simpa using ho⟩
  | @pick c d os hm hp _ ih =>
    obtain ⟨w, hw, hr, -, hpos, htext⟩ := ahead_of_not_passedOver (Pattern.matchAt?_ahead hm) hp
    obtain ⟨out, hout, hedits⟩ := ih
    refine ⟨_, .pick hm hp hout (f (g.occurrence c d)), fun u n m hu => ?_⟩
    rw [hr, htext]
    rcases hf : f (g.occurrence c d) with - | l
    · -- the span stays, and joins what the edits have still to pass by
      obtain ⟨offsets, ho⟩ := hedits (u ++ w) n m (by simp [hpos, hu, Nat.add_assoc])
      refine ⟨offsets, ?_⟩
      simpa [editsOf, hf] using ho
    · -- the edit begins after `u` and ends where the scan goes on
      have hes : editsOf f (g.occurrence c d :: os) = ⟨c.pos, d.pos, l⟩ :: editsOf f os := by
        rw [editsOf, List.filterMap_cons, hf]
        rfl
      obtain ⟨offsets, ho⟩ := hedits [] (n + u.length + w.length) (m + u.length + l.length)
        (by simp [hpos, hu])
      rw [hes]
      exact ⟨_, .step (congrArg Nat.cast hu) (congrArg Nat.cast (hu ▸ hpos)) ho⟩

/-- **The edits of a scan fit its text**, and give the text with the spans replaced. -/
theorem applyAll_editsOf (g : Grammar) (s : String) (f : Occurrence → Option String) :
    ∃ out offsets, Edit.applyAll s (editsOf f (g.scan s)) = .ok (out, offsets) ∧
      Spliced 0 s.toList ((g.scan s).map fun o => (o, f o)) out.toList := by
  obtain ⟨out, hout, hedits⟩ := (g.picks_scan s).pass_editsOf f
  obtain ⟨offsets, hpass⟩ := hedits [] 0 0 rfl
  refine ⟨String.ofList out, offsets, Edit.applyAll_of_pass ?_, ?_⟩
  · rw [String.toList_ofList]
    exact hpass
  · rw [String.toList_ofList]
    exact hout

end TermRef
