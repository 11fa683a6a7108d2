/-
TermRef/Proofs/Edit/Undo.lean

Edits can be undone.

A pass reads the same from both sides: it cuts the old text and the new one into what is kept
and what is replaced by what, and nothing in it says which of them was there first.  So a pass
turned round is a pass from the new text to the old one (`Pass.turn`), whose edits put back what
went where the replacements have landed, and whose offsets are the old starts.

The edits that undo others are in the order of their starts already, because those of a pass are
(`Pass.ascending`).  That holds also when several of them start at one place, as after
deletions side by side: the order of a list is all that tells them apart, and sorting keeps it.
-/
import TermRef.Proofs.Edit.Pass

namespace TermRef.Edit

/-- The edit that undoes `e` in a text which had `s` before: where the replacement has landed, it
puts the span back. -/
def undoing (s : List Char) (e : Edit) (offset : Nat) : Edit where
  start := offset
  stop := offset + e.replacement.length
  replacement := String.ofList ((s.drop e.start.toNat).take (e.stop - e.start).toNat)

variable {n w : Nat} {s out : List Char} {es : List Edit} {offsets : List Nat}

/-- **A pass turned round is a pass.** -/
theorem Pass.turn (h : Pass n w s es out offsets) (before : List Char) (hn : before.length = n) :
    Pass w n out (List.zipWith (undoing (before ++ s)) es offsets) s
      (es.map fun e => e.start.toNat) := by
  -- positions of edits count from the start of the whole text, so what has been read goes along
  induction h generalizing before with
  | done => exact .done
  | @step n w kept gone s e es out offsets hstart hstop _ ih =>
    have hrest := ih (before ++ kept ++ gone) (by simp [hn, Nat.add_assoc])
    rw [List.append_assoc, List.append_assoc] at hrest
    generalize hback : undoing (before ++ (kept ++ (gone ++ s))) e (w + kept.length) = back
    -- what went and its replacement change places
    have hput : back.replacement.toList = gone := by
      have hcut : (before ++ (kept ++ (gone ++ s))).drop e.start.toNat = gone ++ s := by
        rw [← List.append_assoc, List.drop_left']
        rw [List.length_append]
        omega
      rw [← hback, undoing, hcut, List.take_left', String.toList_ofList]
      omega
    have hstep : Pass w n (kept ++ (e.replacement.toList ++ out)) (back :: _)
        (kept ++ (back.replacement.toList ++ s)) (_ :: _) :=
      .step (by rw [← hback]; rfl) (by rw [← hback, String.length_toList]; rfl)
        (by rwa [← String.length_toList (s := back.replacement), hput, String.length_toList])
    rw [hput] at hstep
    rwa [List.zipWith_cons_cons, List.map_cons, hback,
      show e.start.toNat = n + kept.length by omega]

/-- **Edits can be undone.**  Where edits go through, the edits that put each span back in place
of its replacement give the old text back, and land where the spans were. -/
theorem applyAll_undoing {text new : String} (h : applyAll text es = .ok (new, offsets)) :
    ∃ starts : List Nat,
      applyAll new (List.zipWith (undoing text.toList) (sortByStart es) offsets) =
        .ok (text, starts) ∧
      starts.map Int.ofNat = (sortByStart es).map start := by
  have hpass := pass_of_applyAll h
  refine ⟨_, applyAll_of_pass (hpass.turn [] rfl), ?_⟩
  rw [List.map_map]
  refine List.map_congr_left fun e he => ?_
  obtain ⟨l, r, hes⟩ := List.append_of_mem he
  exact Int.toNat_of_nonneg (hpass.within hes).1

/-- Two deletions side by side, and an insertion in front of them: their replacements land at one
place, and are told apart by their order only. -/
theorem applyAll_undoing_side_by_side :
    applyAll "abc" [⟨1, 2, ""⟩, ⟨0, 0, "x"⟩, ⟨0, 1, ""⟩] = .ok ("xc", [0, 1, 1]) ∧
      ∃ starts : List Nat,
        applyAll "xc" (List.zipWith (undoing "abc".toList)
          (sortByStart [⟨1, 2, ""⟩, ⟨0, 0, "x"⟩, ⟨0, 1, ""⟩]) [0, 1, 1]) = .ok ("abc", starts) ∧
        starts.map Int.ofNat =
          (sortByStart [⟨1, 2, ""⟩, ⟨0, 0, "x"⟩, ⟨0, 1, ""⟩]).map start :=
  ⟨rfl, applyAll_undoing rfl⟩

end TermRef.Edit
