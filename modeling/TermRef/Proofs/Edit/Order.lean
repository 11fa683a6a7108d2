/-
TermRef/Proofs/Edit/Order.lean

The order in which edits are applied.

Edits go in the order of their starts, and edits with one start in the order in which they
are given.  `InStartOrder es fs` says that `fs` are the edits `es` in this order, without a
word on sorting: the starts ascend, and for each position the edits that start there are the
same on both sides, one after the other.  There is one such list
(`InStartOrder.unique`), and sorting gives it (`inStartOrder_sortByStart`); so edits that are
in order already stay as they are.

Sorting keeps no more of the order given than that of the edits with one start
(`sortByStart_eq_iff`).  Where no two edits start at one place there is nothing of it to keep,
and then edits come to the same, text, offsets and refusals, in whatever order they are given
(`applyAll_eq_of_perm`).
-/
import TermRef.Edit

namespace TermRef.Edit

/-- `fs` are the edits `es` in the order of their starts, those with one start in the order
given. -/
structure InStartOrder (es fs : List Edit) : Prop where
  ascending : fs.Pairwise fun e f => e.start ≤ f.start
  stable : ∀ n, (fs.filter fun e => e.start == n) = es.filter fun e => e.start == n

namespace InStartOrder

variable {es fs fs' : List Edit}

/-- No edit is lost, and none is added. -/
theorem perm (h : InStartOrder es fs) : fs.Perm es := by
  refine List.perm_iff_count.mpr fun e => ?_
  have hcount := congrArg (List.count e) (h.stable e.start)
  rwa [List.count_filter (by simp), List.count_filter (by simp)] at hcount

/-- The edits that start at one position are those of the other list that do. -/
theorem filter_eq (h : InStartOrder es fs) (h' : InStartOrder es fs') (n : Int) :
    (fs.filter fun e => e.start == n) = fs'.filter fun e => e.start == n :=
  (h.stable n).trans (h'.stable n).symm

/-- The order is settled by the edits. -/
theorem unique (h : InStartOrder es fs) (h' : InStartOrder es fs') : fs = fs' := by
  induction fs generalizing es fs' with
  | nil => exact (h'.perm.trans h.perm.symm).eq_nil.symm
  | cons e fs ih =>
    obtain ⟨e', fs', rfl⟩ : ∃ e' t, fs' = e' :: t := by
      refine List.exists_cons_of_ne_nil ?_
      rintro rfl
      exact absurd (h.perm.trans h'.perm.symm).eq_nil (by simp)
    obtain ⟨hfirst, hrest⟩ := List.pairwise_cons.mp h.ascending
    obtain ⟨hfirst', hrest'⟩ := List.pairwise_cons.mp h'.ascending
    -- both lists begin with the edits at the least start
    have hstart : e.start = e'.start := by
      have hmem : e' ∈ e :: fs := (h.perm.trans h'.perm.symm).mem_iff.mpr (by simp)
      have hmem' : e ∈ e' :: fs' := (h.perm.trans h'.perm.symm).mem_iff.mp (by simp)
      refine Int.le_antisymm ?_ ?_
      · rcases List.mem_cons.mp hmem with rfl | hm
        · exact Int.le_refl _
        · exact hfirst e' hm
      · rcases List.mem_cons.mp hmem' with rfl | hm
        · exact Int.le_refl _
        · exact hfirst' e hm
    have hhead := h.filter_eq h' e.start
    simp only [List.filter_cons, beq_self_eq_true, if_true, ← hstart, List.cons.injEq] at hhead
    obtain ⟨rfl, -⟩ := hhead
    have hsame : InStartOrder fs fs := ⟨hrest, fun _ => rfl⟩
    refine congrArg (e :: ·) (ih hsame ⟨hrest', fun n => ?_⟩)
    have htail := h.filter_eq h' n
    by_cases hn : e.start = n
    · simpa [hn] using htail.symm
    · simpa [hn] using htail.symm

end InStartOrder

/-! ### Sorting -/

theorem perm_insertByStart (e : Edit) (es : List Edit) : (insertByStart e es).Perm (e :: es) := by
  induction es with
  | nil => exact .refl _
  | cons f es ih =>
    rw [insertByStart]
    split
    · exact .refl _
    · exact (ih.cons f).trans (.swap e f es)

theorem pairwise_insertByStart (e : Edit) {es : List Edit}
    (h : es.Pairwise fun e f => e.start ≤ f.start) :
    (insertByStart e es).Pairwise fun e f => e.start ≤ f.start := by
  induction es with
  | nil => simp [insertByStart]
  | cons f es ih =>
    obtain ⟨hf, hes⟩ := List.pairwise_cons.mp h
    rw [insertByStart]
    split
    · rename_i hlt
      refine List.pairwise_cons.mpr ⟨fun f' hf' => ?_, h⟩
      rcases List.mem_cons.mp hf' with rfl | hf'
      · exact Int.le_of_lt hlt
      · exact Int.le_trans (Int.le_of_lt hlt) (hf f' hf')
    · rename_i hlt
      refine List.pairwise_cons.mpr ⟨fun f' hf' => ?_, ih hes⟩
      rcases List.mem_cons.mp ((perm_insertByStart e es).mem_iff.mp hf') with rfl | hf'
      · exact Int.not_lt.mp hlt
      · exact hf f' hf'

/-- An edit is put behind all that have its start. -/
theorem filter_insertByStart (e : Edit) {es : List Edit}
    (h : es.Pairwise fun e f => e.start ≤ f.start) (n : Int) :
    ((insertByStart e es).filter fun f => f.start == n) =
      (es ++ [e]).filter fun f => f.start == n := by
  induction es with
  | nil => rfl
  | cons f es ih =>
    obtain ⟨hf, hes⟩ := List.pairwise_cons.mp h
    rw [insertByStart]
    split
    · -- what stands behind starts later
      rename_i hlt
      by_cases hn : e.start = n
      · have hlater : ((f :: es).filter fun f => f.start == n) = [] := by
          refine List.filter_eq_nil_iff.mpr fun f' hf' => ?_
          have hle : f.start ≤ f'.start := by
            rcases List.mem_cons.mp hf' with rfl | hf'
            · exact Int.le_refl _
            · exact hf f' hf'
          simp only [beq_iff_eq]
          omega
        rw [List.filter_cons, List.filter_append, hlater]
        simp [hn]
      · rw [List.filter_cons, List.filter_append]
        simp [hn]
    · rw [List.cons_append, List.filter_cons, List.filter_cons, ih hes]

/-- **Sorting keeps the order of edits with one start.** -/
theorem inStartOrder_sortByStart (es : List Edit) : InStartOrder es (sortByStart es) := by
  -- what has been sorted so far comes from the edits before
  have hfold : ∀ rest done acc : List Edit, InStartOrder done acc →
      InStartOrder (done ++ rest) (rest.foldl (fun acc e => insertByStart e acc) acc) := by
    intro rest
    induction rest with
    | nil => exact fun done acc h => (List.append_nil done).symm ▸ h
    | cons e rest ih =>
      intro done acc h
      have hnext : InStartOrder (done ++ [e]) (insertByStart e acc) :=
        ⟨pairwise_insertByStart e h.ascending, fun n => by
          rw [filter_insertByStart e h.ascending n, List.filter_append, List.filter_append,
            h.stable n]⟩
      simpa using ih _ _ hnext
  exact hfold es [] [] ⟨.nil, fun _ => rfl⟩

/-- Edits that are in order stay as they are. -/
theorem sortByStart_eq_self {es : List Edit} (h : es.Pairwise fun e f => e.start ≤ f.start) :
    sortByStart es = es :=
  (inStartOrder_sortByStart es).unique ⟨h, fun _ => rfl⟩

/-! ### Other orders -/

variable {es fs : List Edit}

/-- Edits are sorted to the same list just if, at each position, those that start there are the
same in both and stand in the same order. -/
theorem sortByStart_eq_iff : sortByStart es = sortByStart fs ↔
    ∀ n, (es.filter fun e => e.start == n) = fs.filter fun e => e.start == n := by
  have hes := inStartOrder_sortByStart es
  have hfs := inStartOrder_sortByStart fs
  constructor
  · intro h n
    rw [← hes.stable n, h, hfs.stable n]
  · intro h
    exact hes.unique ⟨hfs.ascending, fun n => (hfs.stable n).trans (h n).symm⟩

/-- Of edits with distinct starts, one at most starts at a position. -/
theorem length_filter_start_le_one (hstarts : (es.map start).Nodup) (n : Int) :
    (es.filter fun e => e.start == n).length ≤ 1 := by
  have hcount := List.nodup_iff_count.mp hstarts n
  rwa [List.count, List.countP_map, List.countP_eq_length_filter] at hcount

/-- **Edits with distinct starts can be given in any order**: they make the same text and land at
the same offsets, or are refused alike. -/
theorem applyAll_eq_of_perm (text : String) (h : es.Perm fs) (hstarts : (es.map start).Nodup) :
    applyAll text es = applyAll text fs := by
  have hsort : sortByStart es = sortByStart fs := by
    refine sortByStart_eq_iff.mpr fun n => ?_
    have hperm := h.filter fun e => e.start == n
    have hone := length_filter_start_le_one hstarts n
    -- lists of one member at most are not rearranged
    generalize (es.filter fun e => e.start == n) = l at hperm hone ⊢
    rcases l with - | ⟨e, - | ⟨f, r⟩⟩
    · exact hperm.symm.eq_nil.symm
    · exact (List.perm_singleton.mp hperm.symm).symm
    · simp at hone
  rw [applyAll, applyAll, hsort]

/-- Three edits, two of them side by side, turned round; and two that overlap. -/
theorem applyAll_eq_of_perm_three :
    (applyAll "abcd" [⟨2, 4, "y"⟩, ⟨0, 0, "x"⟩, ⟨1, 2, ""⟩] = .ok ("xay", [0, 2, 2]) ∧
      applyAll "abcd" [⟨2, 4, "y"⟩, ⟨0, 0, "x"⟩, ⟨1, 2, ""⟩] =
        applyAll "abcd" [⟨0, 0, "x"⟩, ⟨1, 2, ""⟩, ⟨2, 4, "y"⟩]) ∧
    (applyAll "abcd" [⟨1, 3, ""⟩, ⟨0, 2, "x"⟩] = .error (.overlap 1 2) ∧
      applyAll "abcd" [⟨1, 3, ""⟩, ⟨0, 2, "x"⟩] = applyAll "abcd" [⟨0, 2, "x"⟩, ⟨1, 3, ""⟩]) :=
  ⟨⟨rfl, applyAll_eq_of_perm "abcd" (by decide) (by decide)⟩,
    ⟨rfl, applyAll_eq_of_perm "abcd" (by decide) (by decide)⟩⟩

/-- Two insertions at one place are told apart by their order. -/
example : applyAll "" [⟨0, 0, "a"⟩, ⟨0, 0, "b"⟩] = .ok ("ab", [0, 1]) ∧
    applyAll "" [⟨0, 0, "b"⟩, ⟨0, 0, "a"⟩] = .ok ("ba", [0, 1]) := ⟨rfl, rfl⟩

end TermRef.Edit
