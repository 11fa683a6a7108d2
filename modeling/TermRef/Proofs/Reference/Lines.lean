/-
TermRef/Proofs/Reference/Lines.lean

Scanning a text line by line.

No part of a reference in a named grammar has a line feed, so neither heads nor tails do
(`Unbroken`).  A head that begins in a line ends in it, and a tail that follows it does; what comes
after the line has no say in them.  So a scan picks in a line of a text what it picks in the line
alone (`Grammar.Bracketed.picks_line`), moved by the place of the line.  Nothing carries over from
one line to the next: no match begins at a line feed, and a line feed escapes nothing.

`Grammar.Bracketed.picks_lines` strings the lines together.
-/
import TermRef.Proofs.Reference.Bracketed
import TermRef.Proofs.Text.Pieces

namespace TermRef

open Pattern Grammar

/-! ### Heads and tails -/

/-- Heads and tails end in the line in which they begin. -/
structure Unbroken (Head Tail : List Char → Prop) : Prop where
  head : ∀ {w}, Head w → '\n' ∉ w
  tail : ∀ {w}, Tail w → '\n' ∉ w

theorem Mention.newline_not_mem_shown (m : Mention) : '\n' ∉ m.shown :=
  not_mem_of_all m.shown_isShown rfl

theorem standard_unbroken :
    Unbroken (fun w => ∃ m n, w = Mention.standardText m n) fun _ => False where
  head := by
    rintro _ ⟨m, n, rfl⟩
    simp [Mention.standardText, m.newline_not_mem_shown, n.not_mem_text (x := '\n') (by decide),
      m.origin.not_mem_text (x := '\n') (by decide)]
  tail := fun ht => ht.elim

theorem alternate_unbroken :
    Unbroken (fun w => ∃ m, w = Mention.headText m) fun w => ∃ n, w = Naming.tailText n where
  head := by
    rintro _ ⟨m, rfl⟩
    simp [Mention.headText, m.newline_not_mem_shown, m.origin.not_mem_text (x := '\n') (by decide)]
  tail := by
    rintro _ ⟨n, rfl⟩
    simp [Naming.tailText, n.not_mem_text (x := '\n') (by decide)]

/-- The matches of a named grammar take heads and tails within a line. -/
theorem Grammar.unbroken_of_named {g : Grammar} (h : g = .standard ∨ g = .alternate) :
    ∃ Head Tail, g.Bracketed Head Tail ∧ Unbroken Head Tail := by
  rcases h with rfl | rfl
  · exact ⟨_, _, standard_bracketed, standard_unbroken⟩
  · exact ⟨_, _, alternate_bracketed, alternate_unbroken⟩

/-- What has no line feed and stands at the start of a line with what follows it, stands in the
line. -/
theorem prefix_line {w l x : List Char} (hx : x = [] ∨ ∃ r, x = '\n' :: r) (hw : '\n' ∉ w)
    (h : w <+: l ++ x) : w <+: l := by
  rcases hx with rfl | ⟨r, rfl⟩
  · rwa [List.append_nil] at h
  · exact prefix_of_not_mem hw h

/-! ### Places -/

/-- An occurrence as it is in a text with `n` more characters in front. -/
def Occurrence.movedBy (n : Nat) (o : Occurrence) : Occurrence :=
  { o with start := o.start + n, stop := o.stop + n }

/-- Parts of a text with their places, the first of which is `n`, when a character stands between
two of them. -/
def placedFrom : Nat → List (List Char) → List (Nat × List Char)
  | _, [] => []
  | n, l :: ls => (n, l) :: placedFrom (n + l.length + 1) ls

/-- The lines of a text with their places. -/
def placedLines (s : List Char) : List (Nat × List Char) := placedFrom 0 (Pieces.cut '\n' s)

/-- What a scan of a line alone picks, moved to the place of the line. -/
def Grammar.scanPlaced (g : Grammar) (p : Nat × List Char) : List Occurrence :=
  (g.scan (String.ofList p.2)).map (Occurrence.movedBy p.1)

/-! ### One line -/

namespace Grammar.Bracketed

variable {g : Grammar} {Head Tail : List Char → Prop} {c c' d : Cursor} {l w x : List Char}
  {os os' : List Occurrence}

/-- A match takes no line feed. -/
theorem newline_not_mem (hb : g.Bracketed Head Tail) (hu : Unbroken Head Tail)
    (h : g.Picks c os) : ∀ o ∈ os, '\n' ∉ o.text.toList := by
  induction h with
  | done => simp
  | pass _ _ _ ih => exact ih
  | @pick c d os hm hp _ ih =>
    intro o ho
    rcases List.mem_cons.mp ho with rfl | ho
    · obtain ⟨w, -, hr, -, -, htext⟩ := ahead_of_not_passedOver (Pattern.matchAt?_ahead hm) hp
      obtain ⟨h, t, hh, ht, hr', -⟩ := hb.took hm
      obtain rfl : w = h ++ t := List.append_cancel_right (hr.symm.trans hr')
      rw [Grammar.occurrence, htext, String.toList_ofList, List.mem_append, not_or]
      refine ⟨hu.head hh, ?_⟩
      rcases ht with rfl | ht
      · exact List.not_mem_nil
      · exact hu.tail ht
    · exact ih o ho

/-- What is picked is picked elsewhere too, where the same text stands `n` characters on, if what
follows it there begins with a tail only where it does here. -/
theorem pick_of_tails (hb : g.Bracketed Head Tail) (hm : g.pattern.matchAt? c' = some d)
    (hp : isPassedOver c' d = false) (hw : c'.rest = w ++ d.rest) (hr : c.rest = w ++ x)
    (htails : ∀ t, Tail t → t <+: x → t <+: d.rest) {n : Nat} (hpos : c.pos = c'.pos + n)
    (he : isEscaped c = isEscaped c') (hg : c.groups = []) (hrest : g.Picks (c.past w x) os) :
    g.Picks c ((g.occurrence c' d).movedBy n :: os) := by
  obtain ⟨d', hd', hp', rfl, hbefore, hposd', hocc⟩ := hb.picked_again hm hp hw hr htails he
  have hposd : d.pos = c'.pos + w.length := by
    obtain ⟨v, hv, -, hpos⟩ := Pattern.matchAt?_ahead hm
    rw [hpos, List.append_cancel_right (hw.symm.trans hv)]
  have hmoved : g.occurrence c d' = (g.occurrence c' d).movedBy n := by
    rw [hocc]
    simp only [Grammar.occurrence, Occurrence.movedBy, hpos, hposd, Nat.add_right_comm]
  have hpast : d'.clear = c.past w d'.rest := by
    simp [Cursor.past, Cursor.clear, hg, hbefore, hposd']
  rw [← hmoved]
  exact .pick hd' hp' (hpast ▸ hrest)

/-- **In a line of a text a scan picks what it picks in the line alone**, moved by the place of
the line, and then what follows the line. -/
theorem picks_line (hb : g.Bracketed Head Tail) (hu : Unbroken Head Tail)
    (hx : x = [] ∨ ∃ r, x = '\n' :: r) (h : g.Picks c' os') {n : Nat} (hpos : c.pos = c'.pos + n)
    (hr : c.rest = c'.rest ++ x) (he : isEscaped c = isEscaped c') (hg : c.groups = [])
    (hrest : g.Picks (c.past c'.rest x) os) :
    g.Picks c (os'.map (Occurrence.movedBy n) ++ os) := by
  induction h generalizing c with
  | done hnil =>
    rw [hnil, List.nil_append] at hr
    rw [hnil, ← hr, Cursor.past_nil] at hrest
    exact hrest
  | @pass c' a r os' hr' hp _ ih =>
    rw [hr'] at hr hrest
    -- a head here is one that the line has here
    have hheads : ∀ h, Head h → h <+: c.rest → ∃ h', Head h' ∧ h' <+: c'.rest := fun h hh hpre =>
      ⟨h, hh, by rw [hr']; exact prefix_line hx (hu.head hh) (hr ▸ hpre)⟩
    refine .pass hr (hb.isPassedOver_of_heads hheads he hp) (ih ?_ rfl rfl hg ?_)
    · rw [Cursor.past_pos, Cursor.past_pos, hpos]
      omega
    · rwa [Cursor.past_rest, Cursor.past_past]
  | @pick c' d' os' hm hp _ ih =>
    obtain ⟨w, -, hw, -, hpos', -⟩ := ahead_of_not_passedOver (Pattern.matchAt?_ahead hm) hp
    rw [hw, List.append_assoc] at hr
    refine hb.pick_of_tails hm hp hw hr (fun t ht => prefix_line hx (hu.tail ht)) hpos he hg
      (ih ?_ rfl ?_ hg ?_)
    · rw [Cursor.past_pos, Cursor.clear_pos]
      omega
    · exact (hb.isEscaped_past hm hp hw c _).trans (hb.closed hm).symm
    · rwa [Cursor.past_past, Cursor.clear_rest, ← hw]

/-- Where the same text is left, the same is picked, moved by what is in front. -/
theorem picks_moved (hb : g.Bracketed Head Tail) (hu : Unbroken Head Tail) (h : g.Picks c' os')
    {n : Nat} (hpos : c.pos = c'.pos + n) (hr : c.rest = c'.rest) (he : isEscaped c = isEscaped c')
    (hg : c.groups = []) : g.Picks c (os'.map (Occurrence.movedBy n)) := by
  have hline := hb.picks_line hu (.inl rfl) h hpos (by rw [hr, List.append_nil]) he hg (.done rfl)
  rwa [List.append_nil] at hline

/-! ### All lines -/

/-- **A scan picks line by line**, each line as though it were alone. -/
theorem picks_lines (hb : g.Bracketed Head Tail) (hu : Unbroken Head Tail) {s : List Char}
    (hr : c.rest = s) (he : isEscaped c = false) (hg : c.groups = []) :
    g.Picks c ((placedFrom c.pos (Pieces.cut '\n' s)).flatMap g.scanPlaced) := by
  have alone : ∀ l : List Char, g.Picks (.ofText l) (g.scan (String.ofList l)) := fun l => by
    simpa using g.picks_scan (String.ofList l)
  induction s using Pieces.cut_induction '\n' generalizing c with
  | last l hl =>
    rw [Pieces.cut_of_not_mem hl]
    refine hb.picks_line hu (.inl rfl) (alone l) (Nat.zero_add _).symm ?_ he hg (.done rfl)
    rw [hr, Cursor.ofText_rest, List.append_nil]
  | more l r hl ih =>
    rw [Pieces.cut_append_cons hl]
    refine hb.picks_line hu (.inr ⟨r, rfl⟩) (alone l) (Nat.zero_add _).symm hr he hg ?_
    -- the line feed is passed by, and the next line begins after it
    refine hb.picks_past (l := ['\n']) (x := r) (.of_not_mem (by decide)) rfl ?_
    rw [Cursor.past_past]
    have hnext := ih (c := c.past (l ++ ['\n']) r) rfl (by simp [isEscaped, isEscape]) hg
    rw [Cursor.past_pos, List.length_append, List.length_singleton, ← Nat.add_assoc] at hnext
    exact hnext

theorem scan_lines (hb : g.Bracketed Head Tail) (hu : Unbroken Head Tail) (s : String) :
    g.scan s = (placedLines s.toList).flatMap g.scanPlaced :=
  (hb.picks_lines hu (c := .ofText s.toList) rfl rfl rfl).eq_scan

end Grammar.Bracketed

end TermRef
