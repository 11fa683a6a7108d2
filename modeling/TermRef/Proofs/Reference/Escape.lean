/-
TermRef/Proofs/Reference/Escape.lean

Putting an escape in front of a reference.

A backslash or a backtick put right before a reference takes back this reference only.  The
references before it stay where they are, and those behind it move by one character.  In its
place there is one reference at most, which begins at a bracket among the words shown and ends
where the reference ended; without such a bracket there is none.

In front of the reference, a head that runs over the new character has it among its words,
because the bracket behind it is a bracket of words too; and words without it are words again, so
a head was there before (`Worded.head_of_marked`).  It was passed over, and is so again.

Within the reference a scan goes on behind the bracket that is escaped now.  What it picks there
has the end of the reference for its own end (`Worded.rest_of_inner`), because from an inner
bracket on a head is a head.  So whether it picks something or not, it comes to the end of the
reference, where it stood before (`Grammar.Bracketed.picks_within`).
-/
import Mathlib.Tactic.Tauto
import TermRef.Proofs.Reference.Lines
import TermRef.Proofs.Reference.Words

namespace TermRef

open Pattern Grammar

variable {g : Grammar} {mark e : Char} {Head Tail : List Char → Prop} {c d d' k : Cursor}
  {p q u v : List Char} {os before after : List Occurrence} {o : Occurrence}

theorem ne_bracket_of_isEscape (he : isEscape e = true) : e ≠ '[' := by
  rintro rfl
  cases he

/-! ### Heads and tails over a new character -/

namespace Worded

/-- A head that runs over an escape in front of a bracket is a head without it. -/
theorem head_of_marked (hw : Worded mark Head Tail) (hb : g.Bracketed Head Tail)
    (he : isEscape e = true) {h : List Char} (hh : Head h) (hp : h <+: u ++ e :: '[' :: v) :
    ∃ h', Head h' ∧ h' <+: u ++ '[' :: v := by
  obtain ⟨r, hr⟩ := hp
  rcases List.append_eq_append_iff.mp hr with ⟨t, rfl, -⟩ | ⟨t, rfl, ht⟩
  · exact ⟨h, hh, by simp⟩
  · -- the head ends right before the escape, with it, or behind the bracket
    rcases t with - | ⟨x, - | ⟨y, t⟩⟩
    · exact ⟨u, by simpa using hh, by simp⟩
    · -- no head ends in an escape
      obtain ⟨rfl, -⟩ := List.cons.inj ht
      have hlast := hb.isEscape_last hh (.inl rfl) (List.append_nil _)
      rw [he] at hlast
      cases hlast
    · obtain ⟨rfl, htail⟩ := List.cons.inj ht
      obtain ⟨rfl, rfl⟩ := List.cons.inj htail
      obtain ⟨shown, w, heq, -, hshown, hv⟩ := hw.split hh
      rcases u with - | ⟨z, u⟩
      · exact absurd (List.cons.inj heq).1 (ne_bracket_of_isEscape he)
      · -- the bracket is among the words, and so is the escape
        obtain ⟨rfl, hwords⟩ := List.cons.inj heq
        obtain ⟨s, rfl, rfl⟩ := append_eq_append_of_not_mem (p := u ++ [e]) (not_mem_rest hv)
          (by simpa using hwords.symm)
        have hshown' : ∀ c ∈ u ++ '[' :: s, isShown c = true := fun c hc =>
          hshown c (by simp only [List.mem_append, List.mem_cons] at hc ⊢; tauto)
        rw [heq] at hh
        exact ⟨_, hw.reword hh hshown (by simp) hshown', r, by simp⟩

/-- Behind a match, a tail does not run over an escape in front of a bracket. -/
theorem tail_of_marked (hb : g.Bracketed Head Tail) (he : isEscape e = true)
    (hd : g.pattern.matchAt? c = some d) {t : List Char} (ht : Tail t)
    (hp : t <+: u ++ e :: '[' :: v) : t <+: u := by
  have hp : t <+: u ++ [e] := by
    refine prefix_of_not_mem (hb.not_mem_tail ht) (r := v) ?_
    rwa [List.append_assoc]
  rcases List.prefix_concat_iff.mp hp with rfl | hp
  · obtain ⟨h, -, hh, -⟩ := hb.took hd
    have hlast := hb.isEscape_last hh (.inr ht) (List.append_assoc h u [e]).symm
    rw [he] at hlast
    cases hlast
  · exact hp

/-- **A match within a match ends where it does**, in whatever text the rest of it stands. -/
theorem rest_of_inner (hw : Worded mark Head Tail) (hb : g.Bracketed Head Tail)
    (hd : g.pattern.matchAt? c = some d) (hc : c.rest = p ++ q ++ d.rest) (hq : q ≠ [])
    (hd' : g.pattern.matchAt? k = some d') (hk : k.rest = q ++ d.rest) : d'.rest = d.rest := by
  obtain ⟨h, t, hh, ht, hr, hlast⟩ := hb.took hd
  obtain ⟨h', t', hh', ht', hr', hlast'⟩ := hb.took hd'
  rw [hr', List.append_assoc] at hk
  have hsplit : h ++ t = p ++ q := List.append_cancel_right (hr.symm.trans hc)
  obtain ⟨-, htail⟩ := hw.split_of_inner hb hh ht hsplit hq hh' hk
  exact (hb.rest_unique ht ht' hlast hlast' htail.symm).symm

end Worded

/-! ### Behind the escaped bracket -/

/-- What may be left of `o` behind an escape: an occurrence that begins at a bracket among the
words shown, which come after the first character, and ends with `o`.  The escape is a character
more in front of both places. -/
structure Occurrence.Remnant (o n : Occurrence) : Prop where
  start : ∃ k, o.reference.showtext.toList[k]? = some '[' ∧ n.start = o.start + 1 + k + 1
  stop : n.stop = o.stop + 1

namespace Grammar.Bracketed

/-- From a place within a match on, one reference at most is picked up to its end, and what follows
is picked as before. -/
theorem picks_within (hb : g.Bracketed Head Tail) (hw : Worded mark Head Tail)
    (hu : Unbroken Head Tail) (hd : g.pattern.matchAt? c = some d)
    (hp : isPassedOver c d = false) (hos : g.Picks d.clear os) {n : Nat} (hg : k.groups = [])
    (hpos : k.pos = c.pos + n) (hc : c.rest = p ++ q ++ d.rest) :
    ∃ mid, g.Picks (k.past p (q ++ d.rest)) (mid ++ os.map (Occurrence.movedBy n)) ∧
      mid.length ≤ 1 ∧ ∀ m ∈ mid, ∃ u v, q = u ++ '[' :: v ∧
        m.start = k.pos + p.length + u.length ∧ m.stop = d.pos + n := by
  have hposd : d.pos = c.pos + (p ++ q).length := by
    obtain ⟨w, hw, -, hpos⟩ := Pattern.matchAt?_ahead hd
    rw [hpos, List.append_cancel_right (hw.symm.trans hc)]
  -- from any place at the end of the match on, the same is picked as from its own end
  have hend : ∀ {a : Cursor}, a.rest = d.rest → a.pos = d.pos + n → isEscaped a = false →
      a.groups = [] → g.Picks a (os.map (Occurrence.movedBy n)) := fun ha hpos hesc hg =>
    hb.picks_moved hu hos hpos ha (hesc.trans (hb.closed hd).symm) hg
  -- the scan has passed by `p`, and `q` is what is left of the match
  induction q generalizing p with
  | nil =>
    rw [List.append_nil] at hc hposd
    refine ⟨[], hend rfl ?_ (hb.isEscaped_past hd hp hc k _) hg, by simp⟩
    rw [Cursor.past_pos]
    omega
  | cons x q ih =>
    by_cases hpick : ∃ d', g.pattern.matchAt? (k.past p (x :: q ++ d.rest)) = some d' ∧
        isPassedOver (k.past p (x :: q ++ d.rest)) d' = false
    · obtain ⟨d', hd', hp'⟩ := hpick
      -- what is picked here ends with the match
      have hrest' := hw.rest_of_inner hb hd hc (List.cons_ne_nil x q) hd' rfl
      obtain ⟨y, -, hy, -, hposd', -⟩ := ahead_of_not_passedOver (Pattern.matchAt?_ahead hd') hp'
      obtain rfl : x :: q = y := List.append_cancel_right (hy.trans (by rw [hrest']))
      have hstop : d'.pos = d.pos + n := by
        rw [hposd', hposd, Cursor.past_pos, List.length_append]
        omega
      obtain ⟨r, hr⟩ := hb.bracket hd'
      obtain rfl : x = '[' := (List.cons.inj hr).1
      refine ⟨[_], .pick hd' hp' (hend hrest' hstop (hb.closed (d := d') hd') rfl), by simp, ?_⟩
      simp only [List.mem_singleton, forall_eq]
      exact ⟨[], q, rfl, rfl, hstop⟩
    · have hsplit : p ++ x :: q = p ++ [x] ++ q := by simp
      obtain ⟨mid, hmid, hlen, hin⟩ := ih (by rw [← hsplit, hc]) (by rw [← hsplit, hposd])
      refine ⟨mid, .pass rfl (fun d' hd' => ?_) ?_, hlen, fun m hm => ?_⟩
      · exact eq_true_of_ne_false fun hp' => hpick ⟨d', hd', hp'⟩
      · rwa [Cursor.past_past]
      · obtain ⟨u, v, rfl, hstart, hstop⟩ := hin m hm
        refine ⟨x :: u, v, rfl, ?_, hstop⟩
        rw [hstart]
        simp only [List.length_append, List.length_cons, List.length_nil]
        omega

end Grammar.Bracketed

/-! ### The whole scan -/

/-- The matches of a named grammar take heads that are made of words, within a line. -/
theorem Grammar.heads_of_named (hg : g = .standard ∨ g = .alternate) : ∃ mark Head Tail,
    g.Bracketed Head Tail ∧ Worded mark Head Tail ∧ Unbroken Head Tail := by
  rcases hg with rfl | rfl
  · exact ⟨_, _, _, standard_bracketed, standard_worded, standard_unbroken⟩
  · exact ⟨_, _, _, alternate_bracketed, alternate_worded, alternate_unbroken⟩

/-- What a reference of a named grammar shows stands behind its first bracket, and opens all the
brackets that follow. -/
theorem Grammar.shown_of_named (hg : g = .standard ∨ g = .alternate)
    (hd : g.pattern.matchAt? c = some d) :
    ∃ w, c.rest = ['['] ++ ((g.interpret d).showtext.toList ++ w) ++ d.rest ∧ '[' ∉ w := by
  rcases hg with rfl | rfl
  · obtain ⟨m, n, hr, href⟩ := standard_matchAt?_eq_some hd
    refine ⟨']' :: '(' :: (n.text ++ '@' :: (m.origin.text ++ [')'])), ?_, ?_⟩
    · simp [hr, href, Mention.standardText, Mention.reference]
    · simp [n.not_mem_text (x := '[') (by decide), m.origin.not_mem_text (x := '[') (by decide)]
  · obtain ⟨m, t, took, href, -⟩ := alternate_matchAt?_eq_some hd
    refine ⟨'@' :: (m.origin.text ++ ']' :: t.elim [] Naming.tailText), ?_, ?_⟩
    · simp [took.rest, href, Mention.alternateText, Mention.headText, Mention.reference]
    · rcases t with - | n
      · simp [m.origin.not_mem_text (x := '[') (by decide)]
      · simp [m.origin.not_mem_text (x := '[') (by decide), Naming.tailText,
          n.not_mem_text (x := '[') (by decide)]

namespace Grammar.Bracketed

/-- An escape right before a match: of the match one reference at most is left, and what follows it
is picked a character later. -/
theorem picks_escaped (hb : g.Bracketed Head Tail) (hw : Worded mark Head Tail)
    (hu : Unbroken Head Tail) (hnamed : g = .standard ∨ g = .alternate) (he : isEscape e = true)
    (hd : g.pattern.matchAt? c = some d) (hp : isPassedOver c d = false)
    (hos : g.Picks d.clear os) (hr : c.rest = '[' :: v) (hk : k.rest = e :: '[' :: v)
    (hpos : k.pos = c.pos) (hg : k.groups = []) :
    ∃ mid, g.Picks k (mid ++ os.map (Occurrence.movedBy 1)) ∧ mid.length ≤ 1 ∧
      ∀ m ∈ mid, (g.occurrence c d).Remnant m := by
  obtain ⟨w, hshown, hmem⟩ := shown_of_named hnamed hd
  obtain rfl : v = (g.interpret d).showtext.toList ++ w ++ d.rest := by
    simpa [hr] using hshown
  obtain ⟨mid, hmid, hlen, hin⟩ := hb.picks_within hw hu hd hp hos (n := 1)
    (k := k.past [e] ('[' :: ((g.interpret d).showtext.toList ++ w ++ d.rest))) hg
    (by rw [Cursor.past_pos, hpos]; rfl) hshown
  -- the escape is passed by, and the bracket is passed over
  have hescaped : ∀ d', g.pattern.matchAt? (k.past [e] ('[' :: ((g.interpret d).showtext.toList ++
      w ++ d.rest))) = some d' → isPassedOver (k.past [e] _) d' = true := fun d' hd' => by
    rw [hb.isPassedOver_eq hd']
    exact he
  have hquiet : '[' ∉ [e] := by simpa using (ne_bracket_of_isEscape he).symm
  refine ⟨mid, hb.picks_past (.of_not_mem hquiet) hk (.pass rfl hescaped hmid), hlen, ?_⟩
  intro m hm
  obtain ⟨p, q, hsplit, hstart, hstop⟩ := hin m hm
  obtain ⟨s, hs, -⟩ := append_eq_append_of_not_mem hmem hsplit
  refine ⟨⟨p.length, by simp [Grammar.occurrence, hs], ?_⟩, hstop⟩
  rw [hstart]
  simp only [Grammar.occurrence, Cursor.past_pos, List.length_singleton]
  omega

/-- An escape in front of the reference `o`, further on: what is picked before it is picked as it
was. -/
theorem picks_marked (hb : g.Bracketed Head Tail) (hw : Worded mark Head Tail)
    (hu : Unbroken Head Tail) (hnamed : g = .standard ∨ g = .alternate) (he : isEscape e = true)
    (h : g.Picks c os) (hos : os = before ++ o :: after) (hr : c.rest = u ++ '[' :: v)
    (ho : o.start = c.pos + u.length) (hk : k.rest = u ++ e :: '[' :: v) (hpos : k.pos = c.pos)
    (hesc : isEscaped k = isEscaped c) (hg : k.groups = []) :
    ∃ mid, g.Picks k (before ++ (mid ++ after.map (Occurrence.movedBy 1))) ∧
      mid.length ≤ 1 ∧ ∀ m ∈ mid, o.Remnant m := by
  -- the two scans go abreast, and `u` is what stands between them and the escape
  induction h generalizing k before u with
  | done => simp at hos
  | @pass c x r os hx hp hpicks ih =>
    have hlt := (hpicks.ordered.1 o (by simp [hos])).1
    rw [Cursor.past_pos, List.length_singleton] at hlt
    rcases u with - | ⟨y, u⟩
    · rw [List.length_nil] at ho
      omega
    · obtain ⟨rfl, rfl⟩ := List.cons.inj (hx.symm.trans hr)
      rw [List.length_cons] at ho
      -- a head here is one that was there before
      have hheads : ∀ h, Head h → h <+: k.rest → ∃ h', Head h' ∧ h' <+: c.rest :=
        fun h hh hpre => by
          rw [hr]
          exact hw.head_of_marked hb he hh (hk ▸ hpre)
      obtain ⟨mid, hmid, hin⟩ := ih (k := k.past [x] (u ++ e :: '[' :: v)) hos rfl
        (by rw [Cursor.past_pos, List.length_singleton]; omega) rfl (by simp [hpos]) rfl hg
      exact ⟨mid, .pass hk (hb.isPassedOver_of_heads hheads hesc hp) hmid, hin⟩
  | @pick c d os hm hp hpicks ih =>
    rcases before with - | ⟨b, before⟩
    · obtain ⟨rfl, rfl⟩ := List.cons.inj hos
      obtain rfl : u = [] := List.eq_nil_of_length_eq_zero (by simpa [Grammar.occurrence] using ho)
      exact hb.picks_escaped hw hu hnamed he hm hp hpicks hr hk hpos hg
    · -- a reference before `o` is picked where it was, and ends before the escape
      obtain ⟨rfl, rfl⟩ := List.cons.inj hos
      obtain ⟨w, -, hw', -, hposd, -⟩ := ahead_of_not_passedOver (Pattern.matchAt?_ahead hm) hp
      have hle := (hpicks.ordered.1 o (by simp)).1
      rw [Cursor.clear_pos, hposd, ho] at hle
      obtain ⟨u, rfl⟩ : w <+: u :=
        List.prefix_of_prefix_length_le ⟨_, hw'.symm⟩ ⟨_, hr.symm⟩ (Nat.le_of_add_le_add_left hle)
      rw [List.length_append] at ho
      rw [List.append_assoc] at hr hk
      have hrest : d.rest = u ++ '[' :: v := List.append_cancel_left (hw'.symm.trans hr)
      obtain ⟨mid, hmid, hin⟩ := ih (k := k.past w (u ++ e :: '[' :: v)) rfl hrest
        (by rw [Cursor.clear_pos, hposd, ho, Nat.add_assoc]) rfl (by simp [hpos, hposd])
        ((hb.isEscaped_past hm hp hw' k _).trans (hb.closed hm).symm) hg
      refine ⟨mid, ?_, hin⟩
      refine hb.pick_of_tails (n := 0) hm hp hw' hk (fun t ht hpre => ?_) hpos hesc hg hmid
      rw [hrest]
      exact (Worded.tail_of_marked hb he hm ht hpre).trans (List.prefix_append _ _)

end Grammar.Bracketed

/-- A text with a character put in at a place. -/
def putIn (e : Char) (n : Nat) (s : String) : String :=
  String.ofList (s.toList.take n ++ e :: s.toList.drop n)

/-- **An escape in front of a reference takes back this reference only.** -/
theorem Grammar.scan_putIn_escape (hg : g = .standard ∨ g = .alternate)
    (he : e = '\\' ∨ e = '\x60') {s : String} (h : g.scan s = before ++ o :: after) :
    ∃ mid, g.scan (putIn e o.start s) = before ++ (mid ++ after.map (Occurrence.movedBy 1)) ∧
      mid.length ≤ 1 ∧ (∀ n ∈ mid, o.Remnant n) ∧
      ('[' ∉ o.reference.showtext.toList → mid = []) := by
  obtain ⟨mark, Head, Tail, hb, hw, hu⟩ := heads_of_named hg
  have hpicks : g.Picks (.ofText s.toList) (g.scan s) := g.picks_scan s
  obtain ⟨u, v, hs, hstart⟩ : ∃ u v, s.toList = u ++ '[' :: v ∧ o.start = u.length := by
    obtain ⟨a, d, ⟨u, hr, -, hpos⟩, hd, -, rfl⟩ := hpicks.exists_match o (by simp [h])
    obtain ⟨v, hv⟩ := hb.bracket hd
    exact ⟨u, v, hv ▸ hr, hpos.trans (Nat.zero_add _)⟩
  have hput : (putIn e o.start s).toList = u ++ e :: '[' :: v := by
    simp [putIn, hs, hstart]
  have hescape : isEscape e = true := by
    rcases he with rfl | rfl <;> rfl
  obtain ⟨mid, hmid, hlen, hrem⟩ := hb.picks_marked hw hu hg hescape hpicks h hs
    (by rw [hstart]; exact (Nat.zero_add _).symm)
    (show (Cursor.ofText (putIn e o.start s).toList).rest = _ from hput) rfl rfl rfl
  refine ⟨mid, hmid.eq_scan, hlen, hrem, fun hno => List.eq_nil_iff_forall_not_mem.mpr ?_⟩
  intro n hn
  obtain ⟨k, hk, -⟩ := (hrem n hn).start
  exact hno (List.mem_of_getElem? hk)

/-- The second of three references has a bracket among its words, and behind an escape a reference
that begins there is left of it. -/
theorem Grammar.scan_putIn_escape_nested :
    ∃ o p q m, standard.scan "[x](@)[a [b](@)[y](@)" = [o, p, q] ∧
      putIn '\\' p.start "[x](@)[a [b](@)[y](@)" = "[x](@)\\[a [b](@)[y](@)" ∧
      standard.scan "[x](@)\\[a [b](@)[y](@)" = [o, m, q.movedBy 1] ∧ p.Remnant m := by
  refine ⟨⟨0, 6, "[x](@)", "x", "x", none, none, none⟩,
    ⟨6, 15, "[a [b](@)", "a [b", "a-b", none, none, none⟩,
    ⟨15, 21, "[y](@)", "y", "y", none, none, none⟩,
    ⟨10, 16, "[b](@)", "b", "b", none, none, none⟩, ?_⟩
  have hscan : standard.scan "[x](@)[a [b](@)[y](@)" =
      [⟨0, 6, "[x](@)", "x", "x", none, none, none⟩] ++
        ⟨6, 15, "[a [b](@)", "a [b", "a-b", none, none, none⟩ ::
          [⟨15, 21, "[y](@)", "y", "y", none, none, none⟩] := by decide +kernel
  obtain ⟨mid, hmid, -, hrem, -⟩ := scan_putIn_escape (e := '\\') (.inl rfl) (.inl rfl) hscan
  have hagain : standard.scan "[x](@)\\[a [b](@)[y](@)" =
      [⟨0, 6, "[x](@)", "x", "x", none, none, none⟩, ⟨10, 16, "[b](@)", "b", "b", none, none, none⟩,
        ⟨16, 22, "[y](@)", "y", "y", none, none, none⟩] := by decide +kernel
  have hput : putIn '\\' 6 "[x](@)[a [b](@)[y](@)" = "[x](@)\\[a [b](@)[y](@)" := by
    decide +kernel
  refine ⟨hscan, hput, hagain, hrem _ ?_⟩
  rw [hput, hagain] at hmid
  have hmid' := (List.cons.inj hmid).2
  rcases mid with - | ⟨m, mid⟩
  · cases hmid'
  · rw [(List.cons.inj hmid').1]
    exact List.mem_cons_self

end TermRef
