/-
TermRef/Proofs/Reference/Greedy.lean

A scan is the greedy choice from the left.

`Grammar.Selects g s os` says what a choice of references in the text `s` is like that is made
greedily, without a word on how it is made.  Each reference is a match of the pattern at its
place that takes a character and is not escaped, the references do not overlap, and there is no
other match of this kind that begins outside of all of them.  One choice is like this, that of
the scan (`scan_selects_greedily`).  Two choices have the same references, because the first one
that only one of them had would have to begin within an earlier reference of the other, which
they have in common (`Selects.mem_of_mem`).

`Rounds` is the loop of a scan without its fuel.  It comes to an end from every place: a round
goes on behind a match that takes a character or behind the next character
(`round?_advances`), and so enough fuel is that of the rounds there are (`rounds_scanFrom`).

The grammar is arbitrary, and so is the pattern: it may match nothing at all, or the empty text.
-/
import Mathlib.Data.List.Sort
import TermRef.Proofs.Reference.Scan

namespace TermRef

open Pattern

/-! ### Places of a text -/

/-- The place is one of the text `s`. -/
def Pattern.Cursor.In (c : Cursor) (s : List Char) : Prop :=
  s = c.before.reverse ++ c.rest ∧ c.pos = c.before.length

/-- A backslash or a backtick stands right before position `i` of a text. -/
def EscapedAt (s : List Char) (i : Nat) : Prop :=
  ∃ u x v, s = u ++ x :: v ∧ isEscape x = true ∧ i = u.length + 1

namespace Pattern.Cursor.In

variable {c d : Cursor} {s : List Char}

theorem ofText (s : List Char) : (ofText s).In s := ⟨rfl, rfl⟩

theorem inText (s : List Char) (i : Nat) : (inText s i).In s := by
  simp [In, Cursor.inText]

theorem ahead (h : c.In s) (hd : c.Ahead d) : d.In s := by
  obtain ⟨w, hr, hb, hp⟩ := hd
  refine ⟨?_, ?_⟩
  · rw [h.1, hr, hb, List.reverse_append, List.reverse_reverse, List.append_assoc]
  · rw [hp, hb, h.2, List.length_append, List.length_reverse, Nat.add_comm]

theorem pos_add_length (h : c.In s) : c.pos + c.rest.length = s.length := by
  rw [h.1, h.2, List.length_append, List.length_reverse]

/-- Of the groups apart, a place is settled by its position. -/
theorem inText_pos (h : c.In s) : Cursor.inText s c.pos = c.clear := by
  obtain ⟨rfl, hpos⟩ := h
  have hlen : c.before.reverse.length = c.pos := by rw [hpos, List.length_reverse]
  rw [Cursor.inText, List.take_left' hlen, List.drop_left' hlen, List.reverse_reverse, hlen]
  rfl

theorem matchAt?_inText (h : c.In s) (p : TermRef.Pattern) :
    p.matchAt? (Cursor.inText s c.pos) = p.matchAt? c := by
  rw [h.inText_pos]
  rfl

theorem isEscaped_iff (h : c.In s) : isEscaped c = true ↔ EscapedAt s c.pos := by
  obtain ⟨hs, hpos⟩ := h
  rw [isEscaped]
  constructor
  · intro he
    rcases hb : c.before with - | ⟨x, b⟩
    · rw [hb] at he
      cases he
    · rw [hb] at he hs hpos
      exact ⟨b.reverse, x, c.rest, by simpa using hs, he, by simpa using hpos⟩
  · rintro ⟨u, x, v, hs', hx, hi⟩
    have hlen : c.before.reverse.length = (u ++ [x]).length := by
      rw [List.length_reverse, ← hpos, hi, List.length_append, List.length_singleton]
    rw [hs, ← List.singleton_append, ← List.append_assoc] at hs'
    have hbefore : c.before = x :: u.reverse := by
      rw [← List.reverse_reverse c.before, (List.append_inj hs' hlen).1, List.reverse_append]
      rfl
    rw [hbefore]
    exact hx

end Pattern.Cursor.In

/-! ### Rounds -/

/-- One round of a scan: what it comes upon, and the place where the next round begins, if there
is to be one. -/
def Grammar.round? (g : Grammar) (c : Cursor) : Option (List Finding × Option Cursor) :=
  (g.pattern.search? c).map fun p =>
    if isPassedOver p.1 p.2 then (passedOver p.1 p.2, p.1.next?.map Prod.snd)
    else ([.found (g.occurrence p.1 p.2)], some p.2.clear)

/-- What the rounds of a scan come upon, up to the last. -/
inductive Grammar.Rounds (g : Grammar) : Cursor → List Finding → Prop
  /-- Nothing is found any more. -/
  | over {c} : g.round? c = none → g.Rounds c []
  /-- The text ends with what is found. -/
  | last {c fs} : g.round? c = some (fs, none) → g.Rounds c fs
  /-- After this round there is another one. -/
  | more {c fs d fs'} : g.round? c = some (fs, some d) → g.Rounds d fs' → g.Rounds c (fs ++ fs')

variable {g : Grammar} {c d : Cursor} {s : List Char} {os os' : List Occurrence} {o : Occurrence}

/-- A scan with fuel for one more round does this round, and goes on where it ends. -/
theorem scanFrom_succ (g : Grammar) (fuel : Nat) (c : Cursor) :
    g.scanFrom (fuel + 1) c = match g.round? c with
      | none => []
      | some (fs, none) => fs
      | some (fs, some d) => fs ++ g.scanFrom fuel d := by
  rw [Grammar.scanFrom, Grammar.round?]
  rcases g.pattern.search? c with - | ⟨a, d⟩
  · rfl
  · rcases hp : isPassedOver a d with - | -
    · simp [hp]
    · rcases hn : a.next? with - | ⟨x, e⟩ <;> simp [hp, hn]

/-- **A round goes on ahead**, by a character at least. -/
theorem round?_advances {fs : List Finding} (h : g.round? c = some (fs, some d)) :
    d.rest.length < c.rest.length := by
  obtain ⟨⟨a, e⟩, hsearch, hround⟩ := Option.map_eq_some_iff.mp h
  obtain ⟨⟨w, hw, -⟩, hm⟩ := Pattern.search?_ahead hsearch
  rw [hw, List.length_append]
  rcases hp : isPassedOver a e with - | -
  · -- behind a match that takes a character
    obtain ⟨v, hv, hr, -⟩ := ahead_of_not_passedOver (Pattern.matchAt?_ahead hm) hp
    have hlen : 0 < v.length := List.length_pos_iff.mpr hv
    simp only [hp, Bool.false_eq_true, if_false, Prod.mk.injEq, Option.some.injEq] at hround
    rw [← hround.2, hr, Cursor.clear_rest, List.length_append]
    omega
  · -- behind the next character
    simp only [hp, if_true, Prod.mk.injEq] at hround
    obtain ⟨⟨x, b⟩, hb, rfl⟩ := Option.map_eq_some_iff.mp hround.2
    obtain ⟨r, hr, rfl⟩ := Cursor.next?_eq_some hb
    rw [hr, Cursor.past_rest, List.length_cons]
    omega

/-- **A scan comes to its end**: with one more fuel than there are characters left it does all the
rounds that there are. -/
theorem rounds_scanFrom {fuel : Nat} (h : c.rest.length < fuel) :
    g.Rounds c (g.scanFrom fuel c) := by
  induction fuel generalizing c with
  | zero => cases h
  | succ fuel ih =>
    rw [scanFrom_succ]
    rcases hround : g.round? c with - | ⟨fs, - | d⟩
    · exact .over hround
    · exact .last hround
    · exact .more hround (ih (Nat.lt_of_lt_of_le (round?_advances hround) (Nat.le_of_lt_succ h)))

/-! ### Greedy choices -/

/-- The references `os` are chosen greedily from the left in the text `s`. -/
structure Grammar.Selects (g : Grammar) (s : List Char) (os : List Occurrence) : Prop where
  /-- The pattern matches at each reference, and the reference is what it takes there. -/
  matched : ∀ o ∈ os, ∃ d, g.pattern.matchAt? (.inText s o.start) = some d ∧ o.stop = d.pos ∧
    o.reference = g.interpret d
  text : ∀ o ∈ os, o.text.toList = (s.take o.stop).drop o.start
  within : ∀ o ∈ os, o.start < o.stop ∧ o.stop ≤ s.length
  unescaped : ∀ o ∈ os, ¬ EscapedAt s o.start
  apart : os.Pairwise fun o p => o.stop ≤ p.start
  /-- Where the pattern takes characters and nothing is escaped, a reference begins, or is under
  way. -/
  complete : ∀ i d, g.pattern.matchAt? (.inText s i) = some d → i < d.pos → ¬ EscapedAt s i →
    ∃ o ∈ os, i = o.start ∨ (o.start < i ∧ i < o.stop)

/-! ### The choice of a scan -/

namespace Grammar.Picks

/-- **Nothing is missed**: what matches further on is picked, or lies in what is picked. -/
theorem complete (h : g.Picks c os) (hc : c.In s) {i : Nat} (hi : c.pos ≤ i)
    (hd : g.pattern.matchAt? (.inText s i) = some d) (hlt : i < d.pos) (he : ¬ EscapedAt s i) :
    ∃ o ∈ os, i = o.start ∨ (o.start < i ∧ i < o.stop) := by
  induction h with
  | @done c hr =>
    -- behind the end of the text there is nothing to take
    have hc' := hc.pos_add_length
    have hd' := ((Cursor.In.inText s i).ahead (Pattern.matchAt?_ahead hd)).pos_add_length
    rw [hr, List.length_nil] at hc'
    omega
  | @pass c x r os hr hp _ ih =>
    rcases Nat.eq_or_lt_of_le hi with rfl | hi
    · -- what begins here and takes characters would not have been passed over
      rw [hc.matchAt?_inText] at hd
      have hpassed := hp d hd
      rw [isPassedOver, Bool.or_eq_true, beq_iff_eq] at hpassed
      rcases hpassed with hpos | hescaped
      · omega
      · exact absurd (hc.isEscaped_iff.mp hescaped) he
    · exact ih (hc.ahead (.past hr)) hi
  | @pick c e os hm hp _ ih =>
    by_cases hstop : i < e.pos
    · refine ⟨g.occurrence c e, List.mem_cons_self, ?_⟩
      rcases Nat.eq_or_lt_of_le hi with rfl | hi
      · exact .inl rfl
      · exact .inr ⟨hi, hstop⟩
    · have he' : e.clear.In s := hc.ahead ((Pattern.matchAt?_ahead hm).trans (.clear e))
      obtain ⟨o, ho, hin⟩ := ih he' (Nat.le_of_not_lt hstop)
      exact ⟨o, List.mem_cons_of_mem _ ho, hin⟩

/-- What is picked from a text is chosen greedily. -/
theorem selects (h : g.Picks (.ofText s) os) : g.Selects s os := by
  have hplace : ∀ o ∈ os, ∃ a d, a.In s ∧ g.pattern.matchAt? a = some d ∧
      isPassedOver a d = false ∧ o = g.occurrence a d := fun o ho => by
    obtain ⟨a, d, ha, hd⟩ := h.exists_match o ho
    exact ⟨a, d, (Cursor.In.ofText s).ahead ha, hd⟩
  refine ⟨fun o ho => ?_, fun o ho => ?_, fun o ho => ?_, fun o ho => ?_, h.ordered.2,
    fun i d => h.complete (.ofText s) (Nat.zero_le i)⟩
  · obtain ⟨a, d, ha, hm, -, rfl⟩ := hplace o ho
    exact ⟨d, (ha.matchAt?_inText g.pattern).trans hm, rfl, rfl⟩
  · obtain ⟨a, d, ha, hm, hp, rfl⟩ := hplace o ho
    obtain ⟨w, -, hr, -, hpos, htext⟩ := ahead_of_not_passedOver (Pattern.matchAt?_ahead hm) hp
    simp only [Grammar.occurrence, String.toList_ofList, htext]
    have hbefore : a.before.reverse.length = a.pos := by rw [ha.2, List.length_reverse]
    have hsplit : s = (a.before.reverse ++ w) ++ d.rest := by
      rw [ha.1, hr, List.append_assoc]
    rw [hsplit, List.take_left' (by rw [List.length_append, hbefore, hpos]),
      List.drop_left' hbefore]
  · obtain ⟨-, hlt, hle⟩ := h.ordered.1 o ho
    exact ⟨hlt, by rwa [(Cursor.In.ofText s).pos_add_length] at hle⟩
  · obtain ⟨a, d, ha, hm, hp, rfl⟩ := hplace o ho
    rw [isPassedOver, Bool.or_eq_false_iff] at hp
    exact fun he => by simp [ha.isEscaped_iff.mpr he] at hp

end Grammar.Picks

/-! ### There is no other choice -/

namespace Grammar.Selects

/-- References that begin at one place are one. -/
theorem eq_of_start (h : g.Selects s os) (h' : g.Selects s os') {p : Occurrence} (ho : o ∈ os)
    (hp : p ∈ os') (heq : o.start = p.start) : o = p := by
  obtain ⟨d, hd, hstop, href⟩ := h.matched o ho
  obtain ⟨d', hd', hstop', href'⟩ := h'.matched p hp
  obtain rfl : d = d' := Option.some.inj (hd.symm.trans (heq ▸ hd'))
  have hstops : o.stop = p.stop := hstop.trans hstop'.symm
  have htext : o.text = p.text := by
    rw [← String.toList_inj, h.text o ho, h'.text p hp, heq, hstops]
  rcases o with ⟨start, stop, text, ref⟩
  rcases p with ⟨start', stop', text', ref'⟩
  simp_all

theorem strict (h : g.Selects s os) : os.Pairwise fun o p => o.start < p.start :=
  (List.Pairwise.and_mem.mp h.apart).imp fun ⟨ho, _, hle⟩ =>
    Nat.lt_of_lt_of_le (h.within _ ho).1 hle

/-- No reference begins within another. -/
theorem not_within (h : g.Selects s os) {p : Occurrence} (ho : o ∈ os) (hp : p ∈ os) :
    ¬ (o.start < p.start ∧ p.start < o.stop) := by
  refine List.Pairwise.forall_of_forall_of_flip (R := fun o p : Occurrence =>
    ¬ (o.start < p.start ∧ p.start < o.stop)) (fun x _ => ?_) (h.apart.imp ?_) (h.strict.imp ?_)
    ho hp
  · exact fun hin => Nat.lt_irrefl _ hin.1
  · exact fun hle hin => Nat.not_lt.mpr hle hin.2
  · exact fun hlt hin => Nat.lt_asymm hlt hin.1

/-- What one greedy choice has, another has. -/
theorem mem_of_mem (h : g.Selects s os) (h' : g.Selects s os') (ho : o ∈ os) : o ∈ os' := by
  induction hn : o.start using Nat.strongRecOn generalizing o os os' with
  | ind n ih =>
    obtain ⟨d, hd, hstop, -⟩ := h.matched o ho
    obtain ⟨p, hp, hin⟩ := h'.complete o.start d hd (hstop ▸ (h.within o ho).1) (h.unescaped o ho)
    rcases hin with heq | hin
    · rwa [h.eq_of_start h' ho hp heq]
    · -- an earlier reference of the other choice is one of this choice too
      exact absurd hin (h.not_within (ih p.start (hn ▸ hin.1) h' h hp rfl) ho)

/-- **There is one greedy choice.** -/
theorem unique (h : g.Selects s os) (h' : g.Selects s os') : os = os' := by
  have : Std.Irrefl fun o p : Occurrence => o.start < p.start := ⟨fun _ => Nat.lt_irrefl _⟩
  have : Std.Antisymm fun o p : Occurrence => o.start < p.start :=
    ⟨fun _ _ hlt hlt' => absurd hlt (Nat.lt_asymm hlt')⟩
  exact h.strict.eq_of_mem_iff h'.strict fun o => ⟨h.mem_of_mem h', h'.mem_of_mem h⟩

end Grammar.Selects

/-- **A scan is the greedy choice from the left**, and comes to its end. -/
theorem Grammar.scan_selects_greedily (g : Grammar) (s : String) :
    g.Rounds (.ofText s.toList) (g.findings s) ∧
      ∀ os, g.Selects s.toList os ↔ os = g.scan s := by
  have hscan : g.Selects s.toList (g.scan s) := (g.picks_scan s).selects
  refine ⟨rounds_scanFrom ?_, fun os => ⟨fun h => h.unique hscan, fun h => h ▸ hscan⟩⟩
  rw [Cursor.ofText_rest, String.length_toList]
  exact Nat.lt_succ_self _

end TermRef
