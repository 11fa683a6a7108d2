/-
TermRef/Proofs/Reference/Scan.lean

A scan, place by place.

`Grammar.Picks g c os` says which references a scan picks from a place on: at each
place it either picks what matches there and goes on at its end, or passes by a
character.  Searching and fuel are gone from this description; `picks_scan` says that a
scan follows it and `Picks.unique` that nothing else does, so facts about scans are
inductions over `Picks`.

The grammar is arbitrary here.  That a scan comes to its end needs only that a match
which is not passed over takes a character.
-/
import TermRef.Proofs.Pattern.Walk
import TermRef.Reference.Scan

namespace TermRef

open Pattern

/-- The references picked from a place on. -/
inductive Grammar.Picks (g : Grammar) : Cursor → List Occurrence → Prop
  /-- Nothing follows. -/
  | done {c} : c.rest = [] → g.Picks c []
  /-- Nothing is picked here, and the scan goes on after the next character. -/
  | pass {c x r os} : c.rest = x :: r →
      (∀ d, g.pattern.matchAt? c = some d → isPassedOver c d = true) →
      g.Picks (c.past [x] r) os → g.Picks c os
  /-- A match is picked, and the scan goes on after it. -/
  | pick {c d os} : g.pattern.matchAt? c = some d → isPassedOver c d = false →
      g.Picks d.clear os → g.Picks c (g.occurrence c d :: os)

variable {g : Grammar} {c d : Cursor} {os : List Occurrence}

/-- What is picked is a span of its text, and not an empty one. -/
theorem ahead_of_not_passedOver (h : c.Ahead d) (hp : isPassedOver c d = false) :
    ∃ w, w ≠ [] ∧ c.rest = w ++ d.rest ∧ d.before = w.reverse ++ c.before ∧
      d.pos = c.pos + w.length ∧ c.textFrom d = w := by
  obtain ⟨w, hr, hb, hpos⟩ := h
  refine ⟨w, ?_, hr, hb, hpos, ?_⟩
  · rintro rfl
    simp [isPassedOver, hpos] at hp
  · rw [Cursor.textFrom, hb, hpos, Nat.add_sub_cancel_left]
    simp

theorem occurrence?_passedOver (a b : Cursor) :
    (passedOver a b).filterMap Finding.occurrence? = [] := by
  unfold passedOver
  split <;> rfl

/-- A scan with enough fuel picks what `Picks` says. -/
theorem picks_scanFrom (fuel : Nat) (hg : c.groups = []) (hf : c.rest.length < fuel) :
    g.Picks c ((g.scanFrom fuel c).filterMap Finding.occurrence?) := by
  -- what is left of the text shrinks at every step, also while searching
  induction hn : c.rest.length using Nat.strongRecOn generalizing c fuel with
  | ind n ih =>
    obtain ⟨fuel, rfl⟩ : ∃ f, fuel = f + 1 := ⟨fuel - 1, by omega⟩
    have hclear : c.clear = c := by rw [Cursor.clear, ← hg]
    rcases hm : g.pattern.matchAt? c with - | d
    · rcases hr : c.rest with - | ⟨x, r⟩
      · have hnone : g.pattern.search? c = none := by
          rw [Pattern.search?_step, hm, Cursor.next?, hr]
        rw [Grammar.scanFrom, hnone]
        exact .done hr
      · have hstep : g.scanFrom (fuel + 1) c = g.scanFrom (fuel + 1) (c.past [x] r) := by
          have hs : g.pattern.search? c = g.pattern.search? (c.past [x] r) := by
            rw [Pattern.search?_step, hm, Cursor.next?_of_rest hr]
          rw [Grammar.scanFrom, Grammar.scanFrom, hs]
        rw [hstep]
        refine .pass hr (by simp [hm]) (ih r.length ?_ _ hg ?_ rfl)
        · rw [← hn, hr]
          simp
        · rw [hr, List.length_cons] at hf
          exact Nat.lt_of_succ_lt hf
    · have hsome : g.pattern.search? c = some (c, d) := by
        rw [Pattern.search?_step, hm, hclear]
      rw [Grammar.scanFrom, hsome]
      have hahead := Pattern.matchAt?_ahead hm
      rcases hp : isPassedOver c d with - | -
      · obtain ⟨w, hw, hr, -, -, -⟩ := ahead_of_not_passedOver hahead hp
        have hlen : d.clear.rest.length < c.rest.length := by
          rw [hr, List.length_append]
          have := List.length_pos_iff.mpr hw
          exact Nat.lt_add_of_pos_left this
        simp only [hp, Bool.false_eq_true, if_false, List.filterMap_cons, Finding.occurrence?]
        exact .pick hm hp (ih _ (hn ▸ hlen) _ rfl (by omega) rfl)
      · -- a match passed over may leave a note of an escape, but picks nothing
        rcases hr : c.rest with - | ⟨x, r⟩
        · simp only [hp, if_true, Cursor.next?, hr, List.append_nil, occurrence?_passedOver]
          exact .done hr
        · simp only [hp, if_true, Cursor.next?_of_rest hr, List.filterMap_append,
            occurrence?_passedOver, List.nil_append]
          rw [hr, List.length_cons] at hf hn
          refine .pass hr (fun e he => ?_) (ih r.length (by omega) _ hg ?_ rfl)
          · obtain rfl : d = e := Option.some.inj (hm.symm.trans he)
            exact hp
          · exact Nat.lt_of_succ_lt_succ hf

/-- **A scan picks place by place.** -/
theorem Grammar.picks_scan (g : Grammar) (s : String) : g.Picks (.ofText s.toList) (g.scan s) := by
  refine picks_scanFrom _ rfl ?_
  rw [show (Cursor.ofText s.toList).rest = s.toList from rfl, String.length_toList]
  exact Nat.lt_succ_self _

namespace Grammar.Picks

/-- What is picked is settled by the place. -/
theorem unique {os' : List Occurrence} (h : g.Picks c os) (h' : g.Picks c os') : os = os' := by
  induction h generalizing os' with
  | done hr =>
    cases h' with
    | done => rfl
    | pass hr' => rw [hr] at hr'; cases hr'
    | pick hm hp =>
      obtain ⟨w, hw, hr', -⟩ := ahead_of_not_passedOver (Pattern.matchAt?_ahead hm) hp
      rw [hr] at hr'
      exact absurd (List.append_eq_nil_iff.mp hr'.symm).1 hw
  | pass hr hp _ ih =>
    cases h' with
    | done hr' => rw [hr'] at hr; cases hr
    | pass hr' _ hrest =>
      obtain ⟨rfl, rfl⟩ := List.cons.inj (hr.symm.trans hr')
      exact ih hrest
    | pick hm hp' => rw [hp _ hm] at hp'; cases hp'
  | pick hm hp _ ih =>
    cases h' with
    | done hr =>
      obtain ⟨w, hw, hr', -⟩ := ahead_of_not_passedOver (Pattern.matchAt?_ahead hm) hp
      rw [hr] at hr'
      exact absurd (List.append_eq_nil_iff.mp hr'.symm).1 hw
    | pass _ hp' => rw [hp' _ hm] at hp; cases hp
    | pick hm' _ hrest =>
      obtain rfl := Option.some.inj (hm.symm.trans hm')
      rw [ih hrest]

theorem eq_scan {s : String} (h : g.Picks (.ofText s.toList) os) : g.scan s = os :=
  (g.picks_scan s).unique h

/-- What is picked lies ahead, within the text, in order and apart. -/
theorem ordered (h : g.Picks c os) :
    (∀ o ∈ os, c.pos ≤ o.start ∧ o.start < o.stop ∧ o.stop ≤ c.pos + c.rest.length) ∧
      os.Pairwise fun o p => o.stop ≤ p.start := by
  induction h with
  | done => simp
  | @pass c x r os hr _ _ ih =>
    refine ⟨fun o ho => ?_, ih.2⟩
    obtain ⟨h₁, h₂, h₃⟩ := ih.1 o ho
    simp only [Cursor.past_pos, Cursor.past_rest, List.length_singleton] at h₁ h₃
    rw [hr, List.length_cons]
    omega
  | @pick c d os hm hp _ ih =>
    obtain ⟨w, hw, hr, -, hpos, -⟩ := ahead_of_not_passedOver (Pattern.matchAt?_ahead hm) hp
    have hlen : 0 < w.length := List.length_pos_iff.mpr hw
    rw [Cursor.clear_pos, Cursor.clear_rest] at ih
    rw [hr, List.length_append]
    refine ⟨fun o ho => ?_, List.pairwise_cons.mpr ⟨fun o ho => (ih.1 o ho).1, ih.2⟩⟩
    rcases List.mem_cons.mp ho with rfl | ho
    · simp only [Grammar.occurrence]
      omega
    · have := ih.1 o ho
      omega

/-- What is picked is what the pattern matches at a place ahead. -/
theorem exists_match (h : g.Picks c os) : ∀ o ∈ os, ∃ a d, c.Ahead a ∧
    g.pattern.matchAt? a = some d ∧ isPassedOver a d = false ∧ o = g.occurrence a d := by
  induction h with
  | done => simp
  | pass hr _ _ ih =>
    intro o ho
    obtain ⟨a, d, ha, hd⟩ := ih o ho
    exact ⟨a, d, (Cursor.Ahead.past hr).trans ha, hd⟩
  | @pick c d os hm hp _ ih =>
    intro o ho
    rcases List.mem_cons.mp ho with rfl | ho
    · exact ⟨c, d, .refl c, hm, hp, rfl⟩
    · obtain ⟨a, e, ha, he⟩ := ih o ho
      exact ⟨a, e, ((Pattern.matchAt?_ahead hm).trans (.clear d)).trans ha, he⟩

end Grammar.Picks

end TermRef
