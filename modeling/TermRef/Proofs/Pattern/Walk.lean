/-
TermRef/Proofs/Pattern/Walk.lean

What a match does with its text, for any pattern whatsoever.

`Cursor.Ahead c d` says that `d` is a later place of the same text than `c`: some
characters have passed from what follows to what lies before.  The one fact about
trees is `walk_advances`: whatever `Node.walk n k` accepts, `k` has accepted at a
place ahead.  It needs no hypothesis on the tree.  Conditions on the text around
look elsewhere but go on from where they stand, and a repetition only strings
rounds together, so the induction over the tree asks the same of every part.

From it come the facts on which a scan rests: a match ends ahead of where it
starts (`matchAt?_ahead`), and a search stops at the first place that matches or
moves on by one character (`search?_step`).
-/
import TermRef.Pattern.Walk

namespace TermRef.Pattern

/-! ### Places ahead -/

/-- The place after the characters `w`, with `r` still to come. -/
def Cursor.past (c : Cursor) (w r : List Char) : Cursor :=
  ⟨w.reverse ++ c.before, r, c.pos + w.length, c.groups⟩

/-- `d` is reached from `c` by taking characters. -/
def Cursor.Ahead (c d : Cursor) : Prop :=
  ∃ w, c.rest = w ++ d.rest ∧ d.before = w.reverse ++ c.before ∧ d.pos = c.pos + w.length

/-- The place after `i` characters of a text. -/
def Cursor.inText (s : List Char) (i : Nat) : Cursor :=
  ⟨(s.take i).reverse, s.drop i, (s.take i).length, []⟩

namespace Cursor

@[simp] theorem inText_rest (s : List Char) (i : Nat) : (inText s i).rest = s.drop i := rfl

@[simp] theorem ofText_rest (s : List Char) : (ofText s).rest = s := rfl

@[simp] theorem clear_rest (c : Cursor) : c.clear.rest = c.rest := rfl

@[simp] theorem clear_pos (c : Cursor) : c.clear.pos = c.pos := rfl

@[simp] theorem past_before (c : Cursor) (w r : List Char) :
    (c.past w r).before = w.reverse ++ c.before := rfl

@[simp] theorem past_rest (c : Cursor) (w r : List Char) : (c.past w r).rest = r := rfl

@[simp] theorem past_pos (c : Cursor) (w r : List Char) : (c.past w r).pos = c.pos + w.length := rfl

theorem past_past (c : Cursor) (w v r s : List Char) :
    (c.past w r).past v s = c.past (w ++ v) s := by
  simp [past, Nat.add_assoc]

/-- A character taken and then others are taken together. -/
theorem past_cons (b : List Char) (x : Char) (r : List Char) (n : Nat) (g : List (Nat × Capture))
    (w s : List Char) :
    (⟨x :: b, r, n + 1, g⟩ : Cursor).past w s = (⟨b, x :: r, n, g⟩ : Cursor).past (x :: w) s := by
  simp [past, Nat.add_assoc, Nat.add_comm 1]

theorem past_nil (c : Cursor) : c.past [] c.rest = c := by
  simp [past]

theorem next?_eq_some {c d : Cursor} {x : Char} (h : c.next? = some (x, d)) :
    ∃ r, c.rest = x :: r ∧ d = c.past [x] r := by
  rcases c with ⟨before, _ | ⟨y, r⟩, n, g⟩
  · simp [next?] at h
  · simp only [next?, Option.some.injEq, Prod.mk.injEq] at h
    obtain ⟨rfl, rfl⟩ := h
    exact ⟨r, rfl, rfl⟩

theorem next?_of_rest {c : Cursor} {x : Char} {r : List Char} (h : c.rest = x :: r) :
    c.next? = some (x, c.past [x] r) := by
  rcases c with ⟨before, _, n, g⟩
  subst h
  rfl

namespace Ahead

theorem refl (c : Cursor) : c.Ahead c := ⟨[], by simp⟩

theorem trans {c d e : Cursor} (h : c.Ahead d) (h' : d.Ahead e) : c.Ahead e := by
  obtain ⟨w, hr, hb, hp⟩ := h
  obtain ⟨v, hr', hb', hp'⟩ := h'
  refine ⟨w ++ v, ?_, ?_, ?_⟩
  · rw [hr, hr', List.append_assoc]
  · rw [hb', hb, List.reverse_append, List.append_assoc]
  · rw [hp', hp, List.length_append, Nat.add_assoc]

theorem past {c : Cursor} {w r : List Char} (h : c.rest = w ++ r) : c.Ahead (c.past w r) :=
  ⟨w, h, rfl, rfl⟩

theorem next {c d : Cursor} {x : Char} (h : c.next? = some (x, d)) : c.Ahead d := by
  obtain ⟨r, hr, rfl⟩ := next?_eq_some h
  exact Ahead.past (w := [x]) hr

/-- Which groups are taken does not matter. -/
theorem of_groups {c d e f : Cursor} (h : c.Ahead d) (hc : c.before = e.before)
    (hc' : c.rest = e.rest) (hc'' : c.pos = e.pos) (hd : d.before = f.before)
    (hd' : d.rest = f.rest) (hd'' : d.pos = f.pos) : e.Ahead f := by
  obtain ⟨w, hr, hb, hp⟩ := h
  exact ⟨w, by rw [← hc', ← hd', hr], by rw [← hd, ← hc, hb], by rw [← hd'', ← hc'', hp]⟩

theorem capture {c d : Cursor} (h : c.Ahead d) (i start : Nat) : c.Ahead (d.capture i start) :=
  h.of_groups rfl rfl rfl rfl rfl rfl

theorem clear (c : Cursor) : c.Ahead c.clear := (refl c).of_groups rfl rfl rfl rfl rfl rfl

end Ahead

end Cursor

/-! ### Runs of characters -/

theorem skip_eq_some {p : Char → Bool} {n : Nat} {c d : Cursor} (h : c.skip p n = some d) :
    ∃ w r, c.rest = w ++ r ∧ d = c.past w r ∧ w.length = n ∧ ∀ x ∈ w, p x = true := by
  induction n generalizing c with
  | zero =>
    obtain rfl : c = d := by simpa [Cursor.skip] using h
    exact ⟨[], c.rest, by simp [Cursor.past_nil]⟩
  | succ n ih =>
    rw [Cursor.skip] at h
    rcases e : c.next? with - | ⟨x, c'⟩
    · simp [e] at h
    · obtain ⟨r, hr, rfl⟩ := Cursor.next?_eq_some e
      simp only [e, Option.ite_none_right_eq_some] at h
      obtain ⟨hx, h⟩ := h
      obtain ⟨w, s, hw, rfl, hn, hp⟩ := ih h
      refine ⟨x :: w, s, ?_, Cursor.past_past .., by simp [hn], ?_⟩
      · rw [hr, show r = w ++ s from hw, List.cons_append]
      · simpa [hx] using hp

theorem skip_of_rest {p : Char → Bool} {c : Cursor} {w r : List Char} (h : c.rest = w ++ r)
    (hp : ∀ x ∈ w, p x = true) : c.skip p w.length = some (c.past w r) := by
  induction w generalizing c with
  | nil =>
    obtain rfl : c.rest = r := h
    rw [Cursor.past_nil]
    rfl
  | cons x w ih =>
    have hx : p x = true := hp x (by simp)
    have hc : c.rest = x :: (w ++ r) := h
    have hw : (c.past [x] (w ++ r)).skip p w.length = some ((c.past [x] (w ++ r)).past w r) :=
      ih rfl fun y hy => hp y (by simp [hy])
    rw [List.length_cons, Cursor.skip, Cursor.next?_of_rest hc]
    simp only [hx, if_true, hw, Cursor.past_past, List.singleton_append]

/-- Whatever the mode, a run takes characters of the set and goes on from there. -/
theorem runOf_eq_some {mode : Mode} {p : Char → Bool} {k : Rest} {g : List (Nat × Capture)}
    {hi : Option Nat} {before rest : List Char} {n : Nat} {d : Cursor}
    (h : runOf mode p k g hi before rest n = some d) :
    ∃ w r, rest = w ++ r ∧ (∀ x ∈ w, p x = true) ∧
      k ((⟨before, rest, n, g⟩ : Cursor).past w r) = some d := by
  -- the three modes differ in when they hand over, not in what they may take
  have stop : ∀ {s b m}, k ⟨b, s, m, g⟩ = some d →
      ∃ w r, s = w ++ r ∧ (∀ x ∈ w, p x = true) ∧
        k ((⟨b, s, m, g⟩ : Cursor).past w r) = some d :=
    fun {s b m} hk => ⟨[], s, by simpa [Cursor.past] using hk⟩
  have more : ∀ {x s b m}, p x = true →
      (∃ w r, s = w ++ r ∧ (∀ y ∈ w, p y = true) ∧
        k ((⟨x :: b, s, m + 1, g⟩ : Cursor).past w r) = some d) →
      ∃ w r, x :: s = w ++ r ∧ (∀ y ∈ w, p y = true) ∧
        k ((⟨b, x :: s, m, g⟩ : Cursor).past w r) = some d := by
    rintro x s b m hx ⟨w, r, rfl, hw, hk⟩
    refine ⟨x :: w, r, rfl, by simpa [hx] using hw, ?_⟩
    rwa [Cursor.past_cons] at hk
  induction rest generalizing hi before n with
  | nil => cases mode <;> exact stop (by simpa [runOf, greedyRun, lazyRun, possessiveRun] using h)
  | cons x s ih =>
    cases mode with
    | greedy =>
      simp only [runOf, greedyRun] at h
      split at h
      · rename_i hx
        simp only [Bool.and_eq_true] at hx
        rcases e : greedyRun p k g (lessOne hi) (x :: before) s (n + 1) with - | c
        · rw [e] at h; exact stop h
        · rw [e] at h
          exact more hx.2 (ih (e.trans h))
      · exact stop h
    | lazy =>
      simp only [runOf, lazyRun] at h
      rcases e : k ⟨before, x :: s, n, g⟩ with - | c
      · simp only [e, Option.ite_none_right_eq_some, Bool.and_eq_true] at h
        exact more h.1.2 (ih h.2)
      · exact stop (by simpa [e] using h)
    | possessive =>
      simp only [runOf, possessiveRun] at h
      split at h
      · rename_i hx
        simp only [Bool.and_eq_true] at hx
        exact more hx.2 (ih h)
      · exact stop h

/-! ### Everything that matches goes forward -/

/-- What `step k` accepts, `k` has accepted at a place ahead. -/
def Advances (step : Rest → Rest) : Prop :=
  ∀ {k c d}, step k c = some d → ∃ e, c.Ahead e ∧ k e = some d

/-- A step that is followed by nothing ends ahead of where it starts. -/
theorem Advances.ahead {step : Rest → Rest} (hs : Advances step) {c d : Cursor}
    (h : step some c = some d) : c.Ahead d := by
  obtain ⟨e, hce, he⟩ := hs h
  obtain rfl := Option.some.inj he
  exact hce

theorem times_advances {step : Rest → Rest} (hs : Advances step) (n : Nat) :
    Advances (times step n) := by
  induction n with
  | zero => exact fun {k c d} h => ⟨c, .refl c, h⟩
  | succ n ih =>
    intro k c d h
    obtain ⟨e, hce, he⟩ := hs h
    obtain ⟨f, hef, hf⟩ := ih he
    exact ⟨f, hce.trans hef, hf⟩

theorem rounds_advances {mode : Mode} {step : Rest → Rest} (hs : Advances step) {k : Rest}
    {fuel : Nat} {hi last : Option Nat} {c d : Cursor}
    (h : rounds mode step k fuel hi last c = some d) : ∃ e, c.Ahead e ∧ k e = some d := by
  induction fuel generalizing hi last c with
  | zero => exact ⟨c, .refl c, h⟩
  | succ fuel ih =>
    -- a round and then the ones after it, which every mode but the last tries as one
    have further : step (rounds mode step k fuel (lessOne hi) (some c.pos)) c = some d →
        ∃ e, c.Ahead e ∧ k e = some d := by
      intro h
      obtain ⟨e, hce, he⟩ := hs h
      obtain ⟨f, hef, hf⟩ := ih he
      exact ⟨f, hce.trans hef, hf⟩
    rw [rounds] at h
    split at h
    · cases mode with
      | greedy =>
        dsimp only at h
        split at h
        · rename_i e he
          exact further (he.trans h)
        · exact ⟨c, .refl c, h⟩
      | lazy =>
        dsimp only at h
        split at h
        · rename_i e he
          exact ⟨c, .refl c, he.trans h⟩
        · exact further h
      | possessive =>
        dsimp only at h
        split at h
        · rename_i e he
          obtain ⟨f, hef, hf⟩ := ih h
          exact ⟨f, (hs.ahead he).trans hef, hf⟩
        · exact ⟨c, .refl c, h⟩
    · exact ⟨c, .refl c, h⟩

/-- Rounds that are settled on their own go forward if the others do. -/
theorem times_settled_advances {step settled : Rest → Rest} (hs : Advances step) {n : Nat}
    {k : Rest} {c d : Cursor} (h : times settled n k c = some d)
    (hsettled : ∀ k c, settled k c = (step some c).bind k) : ∃ e, c.Ahead e ∧ k e = some d := by
  have hadvances : Advances settled := by
    intro k c d hd
    rw [hsettled] at hd
    obtain ⟨e, he, hk⟩ := Option.bind_eq_some_iff.mp hd
    exact ⟨e, hs.ahead he, hk⟩
  exact times_advances hadvances n h

theorem repeated_advances {step : Rest → Rest} (hs : Advances step) (mode : Mode) (lo : Nat)
    (hi : Option Nat) : Advances (repeated mode lo hi step) := by
  intro k c d h
  simp only [repeated] at h
  have hreq : ∃ e, c.Ahead e ∧
      rounds mode step k (e.rest.length + 2) (hi.map (· - lo)) none e = some d := by
    split at h
    · refine times_settled_advances hs h fun k c => ?_
      cases step some c <;> rfl
    · exact times_advances hs lo h
  obtain ⟨e, hce, he⟩ := hreq
  obtain ⟨f, hef, hf⟩ := rounds_advances hs he
  exact ⟨f, hce.trans hef, hf⟩

theorem takeText_ahead {f : Fold} {w : List Char} {c d : Cursor} (h : c.takeText f w = some d) :
    c.Ahead d := by
  induction w generalizing c with
  | nil =>
    obtain rfl : c = d := by simpa [Cursor.takeText] using h
    exact .refl c
  | cons x w ih =>
    rw [Cursor.takeText] at h
    rcases e : c.next? with - | ⟨y, c'⟩
    · simp [e] at h
    · simp only [e, Option.ite_none_right_eq_some] at h
      exact (Cursor.Ahead.next e).trans (ih h.2)

/-- **Matching goes forward**: whatever the tree, the continuation goes on from a later
place of the same text. -/
theorem walk_advances (n : Node) : Advances n.walk := by
  induction n with
  | empty => exact fun {k c d} h => ⟨c, .refl c, h⟩
  | one s =>
    intro k c d h
    rw [Node.walk] at h
    rcases e : c.next? with - | ⟨x, c'⟩
    · simp [e] at h
    · simp only [e, Option.ite_none_right_eq_some] at h
      exact ⟨c', .next e, h.2⟩
  | run mode lo hi s =>
    intro k c d h
    rw [Node.walk] at h
    rcases e : c.skip s.mem lo with - | c'
    · simp [e] at h
    · rw [e] at h
      obtain ⟨w, r, hr, rfl, -, -⟩ := skip_eq_some e
      obtain ⟨v, t, ht, -, hk⟩ := runOf_eq_some h
      exact ⟨_, (Cursor.Ahead.past hr).trans (.past ht), hk⟩
  | anchor a =>
    intro k c d h
    simp only [Node.walk, Option.ite_none_right_eq_some] at h
    exact ⟨c, .refl c, h.2⟩
  | seq a b iha ihb =>
    intro k c d h
    obtain ⟨e, hce, he⟩ := iha h
    obtain ⟨f, hef, hf⟩ := ihb he
    exact ⟨f, hce.trans hef, hf⟩
  | alt a b iha ihb =>
    intro k c d h
    rw [Node.walk] at h
    rcases e : a.walk k c with - | c'
    · rw [e] at h; exact ihb h
    · rw [e] at h; exact iha (e.trans h)
  | group i a ih =>
    intro k c d h
    obtain ⟨e, hce, he⟩ := ih h
    exact ⟨_, hce.capture i c.pos, he⟩
  | again i f =>
    intro k c d h
    rw [Node.walk] at h
    split at h
    · split at h
      · rename_i e
        exact ⟨_, takeText_ahead e, h⟩
      · simp at h
    · simp at h
  | ifGroup i yes no ihy ihn =>
    intro k c d h
    rw [Node.walk] at h
    split at h
    · exact ihy h
    · exact ihn h
  | look back present a ih =>
    intro k c d h
    -- what is looked at may take groups, but the match goes on from where it stood
    have here : ∀ g, k { c with groups := g } = some d → ∃ e, c.Ahead e ∧ k e = some d :=
      fun g hk =>
        ⟨{ c with groups := g }, (Cursor.Ahead.refl c).of_groups rfl rfl rfl rfl rfl rfl, hk⟩
    rw [Node.walk] at h
    split at h
    · split at h
      · exact here _ h
      · exact here c.groups h
      · simp at h
    · split at h
      · simp at h
      · exact here c.groups h
  | atomic a ih =>
    intro k c d h
    rw [Node.walk] at h
    split at h
    · rename_i e he
      exact ⟨e, Advances.ahead ih he, h⟩
    · simp at h
  | rep mode lo hi a ih => exact repeated_advances ih mode lo hi

end TermRef.Pattern

namespace TermRef

open Pattern

/-! ### Matches and searches -/

theorem Pattern.matchAt?_ahead {p : Pattern} {c d : Cursor} (h : p.matchAt? c = some d) :
    c.Ahead d := by
  have hahead : c.clear.Ahead d := Advances.ahead (walk_advances p.root) h
  exact hahead.of_groups rfl rfl rfl rfl rfl rfl

/-- A search ends at its first place if the pattern matches there, and otherwise goes on
from the next one. -/
theorem Pattern.search?_step (p : Pattern) (c : Cursor) :
    p.search? c = match p.matchAt? c with
      | some d => some (c.clear, d)
      | none => match c.next? with
        | some (_, e) => p.search? e
        | none => none := by
  rcases c with ⟨before, rest, n, g⟩
  have hm : p.matchAt? ⟨before, rest, n, []⟩ = p.matchAt? ⟨before, rest, n, g⟩ := rfl
  rw [Pattern.search?, Pattern.searchFrom.eq_def]
  simp only [hm]
  rcases e : p.matchAt? ⟨before, rest, n, g⟩ with - | d
  · cases rest with
    | nil => rfl
    | cons x r => rfl
  · rfl

/-- A search finds a match, and finds it ahead. -/
theorem Pattern.search?_ahead {p : Pattern} {c a d : Cursor} (h : p.search? c = some (a, d)) :
    c.Ahead a ∧ p.matchAt? a = some d := by
  induction hn : c.rest.length using Nat.strongRecOn generalizing c with
  | ind n ih =>
    rw [Pattern.search?_step] at h
    rcases hm : p.matchAt? c with - | e
    · rcases he : c.next? with - | ⟨x, e⟩
      · rw [hm, he] at h
        cases h
      · rw [hm, he] at h
        obtain ⟨r, hr, rfl⟩ := Cursor.next?_eq_some he
        obtain ⟨hahead, ha⟩ := ih r.length (by simp [← hn, hr]) h rfl
        exact ⟨(Cursor.Ahead.next he).trans hahead, ha⟩
    · rw [hm] at h
      obtain ⟨rfl, rfl⟩ := Prod.mk.inj (Option.some.inj h)
      exact ⟨.clear c, hm⟩

end TermRef
