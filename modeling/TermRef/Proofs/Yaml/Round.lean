/-
TermRef/Proofs/Yaml/Round.lean

Rounds of the lexer.

A round passes over blanks and line feeds, gives up the keys that can no longer end, ends the
blocks that are indented deeper, and reads one token.  Up to the token it does nothing else
(`Lexer.behind`) where no key has to end and no block ends, and so the round is as good as its
token (`Lexer.Ready`, `Lexer.run_of_ready`).
-/
import TermRef.Proofs.Yaml.Place
import TermRef.Yaml.Lexer

namespace TermRef.Yaml

namespace Lexer

variable {w t : List Char} {l m r : Lexer}

/-! ### Layout -/

/-- The lexer behind the characters `w` of layout. -/
def behind (w : List Char) (l : Lexer) : Lexer :=
  let p := l.place.skip w.length
  { l with
    place := p
    allowKey := l.allowKey || (l.depth == 0 && w.contains '\n')
    keys := l.keys.filter fun k => !(l.moveTo p).isStale k.2 }

/-- On the last line only spaces are passed over. -/
theorem skipBlank_of_spaces (hw : ∀ c ∈ w, c = ' ') (ht : ∀ c ∈ t.head?, isSkipped c = false)
    (h : l.place.rest = w ++ t) (fuel : Nat) :
    skipBlank (fuel + 1) l = l.moveTo (l.place.skip w.length) := by
  simp only [isSkipped_eq_false] at ht
  have hdrop : l.place.dropWhile (· == ' ') = l.place.skip w.length :=
    Place.dropWhile_eq (by simpa using hw) (fun c hc => by simpa using (ht c hc).1) h
  have hrest : (l.place.skip w.length).rest = t := Place.rest_skip_append h
  have hcomment : (l.place.skip w.length).head ≠ '#' :=
    Place.head_ne (by decide) fun c hc => (ht c (hrest ▸ hc)).2.1
  have hbreak : (l.place.skip w.length).lineBreak? = none :=
    Place.lineBreak?_eq_none fun c hc => (ht c (hrest ▸ hc)).2.2.2
  simp [skipBlank, hdrop, hcomment, hbreak]

/-- A line of spaces is passed over with its end. -/
theorem skipBlank_of_feed (hw : ∀ c ∈ w, c = ' ') (h : l.place.rest = w ++ '\n' :: t) (fuel : Nat) :
    skipBlank (fuel + 1) l = skipBlank fuel { l with
      place := l.place.skip (w.length + 1)
      allowKey := l.allowKey || l.depth == 0 } := by
  have hdrop : l.place.dropWhile (· == ' ') = l.place.skip w.length :=
    Place.dropWhile_eq (by simpa using hw) (by simp) h
  have hfeed : (l.place.skip w.length).rest = '\n' :: t := Place.rest_skip_append h
  have hcomment : (l.place.skip w.length).head ≠ '#' := by
    rw [Place.head_eq hfeed]
    decide
  have hstep : (l.place.skip w.length).step = l.place.skip (w.length + 1) := Place.skip_skip _ 1 _
  simp [skipBlank, hdrop, hcomment, Place.lineBreak?_newline hfeed, hstep]

/-- **Spaces and line feeds are passed over.** -/
theorem skipBlank_of_layout (hw : IsLayout w) (ht : ∀ c ∈ t.head?, isSkipped c = false)
    (h : l.place.rest = w ++ t) {fuel : Nat} (hfuel : w.length < fuel) :
    skipBlank fuel l = { l with
      place := l.place.skip w.length
      allowKey := l.allowKey || (l.depth == 0 && w.contains '\n') } := by
  induction fuel generalizing l w with
  | zero => omega
  | succ fuel ih =>
    rcases hw.split with hspaces | ⟨u, v, rfl, hu, hv⟩
    · have hnone : '\n' ∉ w := fun hfeed => absurd (hspaces _ hfeed) (by decide)
      rw [skipBlank_of_spaces hspaces ht h, moveTo]
      simp [hnone]
    · have hrest : l.place.rest = u ++ '\n' :: (v ++ t) := by simpa using h
      have hnext : (l.place.skip (u.length + 1)).rest = v ++ t := by
        rw [Place.rest_skip, hrest]
        simp
      have hlength : (u ++ '\n' :: v).length = u.length + 1 + v.length := by
        simp only [List.length_append, List.length_cons]
        omega
      rw [skipBlank_of_feed hu hrest, ih hv hnext (by omega), Place.skip_skip, ← hlength]
      cases l.allowKey <;> simp +contextual

theorem skipMark_eq_self (h : l.place.head ≠ '\ufeff') : l.skipMark = l := by
  simp [skipMark, h]

/-! ### Keys and indentation -/

/-- Keys that need not be keys are given up without fault. -/
theorem dropStale_eq (h : ∀ k ∈ l.keys, k.2.required = false) :
    l.dropStale = .ok { l with keys := l.keys.filter fun k => !l.isStale k.2 } := by
  have hnone : ¬ (l.keys.any fun k => l.isStale k.2 && k.2.required) = true := by
    rw [List.any_eq_true]
    rintro ⟨k, hk, hrequired⟩
    rw [h k hk, Bool.and_false] at hrequired
    cases hrequired
  rw [dropStale, if_neg hnone]

/-- No block is indented deeper than the innermost one. -/
theorem unwind_eq_self {column : Int} (h : l.indent ≤ column) : l.unwind column = l := by
  rw [unwind]
  split
  · rcases hindents : l.indents with - | ⟨i, r⟩
    · rw [unwindTo, ← hindents]
    · have hi : ¬ column < i := by
        rw [indent, hindents] at h
        exact Int.not_lt.mpr h
      rw [unwindTo, if_neg hi, ← hindents]
  · rfl

/-! ### Rounds -/

/-- Before its token, a round leads from `l` to `m`. -/
structure Ready (l m : Lexer) : Prop where
  skip : (l.skipMark.skipBlank (l.place.rest.length + 1)).dropStale = .ok m
  unwind : m.unwind m.place.column = m

/-- **Layout is passed over**, where no key has to end and no block ends. -/
theorem ready_behind (hw : IsLayout w) (ht : ∀ c ∈ t.head?, isSkipped c = false)
    (h : l.place.rest = w ++ t) (hkeys : ∀ k ∈ l.keys, k.2.required = false)
    (hindent : l.indent ≤ (l.place.skip w.length).column) : Ready l (l.behind w) where
  skip := by
    have hmark : l.skipMark = l := by
      refine skipMark_eq_self (Place.head_ne (by decide) fun c hc => ?_)
      rw [h] at hc
      rcases w with - | ⟨x, w⟩
      · exact (isSkipped_eq_false.mp (ht c hc)).2.2.1
      · obtain rfl := Option.some.inj hc
        rcases hw x List.mem_cons_self with rfl | rfl <;> decide
    have hfuel : w.length < l.place.rest.length + 1 := by
      rw [h, List.length_append]
      omega
    rw [hmark, skipBlank_of_layout hw ht h hfuel, dropStale_eq]
    · rfl
    · exact hkeys
  unwind := unwind_eq_self hindent

/-- A round that reads a token goes on behind it. -/
theorem run_of_ready (hready : Ready l m) (htoken : m.token = .ok r)
    (hmore : r.tokens.head? ≠ some .streamEnd) (fuel : Nat) : run (fuel + 1) l = run fuel r := by
  have htoken' : (m.unwind m.place.column).token = .ok r := by rw [hready.unwind, htoken]
  simp [run, hready.skip, htoken', hmore, bind, Except.bind]

end Lexer

end TermRef.Yaml
