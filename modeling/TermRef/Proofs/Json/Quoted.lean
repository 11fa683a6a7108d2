/-
TermRef/Proofs/Json/Quoted.lean

Strings of JSON as YAML reads them: scalars in double quotes.

Such a scalar is read as words with space between them, and a word may have escapes in it.  The
pieces of a string are not read one by one, since characters that stand for themselves are taken
together as far as they are of one kind (`Run`): part of a word, spaces or line separators.  So
what is shown is how a scalar goes on from a place among its words (`Goes`), whatever has been read
before it.  There is one lemma for each run and each escape (`Goes.word`, `Goes.space`,
`Goes.escape`), and the string is read by induction on the number of its pieces (`Readable.goes`).

Spaces are kept only where no line ends next to them, and separators only where no document seems
to be marked behind them.  This is what `misread` leaves out.
-/
import TermRef.Proofs.Json.Readable
import TermRef.Proofs.Yaml.Place
import TermRef.Yaml.Scalar

namespace TermRef.Yaml

/-! ### Scalars in double quotes -/

/-- From a place among its words on, a scalar in double quotes goes on with `s`, and it ends `n`
characters on. -/
def Goes (p : Place) (s : List Char) (n : Nat) : Prop :=
  ∀ done f, p.rest.length < f → ∃ words q, quotedWords true f done p = .ok (words, q) ∧
    q.rest.length ≤ p.rest.length ∧ ∀ g, q.rest.length < g → ∃ done',
      quotedRest true g words q = .ok (done', p.skip n) ∧
        done'.reverse.flatten = done.reverse.flatten ++ s

variable {p : Place} {s w t cs : List Char} {c : Char} {n : Nat}

theorem Goes.congr {s' : List Char} {n' : Nat} (h : Goes p s n) (hs : s' = s) (hn : n' = n) :
    Goes p s' n' := by
  rwa [hs, hn]

/-- Words end before a blank, a line break and the closing quote. -/
theorem quotedWords_eq_self (h : p.rest = c :: t) (hc : isGap c = true ∨ c = '"')
    (f : Nat) (done : List (List Char)) : quotedWords true (f + 1) done p = .ok (done, p) := by
  have hstop : isQuotedPlain c = false := by
    rcases hc with hc | rfl
    · simp [isQuotedPlain, hc]
    · decide
  have hmark : c ≠ '\'' ∧ c ≠ '\\' := by
    constructor <;> rintro rfl <;> revert hc <;> decide
  rw [quotedWords, Place.takeWhile_none (Place.head?_eq h hstop)]
  simp [Place.head_eq h, hmark]

theorem goes_end (h : p.rest = '"' :: t) : Goes p [] 1 := by
  intro done f hf
  obtain ⟨f, rfl⟩ := Nat.exists_eq_add_of_lt hf
  refine ⟨done, p, quotedWords_eq_self h (.inr rfl) _ done, Nat.le_refl _, fun g hg => ?_⟩
  obtain ⟨g, rfl⟩ := Nat.exists_eq_add_of_lt hg
  refine ⟨done, ?_, by simp⟩
  rw [quotedRest, if_pos (by simp [Place.head_eq h])]
  rfl

namespace Goes

/-- What is read at once is read, and the scalar goes on behind it. -/
theorem append {k : Nat} (hgo : Goes (p.skip k) s n) {f : Nat} {done : List (List Char)} (f' : Nat)
    (done' : List (List Char))
    (hsame : quotedWords true f done p = quotedWords true f' done' (p.skip k))
    (hdone : done'.reverse.flatten = done.reverse.flatten ++ w) (hf : (p.skip k).rest.length < f') :
    ∃ words q, quotedWords true f done p = .ok (words, q) ∧ q.rest.length ≤ p.rest.length ∧
      ∀ g, q.rest.length < g → ∃ done'', quotedRest true g words q = .ok (done'', p.skip (k + n)) ∧
        done''.reverse.flatten = done.reverse.flatten ++ (w ++ s) := by
  obtain ⟨words, q, hwords, hlength, hread⟩ := hgo done' f' hf
  have hshort : (p.skip k).rest.length ≤ p.rest.length := by simp [Place.rest_skip]
  refine ⟨words, q, hsame.trans hwords, by omega, fun g hg => ?_⟩
  obtain ⟨done'', hrest, hflat⟩ := hread g hg
  exact ⟨done'', by rw [hrest, Place.skip_skip], by rw [hflat, hdone, List.append_assoc]⟩

/-- A word is read as a whole. -/
theorem word (hw : ∀ c ∈ w, isQuotedPlain c = true)
    (ht : ∀ c ∈ t.head?, isQuotedPlain c = false) (h : p.rest = w ++ t)
    (hgo : Goes (p.skip w.length) s n) : Goes p (w ++ s) (w.length + n) := by
  intro done f hf
  obtain ⟨f, rfl⟩ := Nat.exists_eq_add_of_lt hf
  have hrest : (p.skip w.length).rest = t := Place.rest_skip_append h
  -- the words go on in the same way when they are read from behind this one
  refine hgo.append (p.rest.length + f + 1) (if w.isEmpty then done else w :: done) ?_ ?_ ?_
  · rw [quotedWords, quotedWords, Place.takeWhile_eq hw ht h,
      Place.takeWhile_eq (w := []) nofun ht hrest]
    rfl
  · rcases w with - | ⟨c, w⟩ <;> simp
  · simp [hrest, h]
    omega

/-- A single quote is nothing special in double quotes. -/
theorem apostrophe (h : p.rest = '\'' :: t) (hgo : Goes (p.skip 1) s n) :
    Goes p ('\'' :: s) (1 + n) := by
  intro done f hf
  obtain ⟨f, rfl⟩ := Nat.exists_eq_add_of_lt hf
  have hstop : isQuotedPlain '\'' = false := by decide
  refine hgo.append (w := ['\'']) (p.rest.length + f) (['\''] :: done) ?_ (by simp) ?_
  · rw [quotedWords, Place.takeWhile_none (Place.head?_eq h hstop)]
    simp [Place.head_eq h, Place.skip]
  · simp [Place.rest_skip, h]
    omega

/-- An escape is read as what it stands for. -/
theorem escape (h : p.rest = '\\' :: t) {k : Nat}
    (hescape : escapeAt p.step = .ok (cs, p.skip (k + 1))) (hgo : Goes (p.skip (k + 1)) s n) :
    Goes p (cs ++ s) (k + 1 + n) := by
  intro done f hf
  obtain ⟨f, rfl⟩ := Nat.exists_eq_add_of_lt hf
  have hstop : isQuotedPlain '\\' = false := by decide
  refine hgo.append (p.rest.length + f) (cs :: done) ?_ (by simp) ?_
  · rw [quotedWords, Place.takeWhile_none (Place.head?_eq h hstop)]
    simp [Place.head_eq h, hescape]
  · simp [Place.rest_skip, h]
    omega

/-- Between words there is space, which is read in one step. -/
theorem space (h : p.rest = c :: t) (hc : isGap c = true) {k : Nat}
    (hspace : quotedSpaces p = .ok (w, p.skip (k + 1))) (hgo : Goes (p.skip (k + 1)) s n) :
    Goes p (w ++ s) (k + 1 + n) := by
  intro done f hf
  obtain ⟨f, rfl⟩ := Nat.exists_eq_add_of_lt hf
  have hquote : c ≠ '"' := by
    rintro rfl
    revert hc
    decide
  have hrest : (p.skip (k + 1)).rest.length < p.rest.length := by
    rw [Place.rest_skip, List.length_drop, h, List.length_cons]
    omega
  -- the words before the space end, and others begin behind it
  refine ⟨done, p, quotedWords_eq_self h (.inl hc) _ done, Nat.le_refl _, fun g hg => ?_⟩
  obtain ⟨g, rfl⟩ := Nat.exists_eq_add_of_lt hg
  obtain ⟨words, q, hwords, hlength, hread⟩ :=
    hgo (w :: done) ((p.skip (k + 1)).rest.length + 1) (by omega)
  obtain ⟨done', hread, hdone⟩ := hread (p.rest.length + g) (by omega)
  refine ⟨done', ?_, by simp [hdone]⟩
  rw [quotedRest, if_neg (by simp [Place.head_eq h, hquote]), hspace]
  simp only [bind, Except.bind, hwords, hread, Place.skip_skip]

end Goes

/-! ### Space -/

/-- Spaces are kept. -/
theorem quotedSpaces_of_spaces (hw : ∀ c ∈ w, c = ' ')
    (ht : ∀ c ∈ t.head?, isSpaceOrTab c = false ∧ isBreak c = false) (hne : t ≠ [])
    (h : p.rest = w ++ t) : quotedSpaces p = .ok (w, p.skip w.length) := by
  have hblank : ∀ c ∈ w, isSpaceOrTab c = true := by
    intro c hc
    rw [hw c hc]
    decide
  have hrest : (p.skip w.length).rest = t := Place.rest_skip_append h
  have hbreak : (p.skip w.length).lineBreak? = none :=
    Place.lineBreak?_eq_none fun c hc => (ht c (hrest ▸ hc)).2
  rw [quotedSpaces, Place.takeWhile_eq hblank (fun c hc => (ht c hc).1) h]
  simp [hrest, hne, hbreak]

/-- Line separators one after the other are kept, if no document is marked behind them. -/
theorem quotedBreaks_of_separators (hw : ∀ c ∈ w, c ∈ Json.separators)
    (ht : ∀ c ∈ t.head?, isSpaceOrTab c = false ∧ isBreak c = false) (h : p.rest = w ++ t)
    (hmarker : (p.skip w.length).isAnyMarker = false) {fuel : Nat} (hfuel : w.length < fuel)
    (done : List Char) :
    quotedBreaks fuel done p = .ok (done.reverse ++ w, p.skip w.length) := by
  induction fuel generalizing p w done with
  | zero => omega
  | succ fuel ih =>
    rcases w with - | ⟨c, w⟩
    · have hrest : p.rest = t := h
      have hmark : p.isAnyMarker = false := hmarker
      have hdrop : p.dropWhile isSpaceOrTab = p :=
        Place.dropWhile_none fun c hc => (ht c (hrest ▸ hc)).1
      have hbreak : p.lineBreak? = none :=
        Place.lineBreak?_eq_none fun c hc => (ht c (hrest ▸ hc)).2
      simp [quotedBreaks, hmark, hdrop, hbreak, Place.skip]
    · obtain ⟨hc, hw⟩ := List.forall_mem_cons.mp hw
      have hseparator : ∀ c ∈ Json.separators, (c ≠ '-' ∧ c ≠ '.') ∧ isSpaceOrTab c = false :=
        List.forall_iff_forall_mem.mp (by decide)
      have hmark : p.isAnyMarker = false :=
        Place.isAnyMarker_eq_false (Place.head?_eq h (hseparator c hc).1)
      have hdrop : p.dropWhile isSpaceOrTab = p :=
        Place.dropWhile_none (Place.head?_eq h (hseparator c hc).2)
      have hstep : p.step.rest = w ++ t := by rw [Place.rest_step, h]; rfl
      have hmore := ih hw hstep hmarker (by simpa using hfuel) (c :: done)
      simp [quotedBreaks, hmark, hdrop, Place.lineBreak?_separator hc h, hmore, Place.skip]

theorem quotedSpaces_of_separators (hc : c ∈ Json.separators) (hw : ∀ c ∈ w, c ∈ Json.separators)
    (ht : ∀ c ∈ t.head?, isSpaceOrTab c = false ∧ isBreak c = false) (h : p.rest = c :: w ++ t)
    (hmarker : (p.skip (w.length + 1)).isAnyMarker = false) :
    quotedSpaces p = .ok (c :: w, p.skip (w.length + 1)) := by
  have hseparator : ∀ c ∈ Json.separators, isSpaceOrTab c = false ∧ c ≠ '\n' :=
    List.forall_iff_forall_mem.mp (by decide)
  obtain ⟨hblank, hfeed⟩ := hseparator c hc
  have hstep : p.step.rest = w ++ t := by rw [Place.rest_step, h]; rfl
  have hfuel : w.length < p.step.rest.length + 1 := by
    rw [hstep, List.length_append]
    omega
  have hmore := quotedBreaks_of_separators hw ht hstep hmarker hfuel []
  rw [quotedSpaces, Place.takeWhile_none (Place.head?_eq h hblank)]
  simp only [Place.lineBreak?_separator hc h, hmore]
  simp [h, foldBreaks, hfeed, bind, Except.bind, pure, Except.pure, Place.skip]

/-! ### Escapes -/

theorem escapeAt_short {letter : Char} (hc : (letter, c) ∈ Json.shortEscapes)
    (h : p.rest = letter :: t) : escapeAt p = .ok ([c], p.step) := by
  have hescape : ∀ x ∈ Json.shortEscapes, escapeChar? x.1 = some x.2 := by decide
  rw [escapeAt, Place.head_eq h, hescape _ hc]

theorem hexValue?_char (d : Json.HexDigit) : hexValue? d.char = some d.value.val := by
  obtain ⟨v, k⟩ := d
  revert v k
  decide

theorem hexNumber?_unit (u : Json.CodeUnit) :
    hexNumber? [u.a.char, u.b.char, u.c.char, u.d.char] = some u.number := by
  simp [hexNumber?, hexValue?_char, Json.CodeUnit.number]

/-- The number of a character stands for the character, if it is the number of one. -/
theorem escapeAt_code {u : Json.CodeUnit} (hu : ¬ u.IsHigh ∧ ¬ u.IsLow)
    (h : p.rest = u.text.tail ++ t) : escapeAt p = .ok ([Char.ofNat u.number], p.skip 5) := by
  have hrest : p.rest = 'u' :: u.a.char :: u.b.char :: u.c.char :: u.d.char :: t := h
  have hstep : p.step.rest = u.a.char :: u.b.char :: u.c.char :: u.d.char :: t := by
    rw [Place.rest_step, hrest]
    rfl
  have hnumber : u.number < 0x110000 := by
    have ha := u.a.value.isLt
    have hb := u.b.value.isLt
    have hc := u.c.value.isLt
    have hd := u.d.value.isLt
    rw [Json.CodeUnit.number]
    omega
  have hchar : u.number < 0xd800 ∨ 0xe000 ≤ u.number := by
    simp only [Json.CodeUnit.IsHigh, Json.CodeUnit.IsLow] at hu
    omega
  have hskip : p.step.skip 4 = p.skip 5 := rfl
  rw [escapeAt, Place.head_eq hrest]
  show numberedEscape 4 p.step = _
  have htake : p.step.rest.take 4 = [u.a.char, u.b.char, u.c.char, u.d.char] := by
    rw [hstep]
    rfl
  simp [numberedEscape, htake, hexNumber?_unit, hchar, hnumber, hskip]

end TermRef.Yaml

namespace TermRef.Json.Written

open Yaml

variable {s r : Written} {p : Yaml.Place} {t : List Char}

/-! ### Strings -/

theorem Readable.suffix (h : s.Readable) (hr : r <:+ s) : r.Readable := by
  obtain ⟨l, rfl⟩ := hr
  have hbody : body (l ++ r) = body l ++ body r := List.flatMap_append
  exact {
    barred := fun c hc => h.barred c (by rw [hbody]; exact List.mem_append_right _ hc)
    pairs := fun p hp => h.pairs p (List.mem_append_right _ hp)
    separators := fun w hw hin =>
      h.separators w hw (by rw [hbody]; exact hin.trans (List.suffix_append _ _).isInfix) }

/-- A string begins with a run: characters `w` that stand for themselves and are all of one kind.
Behind them comes `r`, which does not begin with another of this kind. -/
structure Run (f : Char → Bool) (s : Written) (w : List Char) (r : Written) : Prop where
  body : s.body = w ++ r.body
  chars : s.map Piece.char = w ++ r.map Piece.char
  all : ∀ c ∈ w, f c = true
  ends : ∀ c legal, r.head? = some (.plain c legal) → f c = false
  suffix : r <:+ s

theorem Run.cons {f : Char → Bool} {w : List Char} (h : Run f s w r) {c : Char}
    {legal : ' ' ≤ c ∧ c ≠ '"' ∧ c ≠ '\\'} (hc : f c = true) :
    Run f (.plain c legal :: s) (c :: w) r where
  body := congrArg (c :: ·) h.body
  chars := congrArg (c :: ·) h.chars
  all := List.forall_mem_cons.mpr ⟨hc, h.all⟩
  ends := h.ends
  suffix := h.suffix.trans (List.suffix_cons _ _)

theorem exists_run (f : Char → Bool) (s : Written) : ∃ w r, Run f s w r := by
  induction s with
  | nil => exact ⟨[], [], rfl, rfl, nofun, nofun, List.suffix_refl _⟩
  | cons piece s ih =>
    by_cases hrun : ∃ c legal, piece = .plain c legal ∧ f c = true
    · obtain ⟨c, legal, rfl, hc⟩ := hrun
      obtain ⟨w, r, h⟩ := ih
      exact ⟨c :: w, r, h.cons hc⟩
    · refine ⟨[], piece :: s, rfl, rfl, nofun, ?_, List.suffix_refl _⟩
      intro c legal hhead
      obtain rfl := Option.some.inj hhead
      exact Bool.eq_false_iff.mpr fun hc => hrun ⟨c, legal, rfl, hc⟩

/-- What follows begins with the closing quote, an escape or a character that stands for
itself. -/
theorem head?_body_append {c : Char} (hc : c ∈ (s.body ++ '"' :: t).head?) :
    c = '"' ∨ c = '\\' ∨ ∃ legal more, s.head? = some (.plain c legal) ∧ s.body = c :: more := by
  rcases s with - | ⟨piece, s⟩
  · exact .inl (Option.some.inj hc).symm
  · cases piece with
    | plain c' legal =>
      obtain rfl := Option.some.inj hc
      exact .inr (.inr ⟨legal, body s, rfl, rfl⟩)
    | _ => exact .inr (.inl (Option.some.inj hc).symm)

/-- The blanks of a string that is read as it is meant are spaces and separators. -/
theorem mem_of_isGap {c : Char} (hc : ' ' ≤ c) (hbarred : isBarred c = false)
    (h : isGap c = true) : c ∈ ' ' :: Json.separators := by
  have hgaps : ∀ c ∈ ['\t', ' ', '\x00', '\n', '\r', '\u0085', '\u2028', '\u2029'],
      ' ' ≤ c → isBarred c = false → c ∈ ' ' :: Json.separators :=
    List.forall_iff_forall_mem.mp (by decide)
  refine hgaps c ?_ hc hbarred
  simpa [isGap, isSpaceOrEnd, isBreakOrEnd, isBreak, endMark, or_assoc] using h

/-- No blank follows where no character that stands for itself is one. -/
theorem Readable.not_blank (h : r.Readable)
    (hr : ∀ c legal more, r.head? = some (.plain c legal) → r.body = c :: more →
      c ∉ ' ' :: Json.separators)
    {x : Char} (hx : x ∈ (r.body ++ '"' :: t).head?) :
    isSpaceOrTab x = false ∧ isBreak x = false := by
  rcases head?_body_append hx with rfl | rfl | ⟨legal, more, hhead, hmore⟩
  case inl | inr.inl => decide
  have hbarred : isBarred x = false := h.barred x (by rw [hmore]; exact List.mem_cons_self)
  have hgap : isGap x = false :=
    Bool.eq_false_iff.mpr fun hgap =>
      hr x legal more hhead hmore (mem_of_isGap legal.1 hbarred hgap)
  simp only [isGap, isSpaceOrEnd, isBreakOrEnd, Bool.or_eq_false_iff] at hgap
  simp [isSpaceOrTab, hgap]

/-- Behind a separator no document is marked. -/
theorem Readable.not_marked (h : s.Readable) {a : List Char} {l : Char}
    (hl : l ∈ Json.separators) (hbody : s.body = a ++ l :: r.body)
    (hp : p.rest = r.body ++ '"' :: t) : p.isAnyMarker = false := by
  have hmisread : ∀ l ∈ Json.separators, ∀ m ∈ ['-', '.'], ∀ x ∈ ' ' :: Json.separators,
      [l, m, m, m, x] ∈ misread := by
    have hall : (Json.separators.all fun l => ['-', '.'].all fun m =>
        (' ' :: Json.separators).all fun x => misread.contains [l, m, m, m, x]) = true := by decide
    simpa only [List.all_eq_true, List.contains_iff_mem] using hall
  have hmark : ∀ m ∈ ['-', '.'], p.isMarker m = false := by
    intro m hm
    have hquote : m ≠ '"' := by
      rintro rfl
      revert hm
      decide
    refine Bool.eq_false_iff.mpr fun hmarker => ?_
    rw [Place.isMarker, Place.head, Place.ahead, Place.ahead, Place.ahead, hp] at hmarker
    simp only [Bool.and_eq_true, beq_iff_eq] at hmarker
    obtain ⟨⟨⟨h0, h1⟩, h2⟩, h3⟩ := hmarker
    -- the closing quote belongs to no marker
    rcases hr : r.body with - | ⟨x0, - | ⟨x1, - | ⟨x2, - | ⟨x3, more⟩⟩⟩⟩ <;> rw [hr] at h0 h1 h2 h3
    · exact hquote h0.symm
    · exact hquote h1.symm
    · exact hquote h2.symm
    · exact absurd h3 (by show ¬ isGap '"' = true; decide)
    · obtain rfl : x0 = m := h0
      obtain rfl : x1 = x0 := h1
      obtain rfl : x2 = x1 := h2
      have hx3 : x3 ∈ s.body := by
        rw [hbody, hr]
        simp
      have hblank := mem_of_isGap (le_of_mem_body hx3) (h.barred x3 hx3) h3
      exact h.separators _ (hmisread l hl x2 hm x3 hblank) ⟨a, more, by rw [hbody, hr]; simp⟩
  rw [Place.isAnyMarker, hmark '-' (by decide), hmark '.' (by decide)]
  rfl

/-- Characters that are the same can be taken off at either end. -/
theorem cons_eq_concat {c : Char} {w : List Char} (h : ∀ x ∈ w, x = c) : c :: w = w ++ [c] := by
  rw [List.eq_replicate_of_mem h, ← List.replicate_succ, List.replicate_succ']

namespace Run

variable {f : Char → Bool} {c : Char} {w : List Char}

/-- What a string goes on with behind a run. -/
abbrev GoesOn (r : Written) (w : List Char) (p : Yaml.Place) : Prop :=
  Goes (p.skip w.length) (r.map Piece.char) (r.body.length + 1)

theorem goes_word (h : Run isQuotedPlain s w r) (hrest : p.rest = s.body ++ '"' :: t)
    (hgo : GoesOn r w p) : Goes p (s.map Piece.char) (s.body.length + 1) := by
  have hstop : ∀ x ∈ (r.body ++ '"' :: t).head?, isQuotedPlain x = false := by
    intro x hx
    rcases head?_body_append hx with rfl | rfl | ⟨legal, -, hhead, -⟩
    case inl | inr.inl => decide
    exact h.ends x legal hhead
  have hsplit : p.rest = w ++ (r.body ++ '"' :: t) := by rw [hrest, h.body, List.append_assoc]
  refine (hgo.word h.all hstop hsplit).congr h.chars ?_
  rw [h.body, List.length_append, Nat.add_assoc]

theorem goes_space (h : Run (· == ' ') s (c :: w) r) (hs : s.Readable)
    (hrest : p.rest = s.body ++ '"' :: t) (hgo : GoesOn r (c :: w) p) :
    Goes p (s.map Piece.char) (s.body.length + 1) := by
  have hall : ∀ x ∈ c :: w, x = ' ' := fun x hx => beq_iff_eq.mp (h.all x hx)
  obtain ⟨rfl, hw⟩ := List.forall_mem_cons.mp hall
  have hsplit : p.rest = ' ' :: w ++ (r.body ++ '"' :: t) := by
    rw [hrest, h.body, List.append_assoc]
  have hstop : ∀ x ∈ (r.body ++ '"' :: t).head?, isSpaceOrTab x = false ∧ isBreak x = false := by
    intro x hx
    refine (hs.suffix h.suffix).not_blank ?_ hx
    intro c legal more hhead hmore hblank
    rcases List.mem_cons.mp hblank with rfl | hseparator
    · exact absurd (h.ends _ legal hhead) (by decide)
    · have hmisread : ∀ c ∈ Json.separators, [' ', c] ∈ misread :=
        List.forall_iff_forall_mem.mp (by decide)
      refine hs.separators _ (hmisread c hseparator) ⟨w, more, ?_⟩
      rw [h.body, hmore, cons_eq_concat hw]
      simp
  have hspace := quotedSpaces_of_spaces hall hstop (by simp) hsplit
  refine (hgo.space hsplit (by decide) hspace).congr h.chars ?_
  rw [h.body, List.length_append, List.length_cons, Nat.add_assoc]

theorem goes_separators (h : Run Json.separators.contains s (c :: w) r) (hs : s.Readable)
    (hrest : p.rest = s.body ++ '"' :: t) (hgo : GoesOn r (c :: w) p) :
    Goes p (s.map Piece.char) (s.body.length + 1) := by
  have hall : ∀ x ∈ c :: w, x ∈ Json.separators := fun x hx => by simpa using h.all x hx
  obtain ⟨hc, hw⟩ := List.forall_mem_cons.mp hall
  have hsplit : p.rest = c :: w ++ (r.body ++ '"' :: t) := by
    rw [hrest, h.body, List.append_assoc]
  -- what follows is judged by the last of the separators
  obtain ⟨a, l, hlast⟩ : ∃ a l, c :: w = a ++ [l] :=
    ⟨_, _, (List.dropLast_append_getLast (List.cons_ne_nil c w)).symm⟩
  have hl : l ∈ Json.separators := hall l (by rw [hlast]; simp)
  have hbody : s.body = a ++ l :: r.body := by rw [h.body, hlast]; simp
  have hstop : ∀ x ∈ (r.body ++ '"' :: t).head?, isSpaceOrTab x = false ∧ isBreak x = false := by
    intro x hx
    refine (hs.suffix h.suffix).not_blank ?_ hx
    intro c legal more hhead hmore hblank
    rcases List.mem_cons.mp hblank with rfl | hseparator
    · have hmisread : ∀ c ∈ Json.separators, [c, ' '] ∈ misread :=
        List.forall_iff_forall_mem.mp (by decide)
      refine hs.separators _ (hmisread l hl) ⟨a, more, ?_⟩
      rw [hbody, hmore]
      simp
    · exact absurd hseparator (by simpa using h.ends c legal hhead)
  have hbehind : (p.skip (c :: w).length).rest = r.body ++ '"' :: t :=
    Place.rest_skip_append hsplit
  have hmarker : (p.skip (w.length + 1)).isAnyMarker = false := hs.not_marked hl hbody hbehind
  have hspace := quotedSpaces_of_separators hc hw hstop hsplit hmarker
  have hgap : ∀ c ∈ Json.separators, isGap c = true := List.all_eq_true.mp (by decide)
  refine (hgo.space hsplit (hgap c hc) hspace).congr h.chars ?_
  rw [h.body, List.length_append, List.length_cons, Nat.add_assoc]

end Run

/-- **A string that is read as it is meant goes on with its characters**, up to the closing
quote. -/
theorem Readable.goes (h : s.Readable) (hrest : p.rest = s.body ++ '"' :: t) :
    Goes p (s.map Piece.char) (s.body.length + 1) := by
  induction hn : s.length using Nat.strongRecOn generalizing s p with
  | ind n ih =>
  rcases s with - | ⟨piece, s⟩
  · exact goes_end hrest
  have hs : Readable s := h.suffix (List.suffix_cons _ _)
  have hshort : s.length < n := by rw [← hn]; simp
  cases piece with
  | plain c legal =>
    have hbarred : isBarred c = false := h.barred c List.mem_cons_self
    -- a character that stands for itself begins a run of its kind, if it has one
    have hrun : ∀ f : Char → Bool, f c = true → ∃ w r, Run f (.plain c legal :: s) (c :: w) r ∧
        Run.GoesOn r (c :: w) p := by
      intro f hc
      obtain ⟨w, r, hw⟩ := exists_run f s
      refine ⟨w, r, hw.cons hc, ?_⟩
      have hlength := hw.suffix.length_le
      refine ih r.length (by omega) (hs.suffix hw.suffix) (Place.rest_skip_append ?_) rfl
      rw [hrest, (hw.cons hc).body, List.append_assoc]
    by_cases hgap : isGap c = true
    · rcases List.mem_cons.mp (mem_of_isGap legal.1 hbarred hgap) with rfl | hseparator
      · obtain ⟨w, r, hw, hgo⟩ := hrun (· == ' ') rfl
        exact hw.goes_space h hrest hgo
      · obtain ⟨w, r, hw, hgo⟩ := hrun Json.separators.contains (by simpa using hseparator)
        exact hw.goes_separators h hrest hgo
    by_cases hquote : c = '\''
    · subst hquote
      have hbehind : (p.skip 1).rest = body s ++ '"' :: t := by rw [Place.rest_skip, hrest]; rfl
      have hgo := (ih s.length hshort hs hbehind rfl).apostrophe hrest
      exact hgo.congr rfl (Nat.add_comm _ _)
    · have hplain : isQuotedPlain c = true := by
        simp [isQuotedPlain, hquote, legal, Bool.eq_false_iff.mpr hgap]
      obtain ⟨w, r, hw, hgo⟩ := hrun isQuotedPlain hplain
      exact hw.goes_word hrest hgo
  | short letter c legal =>
    have hstep : p.step.rest = letter :: (body s ++ '"' :: t) := by rw [Place.rest_step, hrest]; rfl
    have hbehind : (p.skip (1 + 1)).rest = body s ++ '"' :: t := by rw [Place.rest_skip, hrest]; rfl
    have hgo := (ih s.length hshort hs hbehind rfl).escape hrest (escapeAt_short legal hstep)
    have hlength : body (.short letter c legal :: s) = '\\' :: letter :: body s := rfl
    exact hgo.congr rfl (by rw [hlength]; simp only [List.length_cons]; omega)
  | code u legal =>
    have hstep : p.step.rest = u.text.tail ++ (body s ++ '"' :: t) := by
      rw [Place.rest_step, hrest]; rfl
    have hbehind : (p.skip (5 + 1)).rest = body s ++ '"' :: t := by rw [Place.rest_skip, hrest]; rfl
    have hgo := (ih s.length hshort hs hbehind rfl).escape hrest (escapeAt_code legal hstep)
    have hlength : (body (.code u legal :: s)).length = 6 + (body s).length := by
      rw [body, List.flatMap_cons, List.length_append]
      rfl
    exact hgo.congr rfl (by rw [hlength]; omega)
  | pair high low legal => exact absurd (h.pairs _ List.mem_cons_self) (by simp [Piece.isPair])

/-- **A string that is read as it is meant is a scalar in double quotes, with its characters.** -/
theorem Readable.quotedScalar (h : s.Readable) (hrest : p.rest = s.text ++ t) :
    Yaml.quotedScalar true p = .ok (s.map Piece.char, p.skip s.text.length) := by
  have hstep : p.step.rest = s.body ++ '"' :: t := by
    rw [Place.rest_step, hrest, text]
    simp
  obtain ⟨words, q, hwords, -, hread⟩ := h.goes hstep [] (p.step.rest.length + 1) (by omega)
  obtain ⟨done, hread, hdone⟩ := hread (q.rest.length + 1) (by omega)
  have hplace : p.step.skip (s.body.length + 1) = p.skip s.text.length := by
    simp [text, Place.skip]
  rw [Yaml.quotedScalar]
  simp only [bind, Except.bind, pure, Except.pure, hwords, hread, hdone, hplace]
  rfl

end TermRef.Json.Written
