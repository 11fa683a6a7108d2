/-
TermRef/Proofs/Yaml/Word.lean

Words without quotes, as a lexer meets them.

The characters of such a word mean nothing to the lexer (`isWordChar`), and so none of them ends
it (`plainWord_append`).  Only a hyphen means something, if a blank follows it or if it marks a
document.  So where a word may begin and the scalar ends behind it (`Ends`), the lexer reads it as
one plain scalar, as it is written (`Lexer.token_of_word`, `Lexer.plain_of_word`), be it in a block
or in brackets.
-/
import TermRef.Proofs.Yaml.Place
import TermRef.Yaml.Lexer

namespace TermRef.Yaml

/-- A character that means nothing, or nothing within a word. -/
def isWordChar (c : Char) : Bool := c == '-' || !Lexer.isIndicator c

variable {c : Char} {w tail : List Char} {indent : Int} {flow broken : Bool} {p q : Place}

theorem ne_of_isWordChar {x : Char} (h : isWordChar c = true) (hx : isWordChar x = false) :
    c ≠ x := by
  rintro rfl
  rw [h] at hx
  cases hx

theorem ne_of_mem_of_isWordChar {xs : List Char} (h : isWordChar c = true)
    (hxs : (xs.all fun x => !isWordChar x) = true) : ∀ x ∈ xs, c ≠ x := by
  intro x hx
  have hno := List.all_eq_true.mp hxs x hx
  exact ne_of_isWordChar h (by simpa using hno)

theorem isGap_of_isWordChar (h : isWordChar c = true) : isGap c = false := by
  refine Bool.eq_false_iff.mpr fun hgap => ?_
  have hhyphen : c ≠ '-' := by
    rintro rfl
    revert hgap
    decide
  simp [isWordChar, Lexer.isIndicator, hgap, hhyphen] at h

/-- **No word is broken off within itself**: the word that begins with it ends behind it. -/
theorem plainWord_append (flow : Bool) (hw : ∀ c ∈ w, isWordChar c = true) :
    plainWord flow (w ++ tail) = w ++ plainWord flow tail := by
  induction w with
  | nil => rfl
  | cons c w ih =>
    obtain ⟨hc, hw⟩ := List.forall_mem_cons.mp hw
    have hmark : ∀ x ∈ [':', '?', ',', '[', ']', '\x7b', '\x7d'], c ≠ x :=
      ne_of_mem_of_isWordChar hc (by decide)
    simp only [List.forall_mem_cons] at hmark
    simp [plainWord, isFlowMark, isGap_of_isWordChar hc, hmark, ih hw]

/-- A word that is read wherever it stands, since it begins with nothing that could be a mark. -/
structure IsWord (w : List Char) : Prop where
  chars : ∀ c ∈ w, isWordChar c = true
  start : ∃ c r, w = c :: r ∧ c ≠ '.' ∧ c ≠ '\ufeff' ∧ (c = '-' → ∃ x u, r = x :: u ∧ x ≠ '-')

theorem isWord_cons (hc : c ∉ ['-', '.', '\ufeff']) (h : ∀ x ∈ c :: w, isWordChar x = true) :
    IsWord (c :: w) where
  chars := h
  start := by
    simp only [List.mem_cons, List.not_mem_nil, or_false, not_or] at hc
    exact ⟨c, w, rfl, hc.2.1, hc.2.2, fun hhyphen => absurd hhyphen hc.1⟩

/-- No document is marked where such a word stands. -/
theorem IsWord.isAnyMarker_eq_false (h : IsWord w) (hp : p.rest = w ++ tail) :
    p.isAnyMarker = false := by
  obtain ⟨c, r, rfl, hstop, -, hhyphen⟩ := h.start
  have hhead := Place.head_eq hp
  by_cases hc : c = '-'
  · subst hc
    obtain ⟨x, u, rfl, hx⟩ := hhyphen rfl
    simp [Place.isAnyMarker, Place.isMarker, hhead, Place.ahead, hp, hx]
  · simp [Place.isAnyMarker, Place.isMarker, hhead, hc, hstop]

theorem IsWord.exists_cons (h : IsWord w) : ∃ c r, w = c :: r ∧ isSkipped c = false := by
  obtain ⟨c, r, rfl, -, hmark, -⟩ := h.start
  have hc : isWordChar c = true := h.chars c List.mem_cons_self
  have hgap := isGap_of_isWordChar hc
  simp only [isGap, isSpaceOrEnd, isBreakOrEnd, Bool.or_eq_false_iff, beq_eq_false_iff_ne] at hgap
  exact ⟨c, r, rfl, isSkipped_eq_false.mpr
    ⟨hgap.2.1, ne_of_isWordChar hc (by decide), hmark, hgap.2.2.2⟩⟩

theorem IsWord.ne_hyphen (h : IsWord w) : w ≠ ['-'] := by
  rintro rfl
  obtain ⟨c, r, hcons, -, -, hhyphen⟩ := h.start
  obtain ⟨rfl, rfl⟩ := List.cons.inj hcons
  obtain ⟨x, u, hnil, -⟩ := hhyphen rfl
  cases hnil

/-! ### Plain scalars -/

/-- A plain scalar ends behind a word: no word is joined to it, and the text goes on in a way that
leaves no space, without another word, with a comment, or on a line that is indented less. -/
structure Ends (flow : Bool) (indent : Int) (p : Place) (broken : Bool) (q : Place) : Prop where
  word : plainWord flow p.rest = []
  spaces : ∃ next, plainSpaces p = (next, broken, q) ∧
    ((next.isEmpty || q.head == '#' || (!flow && (q.column : Int) < indent)) = true ∨
      plainWord flow q.rest = [])

/-- Spaces and line feeds behind a word are passed over. -/
theorem exists_plainBreaks (hw : IsLayout w)
    (ht : ∀ c ∈ tail.head?, isSkipped c = false ∧ c ≠ '-' ∧ c ≠ '.') (h : p.rest = w ++ tail)
    {fuel : Nat} (hfuel : w.length < fuel) (done : List Char) :
    ∃ more, plainBreaks fuel done p = (some more, p.skip w.length) := by
  obtain ⟨fuel, rfl⟩ := Nat.exists_eq_add_one_of_ne_zero (Nat.ne_zero_of_lt hfuel)
  induction w generalizing p fuel done with
  | nil =>
    have hrest : p.rest = tail := h
    have hskipped : ∀ c ∈ p.rest.head?, isSkipped c = false := fun c hc => (ht c (hrest ▸ hc)).1
    simp only [isSkipped_eq_false] at hskipped
    have hspace : p.head ≠ ' ' := Place.head_ne (by decide) fun c hc => (hskipped c hc).1
    have hbreak : p.lineBreak? = none :=
      Place.lineBreak?_eq_none fun c hc => (hskipped c hc).2.2.2
    exact ⟨done.reverse, by simp [plainBreaks, hspace, hbreak, Place.skip]⟩
  | cons c w ih =>
    obtain ⟨hc, hlayout⟩ := List.forall_mem_cons.mp hw
    have hstep : p.step.rest = w ++ tail := by rw [Place.rest_step, h]; rfl
    have hlength : w.length < fuel := by simpa using hfuel
    obtain ⟨fuel, rfl⟩ := Nat.exists_eq_add_one_of_ne_zero (Nat.ne_zero_of_lt hlength)
    rcases hc with rfl | rfl
    · obtain ⟨more, hmore⟩ := ih hlayout hstep done fuel hlength
      exact ⟨more, by rw [plainBreaks]; simp [Place.head_eq h, hmore, Place.skip]⟩
    · have hmarker : p.step.isAnyMarker = false :=
        Place.isAnyMarker_of_layout hlayout (fun c hc => (ht c hc).2) hstep
      obtain ⟨more, hmore⟩ := ih hlayout hstep ('\n' :: done) fuel hlength
      refine ⟨more, ?_⟩
      rw [plainBreaks]
      simp [Place.head_eq h, Place.lineBreak?_newline h, hmarker, hmore, Place.skip]

theorem exists_plainSpaces (hw : IsLayout w)
    (ht : ∀ c ∈ tail.head?, isSkipped c = false ∧ c ≠ '-' ∧ c ≠ '.') (h : p.rest = w ++ tail) :
    ∃ next broken, plainSpaces p = (next, broken, p.skip w.length) := by
  rcases hw.split with hspaces | ⟨u, v, rfl, hu, hv⟩
  · have hskipped : ∀ c ∈ tail.head?, isSkipped c = false := fun c hc => (ht c hc).1
    simp only [isSkipped_eq_false] at hskipped
    have htake : p.takeWhile (· == ' ') = (w, p.skip w.length) :=
      Place.takeWhile_eq (by simpa using hspaces) (fun c hc => by simpa using (hskipped c hc).1) h
    have hbreak : (p.skip w.length).lineBreak? = none :=
      Place.lineBreak?_eq_none fun c hc => (hskipped c (Place.rest_skip_append h ▸ hc)).2.2.2
    exact ⟨w, false, by simp [plainSpaces, htake, hbreak]⟩
  · have hrest : p.rest = u ++ '\n' :: (v ++ tail) := by simpa using h
    have htake : p.takeWhile (· == ' ') = (u, p.skip u.length) :=
      Place.takeWhile_eq (by simpa using hu) (by simp) hrest
    have hfeed : (p.skip u.length).rest = '\n' :: (v ++ tail) := Place.rest_skip_append hrest
    have hstep : (p.skip u.length).step.rest = v ++ tail := by rw [Place.rest_step, hfeed]; rfl
    have hmarker : (p.skip u.length).step.isAnyMarker = false :=
      Place.isAnyMarker_of_layout hv (fun c hc => (ht c hc).2) hstep
    have hfuel : v.length < (p.skip u.length).step.rest.length + 1 := by
      rw [hstep, List.length_append]
      omega
    obtain ⟨more, hmore⟩ := exists_plainBreaks hv ht hstep hfuel []
    have hplace : (p.skip u.length).step.skip v.length = p.skip (u ++ '\n' :: v).length := by
      have hnext : (p.skip u.length).step = p.skip (u.length + 1) := Place.skip_skip _ 1 _
      rw [hnext, Place.skip_skip, List.length_append, List.length_cons, Nat.add_right_comm,
        Nat.add_assoc]
    exact ⟨foldBreaks '\n' more, true, by
      simp [plainSpaces, htake, Place.lineBreak?_newline hfeed, hmarker, hmore, hplace]⟩

/-- In brackets a plain scalar ends with the layout behind its word, where a comma or a closing
bracket follows. -/
theorem exists_ends (indent : Int) (hw : IsLayout w) (hc : c ∈ [',', ']', '\x7d'])
    (h : p.rest = w ++ c :: tail) : ∃ broken, Ends true indent p broken (p.skip w.length) := by
  have hmarks : ∀ c ∈ [',', ']', '\x7d'], (isSkipped c = false ∧ c ≠ '-' ∧ c ≠ '.') ∧
      isFlowMark c = true := List.forall_iff_forall_mem.mp (by decide)
  obtain ⟨hbehind, hmark⟩ := hmarks c hc
  have hnone : plainWord true (c :: tail) = [] := by simp [plainWord, hmark]
  have hhead : ∀ x ∈ (c :: tail).head?, isSkipped x = false ∧ x ≠ '-' ∧ x ≠ '.' :=
    fun x hx => Option.some.inj hx ▸ hbehind
  obtain ⟨next, broken, hspaces⟩ := exists_plainSpaces hw hhead h
  refine ⟨broken, ?_, next, hspaces, .inr (by rw [Place.rest_skip_append h, hnone])⟩
  rw [h]
  rcases w with - | ⟨x, w⟩
  · exact hnone
  · have hgap : isGap x = true := by
      rcases hw x List.mem_cons_self with rfl | rfl <;> decide
    simp [plainWord, hgap]

/-- **A word at which a plain scalar begins is the whole scalar.** -/
theorem plainFrom_of_word (hw : ∀ c ∈ w, isWordChar c = true) (hne : w ≠ [])
    (hp : p.rest = w ++ tail) (hends : Ends flow indent (p.skip w.length) broken q) (fuel : Nat)
    (fresh : Bool) : plainFrom flow indent (fuel + 1) [] fresh [] p = ([w, []], broken, q) := by
  obtain ⟨next, hspaces, hstop⟩ := hends.spaces
  obtain ⟨c, r, rfl⟩ := List.exists_cons_of_ne_nil hne
  have hhead : p.head ≠ '#' := by
    rw [Place.head_eq hp]
    exact ne_of_isWordChar (hw c List.mem_cons_self) (by decide)
  have hbehind : plainWord flow tail = [] := Place.rest_skip_append hp ▸ hends.word
  have hword : plainWord flow p.rest = c :: r := by
    rw [hp, plainWord_append flow hw, hbehind, List.append_nil]
  rw [plainFrom, if_neg (by simpa using hhead)]
  simp only [hword, List.isEmpty_cons, Bool.false_eq_true, if_false, hspaces]
  split
  · rfl
  · -- nothing is read behind the space either
    rename_i hmore
    have hnone : plainWord flow q.rest = [] := hstop.resolve_left hmore
    cases fuel with
    | zero => rfl
    | succ fuel => simp [plainFrom, hnone]

namespace Lexer

variable {l m : Lexer}

/-- At a word begins a plain scalar, except where a document is marked. -/
theorem token_of_word (hw : ∀ c ∈ w, isWordChar c = true) (hne : w ≠ []) (hhyphen : w ≠ ['-'])
    (hp : l.place.rest = w ++ tail)
    (hmarker : l.place.column = 0 → l.place.isAnyMarker = false) : l.token = l.plain := by
  obtain ⟨c, r, rfl⟩ := List.exists_cons_of_ne_nil hne
  obtain ⟨hc, hr⟩ := List.forall_mem_cons.mp hw
  -- a hyphen at the start is followed by more of the word
  have hgap : c = '-' → isGap (l.place.ahead 1) = false := by
    rintro rfl
    obtain ⟨d, r, rfl⟩ := List.exists_cons_of_ne_nil fun hnil : r = [] => hhyphen (hnil ▸ rfl)
    rw [Place.ahead, hp]
    exact isGap_of_isWordChar (hr d List.mem_cons_self)
  have hhead : l.place.head = c := Place.head_eq hp
  have hrest : l.place.rest.isEmpty = false := by rw [hp]; rfl
  have hcolumn : ∀ x ∈ ['-', '.'], (l.place.column == 0 && l.place.isMarker x) = false := by
    intro x hx
    by_cases hzero : l.place.column = 0
    · have hnone := hmarker hzero
      rw [Place.isAnyMarker, Bool.or_eq_false_iff] at hnone
      simp only [List.mem_cons, List.not_mem_nil, or_false] at hx
      rcases hx with rfl | rfl <;> simp [hnone]
    · simp [hzero]
  simp only [List.forall_mem_cons] at hcolumn
  have hmark : ∀ x ∈ ['%', '[', '\x7b', ']', '\x7d', ',', '?', ':', '*', '&', '!', '|', '>', '\'',
      '"', '#', '@', '\x60'], c ≠ x := ne_of_mem_of_isWordChar hc (by decide)
  simp only [List.forall_mem_cons] at hmark
  have hstarts : l.startsPlain = true := by
    rw [startsPlain, hhead]
    by_cases hdash : c = '-'
    · simp [hdash, hgap hdash]
    · simp [isIndicator, isGap_of_isWordChar hc, hdash, hmark]
  have hdash : (c == '-' && isGap (l.place.ahead 1)) = false := by
    by_cases hdash : c = '-'
    · simp [hgap hdash]
    · simp [hdash]
  simp [token, hhead, hrest, hcolumn, hdash, hstarts, hmark]

/-- A key that may begin is noted, and nothing else changes. -/
theorem exists_keys_of_saveKey (h : l.saveKey = .ok m) : ∃ keys, m = { l with keys } := by
  have hremove : ∀ {m : Lexer}, l.removeKey = .ok m → ∃ keys, m = { l with keys } := by
    intro m h
    rw [removeKey] at h
    split at h
    · split at h
      · cases h
      · exact ⟨_, (Except.ok.inj h).symm⟩
    · exact ⟨l.keys, (Except.ok.inj h).symm⟩
  rw [saveKey] at h
  split at h
  · rcases hr : l.removeKey with e | m'
    · rw [hr] at h
      cases h
    · obtain ⟨keys, rfl⟩ := hremove hr
      rw [hr] at h
      exact ⟨_, (Except.ok.inj h).symm⟩
  · exact ⟨l.keys, (Except.ok.inj h).symm⟩

/-- **A word is read as one plain scalar**, where it may begin and the scalar ends behind it. -/
theorem plain_of_word (hw : ∀ c ∈ w, isWordChar c = true) (hne : w ≠ [])
    (hp : l.place.rest = w ++ tail) (hsave : l.saveKey = .ok m)
    (hends : Ends (l.depth != 0) (l.indent + 1) (l.place.skip w.length) broken q) :
    l.plain = .ok { m.push (.scalar (String.ofList w) true) with
      place := q, allowKey := broken } := by
  obtain ⟨keys, rfl⟩ := exists_keys_of_saveKey hsave
  have hfrom := plainFrom_of_word hw hne hp hends (w ++ tail).length false
  have hindent : indent { l with keys } = l.indent := rfl
  rw [plain, hsave]
  simp only [bind, Except.bind, pure, Except.pure, push, hp, hindent, hfrom]
  simp

end Lexer

end TermRef.Yaml
