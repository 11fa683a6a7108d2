/-
TermRef/Proofs/Reference/Bracketed.lean

What the two named grammars have in common.

A match takes a head, and a tail where one follows it: the whole reference in the default
grammar, which has no tails, and `[words@scope:version]` with `(id#trait)` in the
alternate one.  `Grammar.Bracketed` says what a scan needs to know of them, so that a
fact about scans is proved once for both (`standard_bracketed`, `alternate_bracketed`).

Heads are `IsHead`: an opening bracket, the words, and then nothing that opens another
bracket.  Words may have brackets of their own, so what is left of a head from an inner
bracket on is like a head again (`IsHead.inner`).  `Quiet` says of a text that no head begins
in it; a scan passes by such a text (`Grammar.Bracketed.picks_past`).
-/
import TermRef.Proofs.Reference.Standard
import TermRef.Proofs.Reference.Alternate
import TermRef.Proofs.Reference.Scan

namespace TermRef

open Pattern Grammar

/-! ### Heads -/

/-- What may follow the words: an at sign, or an opening parenthesis and an at sign before
any closing one. -/
def IsSequel (w : List Char) : Prop :=
  '[' ∉ w ∧ ((∃ v, w = '@' :: v) ∨ ∃ u v, w = ']' :: '(' :: (u ++ '@' :: v) ∧ ')' ∉ u)

/-- An opening bracket, characters of words, and what may follow these. -/
def IsHead (w : List Char) : Prop :=
  ∃ shown sequel, w = '[' :: (shown ++ sequel) ∧ (∀ c ∈ shown, isShown c = true) ∧ IsSequel sequel

/-- A split of a text at a character, in front of what does not have it, is a split of what
stands before. -/
theorem append_eq_append_of_not_mem {x : Char} {u v p q : List Char} (hv : x ∉ v)
    (h : u ++ v = p ++ x :: q) : ∃ u', u = p ++ x :: u' ∧ q = u' ++ v := by
  -- either the character would stand in `v`, or it stands in `u`
  rcases List.append_eq_append_iff.mp h with ⟨as, -, hq⟩ | ⟨bs, hu, hq⟩
  · exact absurd (hq ▸ by simp) hv
  · rcases bs with - | ⟨b, bs⟩
    · exact absurd ((show v = x :: q from hq.symm) ▸ by simp) hv
    · obtain ⟨rfl, rfl⟩ := List.cons.inj hq
      exact ⟨bs, hu, rfl⟩

/-- What does not have a character and stands in front of it ends before it. -/
theorem prefix_of_not_mem {x : Char} {t p r : List Char} (ht : x ∉ t) (hp : t <+: p ++ x :: r) :
    t <+: p := by
  obtain ⟨s, hs⟩ := hp
  rcases List.append_eq_append_iff.mp hs with ⟨as, rfl, -⟩ | ⟨q, rfl, hq⟩
  · exact List.prefix_append _ _
  · rcases q with - | ⟨b, q⟩
    · simp
    · obtain ⟨rfl, -⟩ := List.cons.inj hq
      exact absurd (by simp) ht

/-- From an inner bracket on, a head is like a head again. -/
theorem IsHead.inner {p q : List Char} (h : IsHead (p ++ '[' :: q)) : IsHead ('[' :: q) := by
  obtain ⟨shown, sequel, heq, hshown, hsequel⟩ := h
  rcases p with - | ⟨x, p⟩
  · exact ⟨shown, sequel, heq, hshown, hsequel⟩
  · obtain ⟨u, rfl, rfl⟩ := append_eq_append_of_not_mem hsequel.1 (List.cons.inj heq).2.symm
    exact ⟨u, sequel, rfl, fun c hc => hshown c (by simp [hc]), hsequel⟩

/-- A head begins with a bracket. -/
theorem IsHead.bracket {w : List Char} (h : IsHead w) : ∃ v, w = '[' :: v := by
  obtain ⟨shown, sequel, heq, -⟩ := h
  exact ⟨_, heq⟩

/-! ### The two grammars -/

/-- A grammar whose matches take a head, and a tail where one follows. -/
structure Grammar.Bracketed (g : Grammar) (Head Tail : List Char → Prop) : Prop where
  /-- A match has taken a head, and what follows it is no tail unless it has taken one. -/
  took : ∀ {c d}, g.pattern.matchAt? c = some d → ∃ h t, Head h ∧ (t = [] ∨ Tail t) ∧
    c.rest = h ++ t ++ d.rest ∧ (t = [] → ∀ w, Tail w → ¬ w <+: d.rest)
  /-- Where there is a head, there is a match. -/
  isSome : ∀ {c : Cursor} {h r}, Head h → c.rest = h ++ r → (g.pattern.matchAt? c).isSome
  head_inj : ∀ {h h' r r'}, Head h → Head h' → h ++ r = h' ++ r' → h = h'
  tail_inj : ∀ {t t' r r'}, Tail t → Tail t' → t ++ r = t' ++ r' → t = t'
  isHead : ∀ {h}, Head h → IsHead h
  not_mem_tail : ∀ {t}, Tail t → '[' ∉ t
  /-- A match never ends in an escape. -/
  closed : ∀ {c d}, g.pattern.matchAt? c = some d → isEscaped d = false
  /-- A match denotes what its text denotes elsewhere. -/
  same : ∀ {c d c' d' w}, g.pattern.matchAt? c = some d → g.pattern.matchAt? c' = some d' →
    c.rest = w ++ d.rest → c'.rest = w ++ d'.rest → g.interpret d = g.interpret d'
  /-- A match shows words. -/
  words : ∀ {c d}, g.pattern.matchAt? c = some d →
    (g.interpret d).showtext ≠ "" ∧ ∀ x ∈ (g.interpret d).showtext.toList, isShown x = true

/-! ### Matches in two texts -/

namespace Grammar.Bracketed

variable {g : Grammar} {Head Tail : List Char → Prop} {c c' d : Cursor}

/-- A match begins with a bracket. -/
theorem bracket (hb : g.Bracketed Head Tail) (hd : g.pattern.matchAt? c = some d) :
    ∃ r, c.rest = '[' :: r := by
  obtain ⟨h, t, hh, -, hr, -⟩ := hb.took hd
  obtain ⟨v, rfl⟩ := (hb.isHead hh).bracket
  exact ⟨_, hr⟩

/-- Only what is escaped is passed over, because a match takes a bracket at least. -/
theorem isPassedOver_eq (hb : g.Bracketed Head Tail) (hd : g.pattern.matchAt? c = some d) :
    isPassedOver c d = isEscaped c := by
  have hne : d.pos ≠ c.pos := by
    obtain ⟨w, hw, -, hpos⟩ := Pattern.matchAt?_ahead hd
    obtain ⟨h, t, hh, -, hr, -⟩ := hb.took hd
    obtain ⟨v, rfl⟩ := (hb.isHead hh).bracket
    have hlen := congrArg List.length (hw.symm.trans hr)
    simp only [List.length_append, List.length_cons] at hlen
    omega
  simp [isPassedOver, hne]

/-- After a match, wherever its text stands, nothing is escaped. -/
theorem isEscaped_past (hb : g.Bracketed Head Tail)
    (hm : g.pattern.matchAt? c = some d) (hp : isPassedOver c d = false) {w : List Char}
    (hr : c.rest = w ++ d.rest) (k : Cursor) (r : List Char) :
    isEscaped (k.past w r) = false := by
  obtain ⟨v, hne, hv, hbefore, -⟩ := ahead_of_not_passedOver (Pattern.matchAt?_ahead hm) hp
  obtain rfl := List.append_cancel_right (hr.symm.trans hv)
  obtain ⟨v, z, rfl⟩ := (List.eq_nil_or_concat w).resolve_left hne
  have hclosed := hb.closed hm
  rw [isEscaped, hbefore] at hclosed
  simpa [isEscaped] using hclosed

/-- Where a head begins and nothing is picked, the place is escaped. -/
theorem isEscaped_of_passed (hb : g.Bracketed Head Tail)
    (hc : ∀ d, g.pattern.matchAt? c = some d → isPassedOver c d = true) {h : List Char}
    (hh : Head h) (hp : h <+: c.rest) : isEscaped c = true := by
  obtain ⟨r, hr⟩ := hp
  obtain ⟨d, hd⟩ := Option.isSome_iff_exists.mp (hb.isSome hh hr.symm)
  rw [← hb.isPassedOver_eq hd]
  exact hc d hd

/-- Where one text has nothing to pick, another has nothing either, if it begins with a head
only where the first one does. -/
theorem isPassedOver_of_heads (hb : g.Bracketed Head Tail)
    (hheads : ∀ h, Head h → h <+: c'.rest → ∃ h', Head h' ∧ h' <+: c.rest)
    (he : isEscaped c' = isEscaped c)
    (hc : ∀ d, g.pattern.matchAt? c = some d → isPassedOver c d = true) :
    ∀ d, g.pattern.matchAt? c' = some d → isPassedOver c' d = true := by
  intro d' hd'
  obtain ⟨h, t, hh, -, hr, -⟩ := hb.took hd'
  obtain ⟨h', hh', hp'⟩ := hheads h hh ⟨t ++ d'.rest, by rw [hr, List.append_assoc]⟩
  rw [hb.isPassedOver_eq hd', he]
  exact hb.isEscaped_of_passed hc hh' hp'

/-- Two matches that take their heads from one text leave the same rest. -/
theorem rest_unique (hb : g.Bracketed Head Tail) {t t' r r' : List Char} (ht : t = [] ∨ Tail t)
    (ht' : t' = [] ∨ Tail t') (hlast : t = [] → ∀ w, Tail w → ¬ w <+: r)
    (hlast' : t' = [] → ∀ w, Tail w → ¬ w <+: r') (h : t ++ r = t' ++ r') : r = r' := by
  rcases ht with rfl | ht
  · rcases ht' with rfl | ht'
    · exact h
    · exact absurd ⟨r', h.symm⟩ (hlast rfl t' ht')
  · rcases ht' with rfl | ht'
    · exact absurd ⟨r, h⟩ (hlast' rfl t ht)
    · obtain rfl := hb.tail_inj ht ht' h
      exact List.append_cancel_left h

/-- What one text has a match with, another has one with as well, if what follows there begins
with a tail only where it does in the first. -/
theorem matchAt?_of_tails (hb : g.Bracketed Head Tail) (hd : g.pattern.matchAt? c = some d)
    {w out : List Char} (hw : c.rest = w ++ d.rest) (hw' : c'.rest = w ++ out)
    (htails : ∀ t, Tail t → t <+: out → t <+: d.rest) :
    ∃ d', g.pattern.matchAt? c' = some d' ∧ d'.rest = out := by
  obtain ⟨h, t, hh, ht, hr, hlast⟩ := hb.took hd
  obtain rfl := List.append_cancel_right (hw.symm.trans hr)
  rw [List.append_assoc] at hw'
  obtain ⟨d', hd'⟩ := Option.isSome_iff_exists.mp (hb.isSome hh hw')
  refine ⟨d', hd', ?_⟩
  -- the heads are the same, and so are the tails, because the texts agree on them
  obtain ⟨h', t', hh', ht', hr', hlast'⟩ := hb.took hd'
  rw [hw', List.append_assoc] at hr'
  obtain rfl := hb.head_inj hh hh' hr'
  have htail := List.append_cancel_left hr'
  exact (hb.rest_unique ht ht' (fun ht w hw hp => hlast ht w hw (htails w hw hp)) hlast'
    htail).symm

/-- What is picked in one text is picked in another as well, where it stands there, if what follows
it there begins with a tail only where it does in the first. -/
theorem picked_again (hb : g.Bracketed Head Tail) (hd : g.pattern.matchAt? c = some d)
    (hp : isPassedOver c d = false) {w out : List Char} (hw : c.rest = w ++ d.rest)
    (hw' : c'.rest = w ++ out) (htails : ∀ t, Tail t → t <+: out → t <+: d.rest)
    (he : isEscaped c' = isEscaped c) :
    ∃ d', g.pattern.matchAt? c' = some d' ∧ isPassedOver c' d' = false ∧ d'.rest = out ∧
      d'.before = w.reverse ++ c'.before ∧ d'.pos = c'.pos + w.length ∧
      g.occurrence c' d' =
        { g.occurrence c d with start := c'.pos, stop := c'.pos + w.length } := by
  obtain ⟨d', hd', rfl⟩ := hb.matchAt?_of_tails hd hw hw' htails
  have hp' : isPassedOver c' d' = false := by
    rw [hb.isPassedOver_eq hd', he, ← hb.isPassedOver_eq hd, hp]
  obtain ⟨v, -, hv, -, -, htext⟩ := ahead_of_not_passedOver (Pattern.matchAt?_ahead hd) hp
  obtain rfl := List.append_cancel_right (hv.symm.trans hw)
  obtain ⟨u, -, hu, hbefore, hpos, htext'⟩ :=
    ahead_of_not_passedOver (Pattern.matchAt?_ahead hd') hp'
  obtain rfl := List.append_cancel_right (hu.symm.trans hw')
  refine ⟨d', hd', hp', rfl, hbefore, hpos, ?_⟩
  simp only [Grammar.occurrence, htext, htext', hpos, hb.same hd' hd hw' hw]

/-- A head, with the tail after it if there is one, does not end in an escape. -/
theorem isEscape_last (hb : g.Bracketed Head Tail) {h t u : List Char} {x : Char} (hh : Head h)
    (ht : t = [] ∨ Tail t) (heq : h ++ t = u ++ [x]) : isEscape x = false := by
  obtain ⟨d, hd⟩ := Option.isSome_iff_exists.mp
    (hb.isSome (c := .ofText (h ++ t)) hh rfl)
  obtain ⟨h', t', hh', ht', hr, hlast⟩ := hb.took hd
  rw [Cursor.ofText_rest, List.append_assoc] at hr
  obtain rfl := hb.head_inj hh hh' hr
  have htail : t = t' ++ d.rest := List.append_cancel_left hr
  -- the match takes all there is
  have hend : d.rest = [] := by
    rcases ht' with rfl | ht'
    · rcases ht with rfl | ht
      · exact htail.symm
      · exact absurd ⟨[], by rw [List.append_nil, htail]; rfl⟩ (hlast rfl t ht)
    · rcases ht with rfl | ht
      · exact (List.append_eq_nil_iff.mp htail.symm).2
      · obtain rfl := hb.tail_inj ht ht' ((List.append_nil t).trans htail)
        exact List.append_right_eq_self.mp htail.symm
  obtain ⟨w, hw, hbefore, -⟩ := Pattern.matchAt?_ahead hd
  have hclosed := hb.closed hd
  rw [Cursor.ofText_rest, hend, List.append_nil, heq] at hw
  rw [isEscaped, hbefore, ← hw, List.reverse_append] at hclosed
  exact hclosed

end Grammar.Bracketed

/-! ### Where no head begins -/

/-- No head begins in `l` when `x` follows it. -/
def Quiet (Head : List Char → Prop) (l x : List Char) : Prop :=
  ∀ u v, l = u ++ '[' :: v → ∀ h, Head h → ¬ h <+: '[' :: v ++ x

namespace Quiet

variable {Head : List Char → Prop} {l m x : List Char}

theorem of_not_mem (h : '[' ∉ l) : Quiet Head l x := by
  rintro u v rfl
  exact absurd (by simp) h

theorem append (hl : Quiet Head l (m ++ x)) (hm : Quiet Head m x) : Quiet Head (l ++ m) x := by
  intro u v huv
  -- the bracket stands in `m` or in `l`
  rcases List.append_eq_append_iff.mp huv with ⟨s, rfl, hs⟩ | ⟨s, hs, hs'⟩
  · exact hm s v hs
  · rcases s with - | ⟨b, s⟩
    · exact hm [] v hs'.symm
    · obtain ⟨rfl, hv⟩ := List.cons.inj hs'
      have hsplit : '[' :: v ++ x = '[' :: s ++ (m ++ x) := by simp [hv]
      rw [hsplit]
      exact hl u s hs

end Quiet

/-- Where no head begins, nothing is picked. -/
theorem Grammar.Bracketed.picks_past {g : Grammar} {Head Tail : List Char → Prop}
    (hb : g.Bracketed Head Tail) {l x : List Char} {os : List Occurrence} (hl : Quiet Head l x)
    {c : Cursor} (hr : c.rest = l ++ x) (hx : g.Picks (c.past l x) os) : g.Picks c os := by
  induction l generalizing c with
  | nil => rwa [show x = c.rest from hr.symm, Cursor.past_nil] at hx
  | cons y l ih =>
    refine .pass hr (fun d hd => ?_) (ih (fun u v hu => ?_) rfl ?_)
    · obtain ⟨h, t, hh, -, hr', -⟩ := hb.took hd
      obtain ⟨shown, sequel, rfl, -⟩ := hb.isHead hh
      obtain rfl : '[' = y := (List.cons.inj (hr'.symm.trans hr)).1
      refine absurd ⟨t ++ d.rest, ?_⟩ (hl [] l rfl _ hh)
      rw [← List.append_assoc, ← hr', hr]
    · exact hl (y :: u) v (by rw [hu, List.cons_append])
    · rwa [Cursor.past_past]

/-! ### The grammars -/

theorem Mention.reference_words (m : Mention) (n : Naming) :
    (m.reference n).showtext ≠ "" ∧ ∀ x ∈ (m.reference n).showtext.toList, isShown x = true := by
  have hlist : (m.reference n).showtext.toList = m.shown := String.toList_ofList
  refine ⟨fun h => m.shown_ne_nil ?_, fun x hx => m.shown_isShown x (hlist ▸ hx)⟩
  rw [← hlist, h]
  rfl

/-- A place that is reached by taking a text which ends in a bracket is not escaped. -/
theorem isEscaped_of_took {c d : Cursor} {w : List Char} {x : Char} {reads : Nat → List Char}
    (t : c.Took d (w ++ [x]) reads) (hx : isEscape x = false) : isEscaped d = false := by
  rw [isEscaped, t.before, List.reverse_append]
  exact hx

theorem not_mem_of_all {p : Char → Bool} {w : List Char} {x : Char} (h : ∀ c ∈ w, p c = true)
    (hx : p x = false) : x ∉ w := fun hm => by
  have := h x hm
  rw [hx] at this
  cases this

theorem Naming.not_mem_text (n : Naming) {x : Char} (hx : (tagSet ['#']).mem x = false) :
    x ∉ n.text := not_mem_of_all n.text_all hx

theorem Origin.not_mem_text (o : Origin) {x : Char} (hx : (tagSet [':', '.']).mem x = false) :
    x ∉ o.text := not_mem_of_all o.text_all hx

theorem standard_bracketed :
    standard.Bracketed (fun w => ∃ m n, w = Mention.standardText m n) fun _ => False where
  took := by
    intro c d h
    obtain ⟨m, n, hr, -⟩ := standard_matchAt?_eq_some h
    exact ⟨_, [], ⟨m, n, rfl⟩, .inl rfl, by rw [hr, List.append_nil], fun _ _ hw => hw.elim⟩
  isSome := by
    rintro c _ r ⟨m, n, rfl⟩ hr
    exact standard_matchAt?_isSome hr
  head_inj := by
    rintro _ _ r r' ⟨m, n, rfl⟩ ⟨m', n', rfl⟩ h
    obtain ⟨rfl, rfl, -⟩ := Mention.standardText_append_inj h
    rfl
  tail_inj := fun ht => ht.elim
  isHead := by
    rintro _ ⟨m, n, rfl⟩
    refine ⟨m.shown, ']' :: '(' :: (n.text ++ '@' :: (m.origin.text ++ [')'])), ?_,
      m.shown_isShown, ?_, .inr ⟨n.text, m.origin.text ++ [')'], rfl, n.not_mem_text (by decide)⟩⟩
    · simp [Mention.standardText]
    · simp [n.not_mem_text (x := '[') (by decide), m.origin.not_mem_text (x := '[') (by decide)]
  not_mem_tail := fun ht => ht.elim
  closed := by
    intro c d h
    obtain ⟨m, n, t⟩ := standard_matchAt?_took h
    exact isEscaped_of_took t rfl
  same := by
    intro c d c' d' w h h' hr hr'
    obtain ⟨m, n, hm, href⟩ := standard_matchAt?_eq_some h
    obtain ⟨m', n', hm', href'⟩ := standard_matchAt?_eq_some h'
    obtain rfl := List.append_cancel_right (hr.symm.trans hm)
    obtain ⟨rfl, rfl, -⟩ := Mention.standardText_append_inj (hr'.symm.trans hm')
    rw [href, href']
  words := by
    intro c d h
    obtain ⟨m, n, -, href⟩ := standard_matchAt?_eq_some h
    rw [href]
    exact m.reference_words n

/-- A reference in two halves tells what they are. -/
theorem Mention.alternateText_inj {m m' : Mention} {t t' : Option Naming}
    (h : m.alternateText t = m'.alternateText t') : m = m' ∧ t = t' := by
  obtain ⟨rfl, ht⟩ := Mention.headText_append_inj h
  rcases t with - | n <;> rcases t' with - | n'
  · exact ⟨rfl, rfl⟩
  · cases ht
  · cases ht
  · obtain ⟨rfl, -⟩ := Naming.tailText_append_inj (r := []) (s := []) (by simpa using ht)
    exact ⟨rfl, rfl⟩

theorem alternate_bracketed :
    alternate.Bracketed (fun w => ∃ m, w = Mention.headText m)
      fun w => ∃ n, w = Naming.tailText n where
  took := by
    intro c d h
    obtain ⟨m, t, took, -, hlast⟩ := alternate_matchAt?_eq_some h
    refine ⟨_, t.elim [] Naming.tailText, ⟨m, rfl⟩, ?_, took.rest, ?_⟩
    · cases t with
      | none => exact .inl rfl
      | some n => exact .inr ⟨n, rfl⟩
    · rintro ht _ ⟨n, rfl⟩
      cases t with
      | none => exact hlast rfl n
      | some n' => cases ht
  isSome := by
    rintro c _ r ⟨m, rfl⟩ hr
    exact alternate_matchAt?_isSome hr
  head_inj := by
    rintro _ _ r r' ⟨m, rfl⟩ ⟨m', rfl⟩ h
    rw [(Mention.headText_append_inj h).1]
  tail_inj := by
    rintro _ _ r r' ⟨n, rfl⟩ ⟨n', rfl⟩ h
    rw [(Naming.tailText_append_inj h).1]
  isHead := by
    rintro _ ⟨m, rfl⟩
    refine ⟨m.shown, '@' :: (m.origin.text ++ [']']), ?_, m.shown_isShown, ?_, .inl ⟨_, rfl⟩⟩
    · simp [Mention.headText]
    · simp [m.origin.not_mem_text (x := '[') (by decide)]
  not_mem_tail := by
    rintro _ ⟨n, rfl⟩
    simp [Naming.tailText, n.not_mem_text (x := '[') (by decide)]
  closed := by
    intro c d h
    obtain ⟨m, t, took, -⟩ := alternate_matchAt?_eq_some h
    cases t with
    | none =>
      have hhead : m.alternateText none = ('[' :: m.shown ++ '@' :: m.origin.text) ++ [']'] := by
        simp [Mention.alternateText, Mention.headText]
      exact isEscaped_of_took (hhead ▸ took) rfl
    | some n =>
      have htail : m.alternateText (some n) = (m.headText ++ '(' :: n.text) ++ [')'] := by
        simp [Mention.alternateText, Naming.tailText]
      exact isEscaped_of_took (htail ▸ took) rfl
  same := by
    intro c d c' d' w h h' hr hr'
    obtain ⟨m, t, took, href, -⟩ := alternate_matchAt?_eq_some h
    obtain ⟨m', t', took', href', -⟩ := alternate_matchAt?_eq_some h'
    have hw : w = m.alternateText t := List.append_cancel_right (hr.symm.trans took.rest)
    have hw' : w = m'.alternateText t' := List.append_cancel_right (hr'.symm.trans took'.rest)
    obtain ⟨rfl, rfl⟩ := Mention.alternateText_inj (hw.symm.trans hw')
    rw [href, href']
  words := by
    intro c d h
    obtain ⟨m, t, -, href, -⟩ := alternate_matchAt?_eq_some h
    rw [href]
    exact m.reference_words _

end TermRef
