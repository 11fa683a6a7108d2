/-
TermRef/Proofs/Conversion/Rescan.lean

Scanning a text again after its references have been converted.

With a named grammar and the style of plain markup, the references of the new text are
those that were left in the old one, moved by the links in front of them (`Left`); so a
second conversion changes nothing.

A link shows words and leads to an address without brackets and at signs (`IsLink`).  No
head begins in it, and none runs into it from before (`IsHead.prefix_of_link`): words end
at the first closing bracket, which is that of the link, and what follows it there is not
what follows it in a head.  So up to the next link the old and the new text begin with
the same heads and tails (`Agree`), and a scan of the new text picks what one of the old
text has picked, except that it passes by the links.  Nor does a link change what is
escaped, because it ends in a parenthesis, as a reference does in a bracket.
-/
import TermRef.Proofs.Conversion.Resolution
import TermRef.Proofs.Link.Markdown
import TermRef.Proofs.Reference.Bracketed

namespace TermRef

open Pattern

/-! ### Links and heads -/

/-- A link as the style of plain markup writes it: words in square brackets, and an
address without opening brackets and at signs in round ones. -/
def IsLink (w : List Char) : Prop :=
  ∃ shown target, w = '[' :: (shown ++ ']' :: '(' :: (target ++ [')'])) ∧
    (∀ c ∈ shown, isShown c = true) ∧ ∀ c ∈ target, c ≠ '[' ∧ c ≠ '@'

/-- From an inner bracket on, a link is like a link again. -/
theorem IsLink.inner {p q : List Char} (h : IsLink (p ++ '[' :: q)) : IsLink ('[' :: q) := by
  obtain ⟨shown, target, heq, hshown, htarget⟩ := h
  rcases p with - | ⟨x, p⟩
  · exact ⟨shown, target, heq, hshown, htarget⟩
  · have hend : '[' ∉ ']' :: '(' :: (target ++ [')']) := by
      simpa using fun hm => (htarget _ hm).1 rfl
    obtain ⟨u, rfl, rfl⟩ := append_eq_append_of_not_mem hend (List.cons.inj heq).2.symm
    exact ⟨u, target, rfl, fun c hc => hshown c (by simp [hc]), htarget⟩

/-- A link ends in what escapes nothing. -/
theorem IsLink.isEscaped_past {l x : List Char} (hl : IsLink l) {c : Cursor} :
    isEscaped (c.past l x) = false := by
  obtain ⟨shown, target, rfl, -⟩ := hl
  simp [isEscaped, isEscape]

/-- An at sign before any `)` is not where a `)` comes before any at sign. -/
theorem at_ne_paren {u v t s : List Char} (hu : ')' ∉ u) (ht : '@' ∉ t) :
    u ++ '@' :: v ≠ t ++ ')' :: s := by
  intro h
  induction u generalizing t with
  | nil =>
    cases t with
    | nil => exact absurd (List.cons.inj h).1 (by decide)
    | cons y t =>
      obtain ⟨rfl, -⟩ := List.cons.inj h
      exact ht (by simp)
  | cons x u ih =>
    cases t with
    | nil =>
      obtain ⟨rfl, -⟩ := List.cons.inj h
      exact hu (by simp)
    | cons y t =>
      exact ih (fun hm => hu (by simp [hm])) (fun hm => ht (by simp [hm])) (List.cons.inj h).2

/-- A link does not begin with a head, whatever comes after it. -/
theorem IsHead.not_prefix_link {h l x : List Char} (hh : IsHead h) (hl : IsLink l) :
    ¬ h <+: l ++ x := by
  rintro ⟨r, hr⟩
  obtain ⟨shown, sequel, rfl, hshown, -, hsequel⟩ := hh
  obtain ⟨shown', target, rfl, hshown', htarget⟩ := hl
  simp only [List.cons_append, List.append_assoc, List.cons.injEq, true_and, List.nil_append] at hr
  rcases hsequel with ⟨v, rfl⟩ | ⟨u, v, rfl, hu⟩
  · -- the words of the head would end at an at sign, those of the link at a bracket
    obtain ⟨-, hc, -⟩ := append_cons_inj hshown hshown' rfl rfl hr
    exact absurd hc (by decide)
  · -- both end at a bracket, and then the at sign of the head has no place in the address
    obtain ⟨-, -, hrest⟩ := append_cons_inj hshown hshown' rfl rfl hr
    have hrest : u ++ '@' :: (v ++ r) = target ++ ')' :: x := by simpa using hrest
    exact at_ne_paren hu (fun hm => (htarget _ hm).2 rfl) hrest

/-- No head begins in a link. -/
theorem IsLink.quiet {Head : List Char → Prop} (hhead : ∀ {h}, Head h → IsHead h) {l : List Char}
    (hl : IsLink l) (x : List Char) : Quiet Head l x := by
  rintro u v rfl h hh
  exact (hhead hh).not_prefix_link hl.inner

/-- A head in front of a link ends before it. -/
theorem IsHead.prefix_of_link {h p l x : List Char} (hh : IsHead h) (hl : IsLink l)
    (hp : h <+: p ++ (l ++ x)) : h <+: p := by
  obtain ⟨r, hr⟩ := hp
  rcases List.append_eq_append_iff.mp hr with ⟨as, rfl, -⟩ | ⟨q, rfl, hq⟩
  · exact List.prefix_append _ _
  · rcases q with - | ⟨b, q⟩
    · simp
    · obtain ⟨shown, target, rfl, -⟩ := id hl
      obtain ⟨rfl, -⟩ := List.cons.inj hq
      exact absurd ⟨r, hq.symm⟩ (hh.inner.not_prefix_link hl)

/-! ### Texts that agree up to the next link -/

/-- Two texts are the same up to a place where the one has a bracket and the other a
link, if there is such a place. -/
def Agree (s out : List Char) : Prop :=
  s = out ∨ ∃ p y l x, s = p ++ '[' :: y ∧ out = p ++ (l ++ x) ∧ IsLink l

namespace Agree

variable {s out : List Char}

theorem append (w : List Char) (h : Agree s out) : Agree (w ++ s) (w ++ out) := by
  rcases h with rfl | ⟨p, y, l, x, rfl, rfl, hl⟩
  · exact .inl rfl
  · exact .inr ⟨w ++ p, y, l, x, by simp, by simp, hl⟩

theorem link {l : List Char} (hl : IsLink l) (y x : List Char) : Agree ('[' :: y) (l ++ x) :=
  .inr ⟨[], y, l, x, rfl, rfl, hl⟩

theorem head {h : List Char} (ha : Agree s out) (hh : IsHead h) (hp : h <+: out) : h <+: s := by
  rcases ha with rfl | ⟨p, y, l, x, rfl, rfl, hl⟩
  · exact hp
  · exact (hh.prefix_of_link hl hp).trans (List.prefix_append _ _)

theorem tail {t : List Char} (ha : Agree s out) (ht : '[' ∉ t) (hp : t <+: out) : t <+: s := by
  rcases ha with rfl | ⟨p, y, l, x, rfl, rfl, shown, target, rfl, -⟩
  · exact hp
  · exact (prefix_of_not_mem ht hp).trans (List.prefix_append _ _)

end Agree

/-! ### What is left -/

/-- `os'` are the references among `os` that have no replacement, each moved by `δ` and by
the deltas of the replacements before it. -/
inductive Left (f : Occurrence → Option String) : Int → List Occurrence → List Occurrence → Prop
  | nil {δ} : Left f δ [] []
  | replaced {δ o l os os'} : f o = some l → Left f (δ + Edit.delta ⟨o.start, o.stop, l⟩) os os' →
      Left f δ (o :: os) os'
  | kept {δ o o' os os'} : f o = none → (o'.start : Int) = o.start + δ →
      (o'.stop : Int) = o.stop + δ → o'.text = o.text → o'.reference = o.reference →
      Left f δ os os' → Left f δ (o :: os) (o' :: os')

theorem Left.reference {f : Occurrence → Option String} {δ : Int} {os os' : List Occurrence}
    (h : Left f δ os os') : ∀ o' ∈ os', ∃ o ∈ os, o'.reference = o.reference ∧ f o = none := by
  induction h with
  | nil => simp
  | replaced _ _ ih =>
    intro o' ho'
    obtain ⟨o, ho, h⟩ := ih o' ho'
    exact ⟨o, List.mem_cons_of_mem _ ho, h⟩
  | @kept δ o o' os os' hf _ _ _ href _ ih =>
    intro p hp
    rcases List.mem_cons.mp hp with rfl | hp
    · exact ⟨o, List.mem_cons_self, href, hf⟩
    · obtain ⟨q, hq, h⟩ := ih p hp
      exact ⟨q, List.mem_cons_of_mem _ hq, h⟩

/-! ### Scanning the new text -/

namespace Grammar.Bracketed

variable {g : Grammar} {Head Tail : List Char → Prop} {c c' d : Cursor}

/-- **A scan of the new text picks what is left.** -/
theorem picks_rewritten (hb : g.Bracketed Head Tail) {f : Occurrence → Option String}
    {os : List Occurrence} (h : g.Picks c os) (hf : ∀ o ∈ os, ∀ l ∈ f o, IsLink l.toList) :
    ∃ out, Spliced c.pos c.rest (os.map fun o => (o, f o)) out ∧ Agree c.rest out ∧
      ∀ c' : Cursor, c'.rest = out → isEscaped c' = isEscaped c →
        ∃ os', g.Picks c' os' ∧ Left f ((c'.pos : Int) - c.pos) os os' := by
  induction h with
  | @done c hr =>
    rw [hr]
    exact ⟨[], .done, .inl rfl, fun c' hr' _ => ⟨[], .done hr', .nil⟩⟩
  | @pass c x r os hr hp _ ih =>
    obtain ⟨out, hout, ha, hrest⟩ := ih hf
    have ha' : Agree c.rest (x :: out) := hr ▸ ha.append [x]
    -- the next place is escaped in both texts or in neither, for it has `x` before it
    refine ⟨x :: out, hr ▸ .keep hout, ha', fun c' hr' he => ?_⟩
    obtain ⟨os', hos', hleft⟩ := hrest (c'.past [x] out) rfl rfl
    have hheads : ∀ h, Head h → h <+: c'.rest → ∃ h', Head h' ∧ h' <+: c.rest := fun h hh hpre =>
      ⟨h, hh, ha'.head (hb.isHead hh) (hr' ▸ hpre)⟩
    refine ⟨os', .pass hr' (hb.isPassedOver_of_heads hheads he hp) hos', ?_⟩
    rwa [Cursor.past_pos, Cursor.past_pos, List.length_singleton, Int.natCast_add,
      Int.natCast_add, Int.add_sub_add_right] at hleft
  | @pick c d os hm hp _ ih =>
    obtain ⟨w, hw, hr, -, hpos, htext⟩ := ahead_of_not_passedOver (Pattern.matchAt?_ahead hm) hp
    obtain ⟨out, hout, ha, hrest⟩ := ih fun o ho => hf o (by simp [ho])
    refine ⟨_, .pick hm hp hout (f (g.occurrence c d)), ?_⟩
    rw [htext]
    rcases hfo : f (g.occurrence c d) with - | l
    · -- the reference stays, and the new text has a match with the same text and meaning
      refine ⟨hr ▸ ha.append w, fun c' hr' he => ?_⟩
      obtain ⟨d', hd', hp', hrest', -, hpos', hocc⟩ := hb.picked_again hm hp hr hr'
        (fun t ht => ha.tail (hb.not_mem_tail ht)) he
      obtain ⟨os', hos', hleft⟩ := hrest d'.clear hrest'
        ((hb.closed hd').trans (hb.closed hm).symm)
      have hmoved : (d'.pos : Int) - d.pos = c'.pos - c.pos := by omega
      rw [Cursor.clear_pos, Cursor.clear_pos, hmoved] at hleft
      refine ⟨g.occurrence c' d' :: os', .pick hd' hp' hos', .kept hfo ?_ ?_ ?_ ?_ hleft⟩
      · change (c'.pos : Int) = c.pos + (c'.pos - c.pos)
        omega
      · change (d'.pos : Int) = d.pos + (c'.pos - c.pos)
        omega
      · rw [hocc]
      · rw [hocc]
    · -- the reference is replaced, and the scan of the new text passes by the link
      have hl : IsLink l.toList := hf _ List.mem_cons_self l hfo
      refine ⟨?_, fun c' hr' he => ?_⟩
      · obtain ⟨r, hr''⟩ := hb.bracket hm
        rw [hr'']
        exact Agree.link hl _ out
      · obtain ⟨os', hos', hleft⟩ := hrest (c'.past l.toList out) rfl
          (hl.isEscaped_past.trans (hb.closed hm).symm)
        have hmoved : ((c'.past l.toList out).pos : Int) - d.clear.pos =
            c'.pos - c.pos + Edit.delta ⟨c.pos, d.pos, l⟩ := by
          simp only [Cursor.past_pos, Cursor.clear_pos, Edit.delta, String.length_toList]
          omega
        rw [hmoved] at hleft
        exact ⟨os', hb.picks_past (hl.quiet hb.isHead out) hr' hos', .replaced hfo hleft⟩

end Grammar.Bracketed

/-! ### Converting the new text -/

variable {r : Resolver} {g : Glossary} {o : Occurrence} {text : String}

/-- A reference that is found shows words, and its parts are not empty. -/
theorem Grammar.Bracketed.found {gr : Grammar} {Head Tail : List Char → Prop}
    (hb : gr.Bracketed Head Tail) (ho : o ∈ gr.scan text) :
    o.reference.scopetag ≠ some "" ∧ o.reference.vsntag ≠ some "" ∧
      o.reference.showtext ≠ "" ∧ ∀ x ∈ o.reference.showtext.toList, isShown x = true := by
  obtain ⟨_, d, hd, href⟩ := (gr.picks_scan text).interpreted o ho
  obtain ⟨hscope, hversion⟩ := interpret_present gr d
  rw [href]
  exact ⟨hscope, hversion, hb.words hd⟩

/-- What replaces a reference is a link, if its address has no brackets and at signs. -/
theorem isLink_of_fate {Head Tail : List Char → Prop} (hb : r.grammar.Bracketed Head Tail)
    (hg : g.ready = true) (hstyle : r.style.template = ⟨LinkStyle.markdownBody⟩)
    (ho : o ∈ r.grammar.scan text) (htarget : ∀ e, r.answer g o.reference = .ok (some e) →
      ∀ c ∈ (Fields.merge e (r.filled g o.reference)).address.toList, c ≠ '[' ∧ c ≠ '@')
    {l : String} (hl : (r.fate g o.reference).link? = some l) : IsLink l.toList := by
  obtain ⟨hscope, hversion, hne, hwords⟩ := hb.found ho
  obtain ⟨e, he, ht⟩ := link?_fate_eq_some hg hscope hversion hl
  refine ⟨o.reference.showtext.toList,
    (Fields.merge e (r.filled g o.reference)).address.toList, ?_, hwords, htarget e he⟩
  rw [LinkStyle.text?_markdownBody hstyle e (r.filled g o.reference) hne ht]
  simp [Resolver.filled]

/-- A text in which no reference is converted stays as it is. -/
theorem convert_of_links_none (hg : g.ready = true)
    (hn : ∀ o ∈ r.grammar.scan text, (r.fate g o.reference).link? = none) (file : String)
    (j : Journal) :
    (r.convert g file text j).1 =
      .ok (if r.grammar.scan text = [] then none else some ⟨text, []⟩) := by
  by_cases hs : r.grammar.scan text = []
  · rw [if_pos hs, (convert_of_scan_eq_nil hs j).1]
  · obtain ⟨out, hout, -, hspliced⟩ := convert_of_scan_ne_nil hg hs file j
    have hsame : out.toList = text.toList := hspliced.eq_self (by simpa using hn)
    have hterms : ((r.grammar.scan text).map (r.resolution g file text)).filterMap Resolution.term? =
        [] := by
      rw [List.filterMap_map, List.filterMap_eq_nil_iff]
      intro o ho
      have := hn o ho
      rw [Function.comp_apply, term?_resolution]
      cases hf : r.fate g o.reference <;> simp_all [Fate.link?, Fate.term?]
    rw [if_neg hs, hout, hterms, String.toList_inj.mp hsame]

theorem convertText_eq (file : String) (j : Journal) : (r.convertText g file text j).1 =
    (r.convert g file text j).1.map (Option.map Conversion.text) := by
  rw [Resolver.convertText]
  rcases r.convert g file text j with ⟨- | - | c, j'⟩ <;> rfl

/-- **Scanning again finds what is left.**  With a named grammar, the style of plain
markup, and addresses without opening brackets and at signs, the references of the
converted text are those of the text that were not converted, in their order, each moved
by the links before it.  So a second conversion converts nothing. -/
theorem rescan_finds_what_is_left (r : Resolver) (g : Glossary) (file text : String) (j : Journal)
    (hg : g.ready = true) (hgrammar : r.grammar = .standard ∨ r.grammar = .alternate)
    (hstyle : r.style = .standard ∨ r.style = .markdown)
    (htarget : ∀ o ∈ r.grammar.scan text, ∀ e, r.answer g o.reference = .ok (some e) →
      ∀ c ∈ (Fields.merge e (r.filled g o.reference)).address.toList, c ≠ '[' ∧ c ≠ '@') :
    (r.grammar.scan text = [] ∧ (r.convertText g file text j).1 = .ok none) ∨
      ∃ out, (r.convertText g file text j).1 = .ok (some out) ∧
        Left (fun o => (r.fate g o.reference).link?) 0 (r.grammar.scan text) (r.grammar.scan out) ∧
        ∀ file' j',
          (r.convert g file' out j').1 =
            .ok (if r.grammar.scan out = [] then none else some ⟨out, []⟩) ∧
          (r.convertText g file' out j').1 =
            .ok (if r.grammar.scan out = [] then none else some out) := by
  obtain ⟨Head, Tail, hb⟩ : ∃ Head Tail, r.grammar.Bracketed Head Tail := by
    rcases hgrammar with h | h <;> rw [h]
    · exact ⟨_, _, standard_bracketed⟩
    · exact ⟨_, _, alternate_bracketed⟩
  have hbody : r.style.template = ⟨LinkStyle.markdownBody⟩ := by
    rcases hstyle with h | h <;> rw [h] <;> rfl
  by_cases hs : r.grammar.scan text = []
  · refine .inl ⟨hs, ?_⟩
    rw [convertText_eq, (convert_of_scan_eq_nil hs j).1]
    rfl
  · obtain ⟨out, hout, -, hspliced⟩ := convert_of_scan_ne_nil hg hs file j
    obtain ⟨new, hnew, -, hpicks⟩ := hb.picks_rewritten (r.grammar.picks_scan text)
      (f := fun o => (r.fate g o.reference).link?)
      fun o ho l hl => isLink_of_fate hb hg hbody ho (htarget o ho) hl
    obtain ⟨os', hos', hleft⟩ := hpicks (.ofText out.toList) (hspliced.unique hnew) rfl
    obtain rfl := hos'.eq_scan
    have hnone : ∀ o' ∈ r.grammar.scan out, (r.fate g o'.reference).link? = none := by
      intro o' ho'
      obtain ⟨o, -, href, hnone⟩ := hleft.reference o' ho'
      rw [href]
      exact hnone
    have hagain := convert_of_links_none hg hnone
    refine .inr ⟨out, ?_, hleft, fun file' j' => ⟨hagain file' j', ?_⟩⟩
    · rw [convertText_eq, hout]
      rfl
    · rw [convertText_eq, hagain]
      split <;> rfl

/-- The first reference is replaced by a link that is longer, and the second is found
again behind it. -/
theorem rescan_finds_second_reference :
    ∃ out, (Resolver.plain.convertText .plain "f" "[a](@) [b](@)" {}).1 = .ok (some out) ∧
      Left (fun o => (Resolver.plain.fate .plain o.reference).link?) 0
        (Grammar.standard.scan "[a](@) [b](@)") (Grammar.standard.scan out) ∧
      ∀ file' j',
        (Resolver.plain.convert .plain file' out j').1 =
          .ok (if Grammar.standard.scan out = [] then none else some ⟨out, []⟩) ∧
        (Resolver.plain.convertText .plain file' out j').1 =
          .ok (if Grammar.standard.scan out = [] then none else some out) := by
  have hscan : Grammar.standard.scan "[a](@) [b](@)" =
      [⟨0, 6, "[a](@)", ⟨"a", "a", none, none, none⟩⟩,
        ⟨7, 13, "[b](@)", ⟨"b", "b", none, none, none⟩⟩] := by decide +kernel
  have htarget : ∀ o ∈ Resolver.plain.grammar.scan "[a](@) [b](@)", ∀ e,
      Resolver.plain.answer .plain o.reference = .ok (some e) →
      ∀ c ∈ (Fields.merge e (Resolver.plain.filled .plain o.reference)).address.toList,
        c ≠ '[' ∧ c ≠ '@' := by
    intro o ho e he
    rw [show Resolver.plain.grammar = Grammar.standard from rfl, hscan] at ho
    rcases List.mem_pair.mp ho with rfl | rfl
    · obtain rfl : Entry.plain = e := Option.some.inj (Except.ok.inj he)
      rw [show (Fields.merge .plain (Resolver.plain.filled .plain
        ⟨"a", "a", none, none, none⟩)).address = "url" from rfl]
      simp
    · have hnone : (none : Option Entry) = some e := Except.ok.inj he
      cases hnone
  have hrescan := rescan_finds_what_is_left .plain .plain "f" "[a](@) [b](@)" {} rfl (.inl rfl)
    (.inl rfl) htarget
  exact hrescan.resolve_left fun h => absurd (hscan.symm.trans h.1) (by simp)

end TermRef
