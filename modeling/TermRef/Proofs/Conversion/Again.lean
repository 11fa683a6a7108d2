/-
TermRef/Proofs/Conversion/Again.lean

Converting a text again, in any of the named styles.

Renderings hold the address of an entry, and its explanation, as they are.  So a rendering may
hold a reference, and then a second conversion converts that one
(`explanation_is_converted_again`).  But this is all that it can find: a reference of the
converted text that begins outside of the renderings has been there before, and has been left
(`rescan_resolves_nothing_outside_links`).

References stay for two reasons only: there is no entry for them, or the entry has a number where
the style puts it in that is too long to be written (`link?_fate_eq_none_iff`).  Neither changes
from one conversion to the next.
-/
import TermRef.Proofs.Conversion.Rescan
import TermRef.Proofs.Conversion.Turns
import TermRef.Proofs.Link.Verbatim

namespace TermRef

/-! ### Where links land -/

/-- The links that a conversion puts into a text, each with the place where it begins in the new
text. -/
def Resolver.landings (r : Resolver) (g : Glossary) (text : String) : List (Int × String) :=
  TermRef.landings (fun o => (r.fate g o.reference).link?) 0 (r.grammar.scan text)

/-- A reference of the new text begins inside what landed. -/
def Occurrence.BeginsInside (o : Occurrence) (p : Int × String) : Prop :=
  p.1 ≤ o.start ∧ (o.start : Int) < p.1 + p.2.length

variable {r : Resolver} {g : Glossary} {text : String} {ref : Reference}

/-! ### Why references stay -/

/-- A reference is left by named styles: there is no entry for it, or there is one that no link can
be written for, because a number in it is too long. -/
inductive Resolver.Leaves (r : Resolver) (g : Glossary) (ref : Reference) : Prop
  | unresolved : r.answer g ref = .ok none → r.Leaves g ref
  | unwritable {e : Entry} : r.answer g ref = .ok (some e) →
      (Fields.merge e (r.filled g ref)).isWritable = false → r.Leaves g ref

/-- A named style converts a reference unless it leaves it. -/
theorem link?_fate_eq_none_iff (hg : g.ready = true) (hstyle : r.style ∈ LinkStyle.named)
    (hs : ref.scopetag ≠ some "") (hv : ref.vsntag ≠ some "") :
    (r.fate g ref).link? = none ↔ r.Leaves g ref := by
  have hanswer := answer_eq (r := r) hg ref
  rw [fate_eq hs hv]
  rcases hentry : Resolver.entryFor? g (r.filled g ref) with - | e
  · rw [hentry] at hanswer
    exact ⟨fun _ => .unresolved hanswer, fun _ => rfl⟩
  · rw [hentry] at hanswer
    have htext := LinkStyle.text?_layout hstyle e (r.filled g ref)
    rcases LinkStyle.text?_of_named hstyle e (r.filled g ref) with
      ⟨l, hl, hfenced⟩ | ⟨hnone, hlong⟩
    · have hne : l ≠ "" := by
        rintro rfl
        exact hfenced.ne_nil rfl
      refine iff_of_false (by simp [hl, hne, Fate.link?]) ?_
      rintro (hno | ⟨he, hlong⟩)
      · rw [hanswer] at hno
        cases hno
      · obtain rfl : e = _ := Option.some.inj (Except.ok.inj (hanswer.symm.trans he))
        rw [hlong, hl] at htext
        cases htext
    · exact iff_of_true (by simp [hnone, Fate.link?]) (.unwritable hanswer hlong)

/-- What lands begins and ends as the renderings of named styles do. -/
theorem fenced_of_mem_landings {Head Tail : List Char → Prop}
    (hb : r.grammar.Bracketed Head Tail) (hg : g.ready = true)
    (hstyle : r.style ∈ LinkStyle.named) {p : Int × String} (hp : p ∈ r.landings g text) :
    Fenced p.2.toList := by
  obtain ⟨o, ho, hlink⟩ := mem_landings hp
  obtain ⟨hscope, hversion, -⟩ := hb.found ho
  obtain ⟨e, -, ht⟩ := link?_fate_eq_some hg hscope hversion hlink
  rcases LinkStyle.text?_of_named hstyle e (r.filled g o.reference) with
    ⟨l, hl, hfenced⟩ | ⟨hnone, -⟩
  · obtain rfl := Option.some.inj (ht.symm.trans hl)
    exact hfenced
  · rw [hnone] at ht
    cases ht

/-! ### Converting again -/

/-- A text whose references are all left stays as it is. -/
theorem convertText_of_leaves {Head Tail : List Char → Prop}
    (hb : r.grammar.Bracketed Head Tail) (hg : g.ready = true)
    (hstyle : r.style ∈ LinkStyle.named)
    (hn : ∀ o ∈ r.grammar.scan text, r.Leaves g o.reference) (file : String) (j : Journal) :
    (r.convertText g file text j).1 =
      .ok (if r.grammar.scan text = [] then none else some text) := by
  have hlinks : ∀ o ∈ r.grammar.scan text, (r.fate g o.reference).link? = none := by
    intro o ho
    obtain ⟨hscope, hversion, -⟩ := hb.found ho
    exact (link?_fate_eq_none_iff hg hstyle hscope hversion).mpr (hn o ho)
  rw [convertText_eq, convert_of_links_none hg hlinks]
  split <;> rfl

/-- A reference of the converted text is left, or begins inside a link that has a head in it. -/
theorem leaves_or_beginsInside {mark : Char} {Head Tail : List Char → Prop}
    (hb : r.grammar.Bracketed Head Tail) (hw : Worded mark Head Tail) (hg : g.ready = true)
    (hstyle : r.style ∈ LinkStyle.named) {out : String}
    (hspliced : Spliced 0 text.toList
      ((r.grammar.scan text).map fun o => (o, (r.fate g o.reference).link?)) out.toList) :
    ∀ o ∈ r.grammar.scan out, r.Leaves g o.reference ∨
      ∃ p ∈ r.landings g text, o.BeginsInside p ∧ ∃ x, ¬ Quiet Head p.2.toList x := by
  have hstays : ∀ o ∈ r.grammar.scan text, (r.fate g o.reference).link? = none →
      r.Leaves g o.reference := by
    intro o ho hnone
    obtain ⟨hscope, hversion, -⟩ := hb.found ho
    exact (link?_fate_eq_none_iff hg hstyle hscope hversion).mp hnone
  obtain ⟨new, hnew, hturns⟩ := (r.grammar.picks_scan text).turns
    (r.Leaves g) (fun n l => ((n : Int), l) ∈ r.landings g text) 0
    hstays fun m l h => h
  obtain rfl := hspliced.unique hnew
  have hpicked := hb.picks_turned hw (fun m l h => fenced_of_mem_landings hb hg hstyle h)
    (r.grammar.picks_scan out) (.beside (c := .ofText text.toList) hturns rfl)
  intro o ho
  refine (hpicked o ho).imp_right ?_
  rintro ⟨n, l, hl, hle, hlt, hquiet⟩
  refine ⟨_, hl, ⟨?_, ?_⟩, hquiet⟩
  · exact Int.ofNat_le.mpr hle
  · change (o.start : Int) < n + l.length
    omega

/-- **A second conversion finds nothing outside of the links of the first.**  With a named
grammar and a named style, every reference of the converted text that is not left begins
inside a link, where the conversion has put it.  So a second conversion converts nothing if no
reference begins inside a link; and all are left if every link is one in plain markup whose
address has no opening brackets and at signs, or has no opening brackets at all. -/
theorem rescan_resolves_nothing_outside_links (r : Resolver) (g : Glossary) (file text : String)
    (j : Journal) (hg : g.ready = true)
    (hgrammar : r.grammar = .standard ∨ r.grammar = .alternate)
    (hstyle : r.style ∈ LinkStyle.named) :
    (r.grammar.scan text = [] ∧ (r.convertText g file text j).1 = .ok none) ∨
      ∃ out, (r.convertText g file text j).1 = .ok (some out) ∧
        (∀ p ∈ r.landings g text, ∃ u v, out.toList = u ++ (p.2.toList ++ v) ∧ p.1 = u.length) ∧
        (∀ o ∈ r.grammar.scan out, r.Leaves g o.reference ∨
          ∃ p ∈ r.landings g text, o.BeginsInside p) ∧
        ((∀ o ∈ r.grammar.scan out, ∀ p ∈ r.landings g text, ¬ o.BeginsInside p) ∨
            (∀ p ∈ r.landings g text, IsLink p.2.toList ∨ '[' ∉ p.2.toList) →
          (∀ o ∈ r.grammar.scan out, r.Leaves g o.reference) ∧
          ∀ file' j', (r.convertText g file' out j').1 =
            .ok (if r.grammar.scan out = [] then none else some out)) := by
  obtain ⟨mark, Head, Tail, hb, hw⟩ := Grammar.worded_of_named hgrammar
  by_cases hs : r.grammar.scan text = []
  · refine .inl ⟨hs, ?_⟩
    rw [convertText_eq, (convert_of_scan_eq_nil hs j).1]
    rfl
  · obtain ⟨out, hout, -, hspliced⟩ := convert_of_scan_ne_nil hg hs file j
    have hfound := leaves_or_beginsInside hb hw hg hstyle hspliced
    refine .inr ⟨out, ?_, fun p hp => ?_, fun o ho => ?_, fun hclean => ?_⟩
    · rw [convertText_eq, hout]
      rfl
    · obtain ⟨u, v, h, hpos⟩ := hspliced.landed 0 p hp
      exact ⟨u, v, h, by omega⟩
    · refine (hfound o ho).imp_right ?_
      rintro ⟨p, hp, hin, -⟩
      exact ⟨p, hp, hin⟩
    · have hnone : ∀ o ∈ r.grammar.scan out, r.Leaves g o.reference := by
        intro o ho
        refine (hfound o ho).resolve_right ?_
        rintro ⟨p, hp, hin, x, hquiet⟩
        rcases hclean with hclean | hclean
        · exact hclean o ho p hp hin
        · rcases hclean p hp with hlink | hmem
          · exact hquiet (hlink.quiet hb.isHead x)
          · exact hquiet (.of_not_mem hmem)
      exact ⟨hnone, convertText_of_leaves hb hg hstyle hnone⟩

/-- The first reference turns into a link without opening brackets, and what the second
conversion finds is the other one. -/
theorem rescan_resolves_nothing_outside_anchor :
    Glossary.plain.ready = true ∧ LinkStyle.http ∈ LinkStyle.named ∧
      ∃ out, (Resolver.convertText ⟨.standard, .http, "latest"⟩ .plain "f" "[a](@) [b](@)" {}).1 =
          .ok (some out) ∧
        (∀ o ∈ Grammar.standard.scan out,
          Resolver.Leaves ⟨.standard, .http, "latest"⟩ .plain o.reference) ∧
        (Resolver.convertText ⟨.standard, .http, "latest"⟩ .plain "f" out {}).1 =
          .ok (if Grammar.standard.scan out = [] then none else some out) := by
  have hlandings : Resolver.landings ⟨.standard, .http, "latest"⟩ .plain "[a](@) [b](@)" =
      [(0, "<a href=\"url\">a</a>")] := by decide +kernel
  have hscan : Grammar.standard.scan "[a](@) [b](@)" ≠ [] := by decide +kernel
  have hnamed : LinkStyle.http ∈ LinkStyle.named := by simp [LinkStyle.named]
  obtain ⟨out, hout, -, -, hagain⟩ := (rescan_resolves_nothing_outside_links
    ⟨.standard, .http, "latest"⟩ .plain "f" "[a](@) [b](@)" {} rfl (.inl rfl) hnamed).resolve_left
    fun h => hscan h.1
  obtain ⟨hnone, hconvert⟩ := hagain (.inr fun p hp => .inr (by
    rw [hlandings] at hp
    obtain rfl := List.mem_singleton.mp hp
    decide))
  exact ⟨rfl, hnamed, out, hout, hnone, hconvert "f" {}⟩

/-! ### What lands may be converted -/

/-- An entry whose explanation refers to its own term. -/
def Entry.circular : Entry := { Entry.plain with glossaryText := "[a](@)" }

/-- The glossary of that entry. -/
def Glossary.circular : Glossary :=
  Glossary.add
    { admin := ⟨⟨"s", "", "", none, none, none, []⟩, [], [], []⟩
      scopedir := ⟨.root, []⟩
      ready := true }
    .circular

/-- The default grammar with the style with explanations. -/
def Resolver.explaining : Resolver := ⟨.standard, .essif, "latest"⟩

/-- A reference in an explanation lands as it is: a scan of the converted text finds it, there is
an entry for it, and a second conversion converts it. -/
theorem explanation_is_converted_again :
    Glossary.circular.ready = true ∧
      (Resolver.explaining.convertText .circular "f" "[a](@)" {}).1 =
        .ok (some "<a href=\"url\" title=\"[a](@)\">a</a>") ∧
      (∃ o ∈ Grammar.standard.scan "<a href=\"url\" title=\"[a](@)\">a</a>",
        Resolver.explaining.answer .circular o.reference = .ok (some .circular)) ∧
      (Resolver.explaining.convertText .circular "f"
          "<a href=\"url\" title=\"[a](@)\">a</a>" {}).1 =
        .ok (some "<a href=\"url\" title=\"<a href=\"url\" title=\"[a](@)\">a</a>\">a</a>") := by
  refine ⟨rfl, by decide +kernel, ?_, by decide +kernel⟩
  exact ⟨⟨21, 27, "[a](@)", ⟨"a", "a", none, none, none⟩⟩, by decide +kernel, rfl⟩

end TermRef
