/-
TermRef/Proofs/Conversion/Resolution.lean

What a conversion does with the references of a text.

`HasResolution` says it for one reference, in terms of the glossary and the style alone:
there is a link, or one of two warnings.  A reference has one resolution and no other
(`HasResolution.unique`), and what becomes of it in a conversion is that resolution
(`hasResolution_resolution`).

Together with the splicing of the scan this settles a conversion: a text without
references is left alone, and any other gives its text with the links in place, the terms
linked and the warnings, each in the order of the references.  Neither the grammar nor
the style has to be one of the named ones, because a scan picks spans in order whatever
its pattern is.
-/
import Mathlib.Data.List.Forall2
import Mathlib.Tactic.ByContra
import TermRef.Conversion
import TermRef.Proofs.Conversion.Splice

namespace TermRef

open Pattern

/-! ### Resolutions -/

/-- What a conversion does with a reference. -/
inductive Resolution where
  /-- It is replaced by a link to the entry for a term. -/
  | link (text term : String)
  /-- It stays, and a warning is given. -/
  | warning (d : Diagnostic)
  deriving DecidableEq

namespace Resolution

/-- The text of the link. -/
def link? : Resolution → Option String
  | link text _ => some text
  | warning _ => none

/-- The term linked. -/
def term? : Resolution → Option String
  | link _ term => some term
  | warning _ => none

/-- The warning given. -/
def warning? : Resolution → Option Diagnostic
  | link _ _ => none
  | warning d => some d

end Resolution

/-- A reference with the scope of the glossary and the version of the resolver where it
has none of its own. -/
def Resolver.filled (r : Resolver) (g : Glossary) (ref : Reference) : Reference :=
  { ref with
    scopetag := some (ref.scopetag.getD g.scopetag)
    vsntag := some (ref.vsntag.getD r.vsntag) }

/-- What the glossary answers for a reference that is filled in. -/
def Resolver.answer (r : Resolver) (g : Glossary) (ref : Reference) :
    Except Failure (Option Entry) :=
  g.lookup ref.term (ref.scopetag.getD g.scopetag) (ref.vsntag.getD r.vsntag)

/-- The rendering of a filled reference to an entry, which is empty if the style fails. -/
def Resolver.rendering (r : Resolver) (g : Glossary) (e : Entry) (ref : Reference) : String :=
  (r.style.text? e (r.filled g ref)).getD ""

/-- The line on which a span begins: one more than the newlines before it. -/
def Occurrence.lineIn (o : Occurrence) (text : String) : Nat :=
  (text.toList.take o.start).count '\n' + 1

/-- What a conversion of a text of a file is to do with a reference in it. -/
inductive HasResolution (r : Resolver) (g : Glossary) (file text : String) (o : Occurrence) :
    Resolution → Prop
  /-- There is an entry, and something to show for it. -/
  | link {e} : r.answer g o.reference = .ok (some e) → r.rendering g e o.reference ≠ "" →
      HasResolution r g file text o (.link (r.rendering g e o.reference) e.term)
  /-- There is no entry. -/
  | unresolved : r.answer g o.reference = .ok none →
      HasResolution r g file text o (.warning ⟨.unresolved,
        "Term ref '" ++ o.text ++ "' could not be matched with a MRG entry", some file,
        some (o.lineIn text)⟩)
  /-- There is an entry, and nothing to show for it. -/
  | empty {e} : r.answer g o.reference = .ok (some e) → r.rendering g e o.reference = "" →
      HasResolution r g file text o (.warning ⟨.emptyRender,
        "Conversion of term ref '" ++ o.text ++ "' resulted in an empty string", some file,
        some (o.lineIn text)⟩)

variable {r : Resolver} {g : Glossary} {file text : String} {o : Occurrence}

/-- A reference has one resolution at most. -/
theorem HasResolution.unique {u v : Resolution} (hu : HasResolution r g file text o u)
    (hv : HasResolution r g file text o v) : u = v := by
  -- the glossary gives one answer, so two links or warnings come from one entry
  have same : ∀ {e e' : Entry}, r.answer g o.reference = .ok (some e) →
      r.answer g o.reference = .ok (some e') → e = e' := fun h h' =>
    Option.some.inj (Except.ok.inj (h.symm.trans h'))
  cases hu with
  | link h hne =>
    cases hv with
    | link h' => rw [same h h']
    | unresolved h' => rw [h] at h'; cases h'
    | empty h' he => exact absurd (same h h' ▸ he) hne
  | unresolved h =>
    cases hv with
    | link h' => rw [h] at h'; cases h'
    | unresolved => rfl
    | empty h' => rw [h] at h'; cases h'
  | empty h he =>
    cases hv with
    | link h' hne => exact absurd (same h h' ▸ he) hne
    | unresolved h' => rw [h] at h'; cases h'
    | empty => rfl

/-! ### References that a scan finds -/

/-- A part that a reference found has is not empty. -/
theorem filter_ne_empty (t : Option String) : (t.filter fun s => !s.isEmpty) ≠ some "" := by
  intro h
  have := (Option.filter_eq_some_iff.mp h).2
  simp at this

theorem interpret_present (gr : Grammar) (d : Cursor) :
    (gr.interpret d).scopetag ≠ some "" ∧ (gr.interpret d).vsntag ≠ some "" :=
  ⟨filter_ne_empty _, filter_ne_empty _⟩

theorem Grammar.Picks.interpreted {gr : Grammar} {c : Cursor} {os : List Occurrence}
    (h : gr.Picks c os) :
    ∀ o ∈ os, ∃ e d, gr.pattern.matchAt? e = some d ∧ o.reference = gr.interpret d := by
  induction h with
  | done => simp
  | pass _ _ _ ih => exact ih
  | @pick c d os hm _ _ ih =>
    intro o ho
    rcases List.mem_cons.mp ho with rfl | ho
    · exact ⟨c, d, hm, rfl⟩
    · exact ih o ho

theorem complete_eq_filled {ref : Reference} (hs : ref.scopetag ≠ some "")
    (hv : ref.vsntag ≠ some "") : r.complete g ref = r.filled g ref := by
  rcases ref with ⟨shown, term, trait, - | scope, - | version⟩
  · rfl
  · have hversion : version ≠ "" := fun h => hv (congrArg some h)
    simp [Resolver.complete, Resolver.filled, hversion]
  · have hscope : scope ≠ "" := fun h => hs (congrArg some h)
    simp [Resolver.complete, Resolver.filled, hscope]
  · have hscope : scope ≠ "" := fun h => hs (congrArg some h)
    have hversion : version ≠ "" := fun h => hv (congrArg some h)
    simp [Resolver.complete, Resolver.filled, hscope, hversion]

/-! ### What becomes of them -/

/-- The link that replaces a reference of this fate. -/
def Fate.link? : Fate → Option String
  | .converted link _ => some link
  | _ => none

/-- What becomes of an occurrence, as a resolution. -/
def Resolver.resolution (r : Resolver) (g : Glossary) (file text : String) (o : Occurrence) :
    Resolution :=
  match r.fate g o.reference with
  | .converted link term => .link link term
  | f => match f.warning? file (Lines.lineOf text.toList o.start) o with
    | some d => .warning d
    | none => .link "" ""

theorem answer_eq (hg : g.ready = true) (ref : Reference) :
    r.answer g ref = .ok (Resolver.entryFor? g (r.filled g ref)) := by
  rw [Resolver.answer, Glossary.lookup, if_pos hg]
  rfl

theorem fate_eq {ref : Reference} (hs : ref.scopetag ≠ some "") (hv : ref.vsntag ≠ some "") :
    r.fate g ref = match Resolver.entryFor? g (r.filled g ref) with
      | none => .unresolved
      | some e => match r.style.text? e (r.filled g ref) with
        | none => .failed e.term
        | some link => if link = "" then .empty else .converted link e.term := by
  rw [← complete_eq_filled hs hv]
  rfl

/-- A link comes from an entry that the glossary has. -/
theorem link?_fate_eq_some {ref : Reference} {l : String} (hg : g.ready = true)
    (hs : ref.scopetag ≠ some "") (hv : ref.vsntag ≠ some "") (h : (r.fate g ref).link? = some l) :
    ∃ e, r.answer g ref = .ok (some e) ∧ r.style.text? e (r.filled g ref) = some l := by
  rw [fate_eq hs hv] at h
  rw [answer_eq hg]
  rcases he : Resolver.entryFor? g (r.filled g ref) with - | e
  · rw [he] at h
    cases h
  · rw [he] at h
    dsimp only at h
    refine ⟨e, rfl, ?_⟩
    rcases ht : r.style.text? e (r.filled g ref) with - | t
    · rw [ht] at h
      cases h
    · rw [ht] at h
      dsimp only at h
      split at h
      · cases h
      · exact h

theorem hasResolution_resolution (hg : g.ready = true) (hs : o.reference.scopetag ≠ some "")
    (hv : o.reference.vsntag ≠ some "") :
    HasResolution r g file text o (r.resolution g file text o) := by
  have hanswer := answer_eq (r := r) hg o.reference
  rw [Resolver.resolution, fate_eq hs hv]
  rcases he : Resolver.entryFor? g (r.filled g o.reference) with - | e
  · exact .unresolved (hanswer.trans (by rw [he]))
  · have hfound : r.answer g o.reference = .ok (some e) := hanswer.trans (by rw [he])
    dsimp only
    rcases ht : r.style.text? e (r.filled g o.reference) with - | t
    · exact .empty hfound (by rw [Resolver.rendering, ht]; rfl)
    · have hrender : r.rendering g e o.reference = t := by rw [Resolver.rendering, ht]; rfl
      dsimp only
      by_cases hempty : t = ""
      · rw [if_pos hempty]
        exact .empty hfound (hrender.trans hempty)
      · rw [if_neg hempty]
        exact hrender ▸ .link hfound (by rwa [hrender])

theorem link?_resolution (o : Occurrence) :
    (r.resolution g file text o).link? = (r.fate g o.reference).link? := by
  rw [Resolver.resolution]
  cases r.fate g o.reference <;> rfl

theorem term?_resolution (o : Occurrence) :
    (r.resolution g file text o).term? = (r.fate g o.reference).term? := by
  rw [Resolver.resolution]
  cases r.fate g o.reference <;> rfl

theorem warning?_resolution (o : Occurrence) :
    (r.resolution g file text o).warning? =
      (r.fate g o.reference).warning? file (Lines.lineOf text.toList o.start) o := by
  rw [Resolver.resolution]
  cases r.fate g o.reference <;> rfl

/-! ### Conversions -/

/-- Recording what becomes of occurrences adds their warnings to the report, and nothing
else. -/
theorem foldl_record_report (os : List Occurrence) (j : Journal) :
    ((r.fates g os).foldl (r.record file text) j).report =
      { j.report with diagnostics := j.report.diagnostics ++
          (os.map (r.resolution g file text)).filterMap Resolution.warning? } := by
  induction os generalizing j with
  | nil => simp [Resolver.fates]
  | cons o os ih =>
    have hrec : (r.record file text j (o, r.fate g o.reference)).report =
        { j.report with diagnostics := j.report.diagnostics ++
            (r.resolution g file text o).warning?.toList } := by
      rw [Resolver.record, warning?_resolution]
      dsimp only
      rcases (r.fate g o.reference).warning? file (Lines.lineOf text.toList o.start) o with - | d
      · simp
      · rfl
    show ((r.fates g os).foldl (r.record file text)
      (r.record file text j (o, r.fate g o.reference))).report = _
    rw [ih, hrec, List.map_cons, List.filterMap_cons]
    rcases (r.resolution g file text o).warning? with - | d <;> simp

/-- Counting terms adds them to the report, and nothing else. -/
theorem foldl_converted_report (terms : List String) (j : Journal) :
    (terms.foldl Journal.converted j).report =
      { j.report with converted := j.report.converted ++ terms } := by
  induction terms generalizing j with
  | nil => simp
  | cons t terms ih => simp [ih, Journal.converted, Report.addConverted]

theorem edits_of_fates (os : List Occurrence) :
    (r.fates g os).filterMap (fun p => p.2.edit? p.1) =
      editsOf (fun o => (r.fate g o.reference).link?) os := by
  rw [Resolver.fates, List.filterMap_map, editsOf]
  congr 1
  funext o
  simp only [Function.comp_apply]
  cases r.fate g o.reference <;> rfl

theorem terms_of_fates (file text : String) (os : List Occurrence) :
    (r.fates g os).filterMap (fun p => p.2.term?) =
      (os.map (r.resolution g file text)).filterMap Resolution.term? := by
  rw [Resolver.fates, List.filterMap_map, List.filterMap_map]
  congr 1
  funext o
  exact (term?_resolution o).symm

/-- A conversion of a text with references gives the text with the links of their resolutions
in place. -/
theorem convert_of_scan_ne_nil (hg : g.ready = true) (hs : r.grammar.scan text ≠ [])
    (file : String) (j : Journal) :
    ∃ out, (r.convert g file text j).1 = .ok (some ⟨out,
        ((r.grammar.scan text).map (r.resolution g file text)).filterMap Resolution.term?⟩) ∧
      (r.convert g file text j).2.report = { j.report with diagnostics := j.report.diagnostics ++
          ((r.grammar.scan text).map (r.resolution g file text)).filterMap Resolution.warning? } ∧
      Spliced 0 text.toList
        ((r.grammar.scan text).map fun o => (o, (r.fate g o.reference).link?)) out.toList := by
  obtain ⟨out, offsets, happly, hout⟩ :=
    applyAll_editsOf r.grammar text fun o => (r.fate g o.reference).link?
  have hos : (r.grammar.findings text).filterMap Finding.occurrence? = r.grammar.scan text := rfl
  refine ⟨out, ?_, ?_, hout⟩
  · rw [Resolver.convert, hos]
    rcases hl : r.grammar.scan text with - | ⟨o, os⟩
    · exact absurd hl hs
    · rw [← hl]
      simp only [hg, if_true, Resolver.replaced]
      rw [edits_of_fates, terms_of_fates file text, happly]
      rfl
  · rw [Resolver.convert, hos]
    rcases hl : r.grammar.scan text with - | ⟨o, os⟩
    · exact absurd hl hs
    · rw [← hl]
      simp only [hg, if_true]
      rw [foldl_record_report]

theorem convert_of_scan_eq_nil (hs : r.grammar.scan text = []) (j : Journal) :
    (r.convert g file text j).1 = .ok none ∧ (r.convert g file text j).2.report = j.report := by
  have hos : (r.grammar.findings text).filterMap Finding.occurrence? = [] := hs
  rw [Resolver.convert, hos]
  exact ⟨rfl, rfl⟩

/-- **A conversion settles every reference.**  With a loaded glossary it never fails; it
gives nothing exactly when the text has no reference; and otherwise each reference has its
one resolution, in order: the terms linked and the warnings are those of the resolutions, and the
text is the one before with the linked spans replaced and every other character kept. -/
theorem convert_settles_every_reference (r : Resolver) (g : Glossary) (file text : String)
    (j : Journal) (hg : g.ready = true) :
    ((r.convert g file text j).1 = .ok none ↔ r.grammar.scan text = []) ∧
      (r.grammar.scan text = [] → (r.convert g file text j).2.report = j.report) ∧
      (∀ o u v, HasResolution r g file text o u → HasResolution r g file text o v → u = v) ∧
      (r.grammar.scan text ≠ [] → ∃ (out : String) (rs : List Resolution),
        List.Forall₂ (HasResolution r g file text) (r.grammar.scan text) rs ∧
        (r.convert g file text j).1 = .ok (some ⟨out, rs.filterMap Resolution.term?⟩) ∧
        (r.convert g file text j).2.report = { j.report with
          diagnostics := j.report.diagnostics ++ rs.filterMap Resolution.warning? } ∧
        Spliced 0 text.toList ((r.grammar.scan text).zip (rs.map Resolution.link?)) out.toList) := by
  refine ⟨⟨fun h => ?_, fun h => (convert_of_scan_eq_nil h j).1⟩,
    fun h => (convert_of_scan_eq_nil h j).2, fun o u v => HasResolution.unique, fun h => ?_⟩
  · by_contra hne
    obtain ⟨out, hout, -⟩ := convert_of_scan_ne_nil hg hne file j
    rw [hout] at h
    cases h
  · obtain ⟨out, hout, hreport, hspliced⟩ := convert_of_scan_ne_nil hg h file j
    refine ⟨out, (r.grammar.scan text).map (r.resolution g file text), ?_, hout, hreport, ?_⟩
    · rw [List.forall₂_map_right_iff, List.forall₂_same]
      intro o ho
      obtain ⟨-, d, -, hd⟩ := (r.grammar.picks_scan text).interpreted o ho
      obtain ⟨hscope, hversion⟩ := interpret_present r.grammar d
      exact hasResolution_resolution hg (hd ▸ hscope) (hd ▸ hversion)
    · rw [List.map_map, ← List.map_prod_left_eq_zip]
      simpa only [Function.comp_apply, link?_resolution] using hspliced

/-- An entry that has an address. -/
def Entry.plain : Entry := ⟨"a", "latest", "s", "", "", none, some "url", [], [], []⟩

/-- The glossary of that entry. -/
def Glossary.plain : Glossary :=
  Glossary.add
    { admin := ⟨⟨"s", "", "", none, none, none, []⟩, [], [], []⟩
      scopedir := ⟨.root, []⟩
      ready := true }
    .plain

/-- The default grammar with the default style. -/
def Resolver.plain : Resolver := ⟨.standard, .standard, "latest"⟩

/-- There is an entry for the first reference, and none for the second. -/
theorem convert_settles_two_references :
    Glossary.plain.ready = true ∧ Grammar.standard.scan "[a](@) [b](@)" ≠ [] ∧
      ∃ (out : String) (rs : List Resolution),
        List.Forall₂ (HasResolution .plain .plain "f" "[a](@) [b](@)")
          (Grammar.standard.scan "[a](@) [b](@)") rs ∧
        (Resolver.plain.convert .plain "f" "[a](@) [b](@)" {}).1 =
          .ok (some ⟨out, rs.filterMap Resolution.term?⟩) ∧
        (Resolver.plain.convert .plain "f" "[a](@) [b](@)" {}).2.report =
          { ({} : Report) with diagnostics := [] ++ rs.filterMap Resolution.warning? } ∧
        Spliced 0 "[a](@) [b](@)".toList
          ((Grammar.standard.scan "[a](@) [b](@)").zip (rs.map Resolution.link?)) out.toList :=
  ⟨rfl, by decide +kernel,
    (convert_settles_every_reference .plain .plain "f" "[a](@) [b](@)" {} rfl).2.2.2
      (by decide +kernel)⟩

end TermRef
