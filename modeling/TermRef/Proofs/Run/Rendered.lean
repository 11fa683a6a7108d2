/-
TermRef/Proofs/Run/Rendered.lean

With a named style, no run records a rendering that is empty but for numbers that are too long.

Every entry that is found is linked if it can be written, because some text of the style stands
around whatever it puts in (`Resolver.fate_of_named`).  So with a glossary that answers with such
entries only (`Glossary.IsWritable`), a conversion only warns of references without an entry,
loading warns of entries that are left out, and all else that a run records are errors with files.
A run goes on from file to file with the resolver and the glossary that it has, so this holds of
each file and of all of them (`Run.Renders`), also if the run breaks off, and if its glossary is
not ready.  An entry with a trait that is too long is not rendered, and that is recorded
(`long_trait_is_not_rendered`).
-/
import TermRef.Proofs.Conversion.Rescan
import TermRef.Proofs.Glossary.History
import TermRef.Proofs.Link.Verbatim
import TermRef.Proofs.Reference.Words
import TermRef.Proofs.Run.Account

namespace TermRef

/-! ### Problems of a kind -/

namespace Report

variable {k : DiagnosticKind}

/-- Warnings of other kinds leave the problems of a kind as they were. -/
theorem ofKind_append (r : Report) {ds : List Diagnostic} (h : ∀ d ∈ ds, d.kind ≠ k) :
    { r with diagnostics := r.diagnostics ++ ds }.ofKind k = r.ofKind k := by
  have hnone : ds.filter (fun d => d.kind == k) = [] :=
    List.filter_eq_nil_iff.mpr fun d hd => by simpa using h d hd
  rw [ofKind, ofKind, List.filter_append, List.filter_append, hnone, List.append_nil,
    List.filter_append]

/-- So does an error of another kind. -/
theorem ofKind_addError (r : Report) {d : Diagnostic} (h : d.kind ≠ k) :
    (r.addError d).ofKind k = r.ofKind k := by
  simp [ofKind, addError, h]

end Report

/-! ### Texts -/

/-- The entries that the glossary answers with can be written. -/
def Glossary.IsWritable (g : Glossary) : Prop :=
  ∀ term scopetag vsntag e, g.entry? term scopetag vsntag = some e → e.isWritable = true

/-- A glossary answers with entries that it has. -/
theorem Glossary.Indexed.isWritable {g : Glossary} (hg : g.Indexed)
    (h : ∀ e ∈ g.entries, e.isWritable = true) : g.IsWritable := by
  intro term scopetag vsntag e he
  rw [hg.entry?] at he
  exact h e (mem_of_firstFor? he)

namespace Resolver

variable {r : Resolver} {g : Glossary}

/-- **A named style links every entry that is found, if it can be written.** -/
theorem fate_of_named (hs : r.style ∈ LinkStyle.named) (hg : g.IsWritable) (ref : Reference) :
    r.fate g ref = .unresolved ∨ ∃ link term, r.fate g ref = .converted link term := by
  rw [fate]
  rcases he : entryFor? g (r.complete g ref) with - | e
  · exact .inl rfl
  · have hwritable := Fields.isWritable_merge (hg _ _ _ e he) (r.complete g ref)
    rcases LinkStyle.text?_of_named hs e (r.complete g ref) with ⟨l, hl, hfenced⟩ | ⟨-, hlong⟩
    · have hne : l ≠ "" := by
        rintro rfl
        exact hfenced.ne_nil rfl
      simp [hl, hne]
    · rw [hlong] at hwritable
      cases hwritable

theorem ofKind_record (hs : r.style ∈ LinkStyle.named) (hg : g.IsWritable) (file text : String)
    (o : Occurrence) (j : Journal) :
    (r.record file text j (o, r.fate g o.reference)).report.ofKind .emptyRender =
      j.report.ofKind .emptyRender := by
  rcases fate_of_named hs hg o.reference with h | ⟨link, term, h⟩
  · rw [h]
    exact j.report.ofKind_append (by simp)
  · rw [h]
    rfl

theorem ofKind_foldl_record (hs : r.style ∈ LinkStyle.named) (hg : g.IsWritable)
    (file text : String) (os : List Occurrence) (j : Journal) :
    ((r.fates g os).foldl (r.record file text) j).report.ofKind .emptyRender =
      j.report.ofKind .emptyRender := by
  induction os generalizing j with
  | nil => rfl
  | cons o os ih => exact (ih _).trans (ofKind_record hs hg file text o j)

theorem ofKind_convert (hs : r.style ∈ LinkStyle.named) (hg : g.IsWritable) (file text : String)
    (j : Journal) :
    (r.convert g file text j).2.report.ofKind .emptyRender = j.report.ofKind .emptyRender := by
  rw [convert]
  dsimp only
  split
  · rfl
  · split
    · exact ofKind_foldl_record hs hg file text _ _
    · -- the glossary is not ready, and nothing is recorded
      rfl

theorem ofKind_convertText (hs : r.style ∈ LinkStyle.named) (hg : g.IsWritable)
    (file text : String) (j : Journal) :
    (r.convertText g file text j).2.report.ofKind .emptyRender =
      j.report.ofKind .emptyRender := by
  have hconvert := ofKind_convert hs hg file text j
  rw [convertText]
  rcases hc : r.convert g file text j with ⟨e | - | c, j'⟩
  · rwa [hc] at hconvert
  · rwa [hc] at hconvert
  · rw [hc] at hconvert
    show (c.terms.foldl Journal.converted j').report.ofKind _ = _
    rw [foldl_converted_report]
    exact hconvert

end Resolver

/-! ### Files -/

namespace Run

/-- A run goes on with the same resolver and glossary, and with no more renderings recorded as
empty. -/
structure Renders (r s : Run) : Prop where
  resolver : s.resolver = r.resolver
  glossary : s.glossary = r.glossary
  empty : s.journal.report.ofKind .emptyRender = r.journal.report.ofKind .emptyRender

theorem Renders.refl (r : Run) : r.Renders r := ⟨rfl, rfl, rfl⟩

theorem Renders.trans {r s u : Run} (h : r.Renders s) (h' : s.Renders u) : r.Renders u :=
  ⟨h'.resolver.trans h.resolver, h'.glossary.trans h.glossary, h'.empty.trans h.empty⟩

variable {r : Run}

theorem renders_fileError (r : Run) (path message : String) :
    r.Renders (r.fileError path message) :=
  ⟨rfl, rfl, r.journal.report.ofKind_addError (by simp)⟩

theorem renders_deliver (r : Run) (p : Path) (c : Conversion) : r.Renders (r.deliver p c).2 := by
  rw [deliver]
  dsimp only
  rcases writeBytes r.files (r.outputPath p) (Utf8.encode c.text.toList) with
    ⟨t, - | (⟨cause, q⟩ | -)⟩
  · -- it is written, and its terms count
    refine ⟨rfl, rfl, ?_⟩
    show (c.terms.foldl Journal.converted r.journal).report.ofKind _ = _
    rw [foldl_converted_report]
    rfl
  · exact Renders.trans (s := { r with files := t }) ⟨rfl, rfl, rfl⟩ (renders_fileError _ _ _)
  · exact ⟨rfl, rfl, rfl⟩

theorem renders_processFile (hs : r.resolver.style ∈ LinkStyle.named)
    (hg : r.glossary.IsWritable) (p : Path) : r.Renders (r.processFile p).2 := by
  rw [processFile]
  rcases readText r.files p.text with e | message | text
  · exact .refl r
  · exact renders_fileError r _ _
  · have hconvert := Resolver.ofKind_convert hs hg p.text text r.journal
    dsimp only
    rcases hc : r.resolver.convert r.glossary p.text text r.journal with ⟨e | - | c, j⟩
    · exact ⟨rfl, rfl, by rwa [hc] at hconvert⟩
    · exact ⟨rfl, rfl, by rwa [hc] at hconvert⟩
    · rw [hc] at hconvert
      exact Renders.trans (s := { r with journal := j }) ⟨rfl, rfl, hconvert⟩
        (renders_deliver _ p c)

theorem renders_processAll (hs : r.resolver.style ∈ LinkStyle.named)
    (hg : r.glossary.IsWritable) (ps : List Path) (n : Nat) :
    r.Renders (processAll ps n r).2 := by
  induction ps generalizing r n with
  | nil => exact .refl r
  | cons p ps ih =>
    have hfile := renders_processFile hs hg p
    have hrest : ∀ m, (r.processFile p).2.Renders (processAll ps m (r.processFile p).2).2 :=
      ih (hfile.resolver.symm ▸ hs) (hfile.glossary.symm ▸ hg)
    rw [processAll]
    rcases hp : r.processFile p with ⟨e | - | target, s⟩
    · rwa [hp] at hfile
    · rw [hp] at hfile hrest
      exact hfile.trans (hrest n)
    · rw [hp] at hfile hrest
      exact hfile.trans (hrest (n + 1))

theorem renders_scanAll (hs : r.resolver.style ∈ LinkStyle.named) (hg : r.glossary.IsWritable) :
    r.Renders r.scanAll.2 := by
  rw [scanAll]
  rcases r.listFiles with e | ps
  · exact .refl r
  · have hall := renders_processAll hs hg ps 0
    dsimp only
    rcases hp : processAll ps 0 r with ⟨e | n, s⟩
    · rwa [hp] at hall
    · rw [hp] at hall
      exact hall.trans ⟨rfl, rfl, rfl⟩

/-! ### The whole run -/

/-- Loading only warns of entries that are left out. -/
theorem ofKind_load (r : Run) :
    (r.glossary.load r.files r.journal).journal.report.ofKind .emptyRender =
      r.journal.report.ofKind .emptyRender := by
  obtain ⟨ds, hds, hreport⟩ := Glossary.drops_load r.files r.glossary r.journal
  rw [hreport]
  exact Report.ofKind_append _ fun d hd => by simp [hds d hd]

theorem ofKind_resolve (hs : r.resolver.style ∈ LinkStyle.named)
    (hg : (r.glossary.load r.files r.journal).glossary.IsWritable) :
    r.resolve.2.journal.report.ofKind .emptyRender = r.journal.report.ofKind .emptyRender := by
  rcases hloaded : (r.glossary.load r.files r.journal).failure with - | f
  · rw [← started_resolver r] at hs
    rw [← started_glossary r] at hg
    rw [resolve_of_loaded hloaded, (renders_scanAll hs hg).empty, started_report, ofKind_load]
  · rw [journal_of_failure hloaded, ofKind_load]

end Run

/-! ### References that are found -/

/-- What a reference that is found says comes before what the entry says.  Its words are a text,
so only a trait of the entry itself can be too long to be written. -/
theorem merge_of_mem_scan {gr : Grammar} (hg : gr = .standard ∨ gr = .alternate) {text : String}
    {o : Occurrence} (ho : o ∈ gr.scan text) {ref : Reference}
    (hshow : ref.showtext = o.reference.showtext) (htrait : ref.trait = o.reference.trait)
    (e : Entry) :
    (Fields.merge e ref).text "showtext" = o.reference.showtext ∧
      (Fields.merge e ref).text "glossaryText" = e.glossaryText ∧
      (∀ u, e.navurl = some u → (Fields.merge e ref).text "navurl" = u) ∧
      (∀ t, o.reference.trait = some t → (Fields.merge e ref).traitText = "#" ++ t) ∧
      ∀ u, e.navurl = some u → ((Fields.merge e ref).isWritable = true ↔
        o.reference.trait = none → ∀ v, e.value? "trait" = some v → v.hasText = true) := by
  obtain ⟨mark, Head, Tail, hb, -⟩ := Grammar.worded_of_named hg
  obtain ⟨-, -, hwords, -⟩ := hb.found ho
  obtain ⟨-, d, -, hd⟩ := (gr.picks_scan text).interpreted o ho
  have hfilled : ∀ t, o.reference.trait = some t → t ≠ "" := by
    rintro t ht rfl
    exact filter_ne_empty _ (hd ▸ ht)
  rw [← hshow] at hwords
  refine ⟨?_, Fields.text_glossaryText_merge, fun u => Fields.text_navurl_merge, fun t ht => ?_,
    fun u hu => ?_⟩
  · rw [← hshow]
    exact Fields.text_showtext_merge hwords
  · exact Fields.traitText_merge (htrait.trans ht) (hfilled t ht)
  · have htext : (Fields.merge e ref).isWritable = (Fields.merge e ref).hasText "trait" := by
      simp [Fields.isWritable, Fields.haveTexts, Fields.hasText_showtext_merge hwords,
        Fields.hasText_navurl_merge hu]
    rw [htext, Fields.hasText_merge, ref.value?_trait, htrait]
    rcases ht : o.reference.trait with - | t
    · cases e.value? "trait" <;> simp [Reference.present?]
    · simp [Reference.present?, hfilled t ht]

/-! ### Verbatim -/

/-- **The named styles render in closed form and verbatim.**  Under a name the fields have what the
reference has, or else what the entry has.  The template of a named style is what is read from its
text, and a rendering is the same text with what the fields have in its slots, whatever that is,
and never empty; only if a number there is too long to be written, nothing is rendered and a note
says so.  For a reference that a named grammar finds, filled in or not, these are its words, the
address and the explanation of the entry, and its own trait before any other, so that only a trait
of the entry can be such a number.  Without any among the entries that are found, no run with such
a style, no file and no text in it has a rendering recorded as empty. -/
theorem named_styles_render_verbatim :
    (∀ (e : Entry) (ref : Reference) (n : String),
      (Fields.merge e ref).get? n = (ref.value? n).or (e.value? n)) ∧
    (∀ s ∈ LinkStyle.named, Template.ofText s.kind.source = .ok s.template ∧
      ∀ (e : Entry) (ref : Reference),
        let out := s.kind.layout (Fields.merge e ref).text (Fields.merge e ref).traitText
        out ≠ "" ∧
        s.text? e ref = (if (Fields.merge e ref).isWritable then some out else none) ∧
        ∀ j, s.render e ref j = if (Fields.merge e ref).isWritable then (out, j)
          else ("", { j with notes := j.notes ++ [s.failureNote e.term] })) ∧
    (∀ (r : Resolver) (g : Glossary), r.grammar = .standard ∨ r.grammar = .alternate →
      ∀ text, ∀ o ∈ r.grammar.scan text, ∀ ref : Reference,
        ref = o.reference ∨ ref = r.complete g o.reference → ∀ e : Entry,
          (Fields.merge e ref).text "showtext" = o.reference.showtext ∧
          (Fields.merge e ref).text "glossaryText" = e.glossaryText ∧
          (∀ u, e.navurl = some u → (Fields.merge e ref).text "navurl" = u) ∧
          (∀ t, o.reference.trait = some t → (Fields.merge e ref).traitText = "#" ++ t) ∧
          ∀ u, e.navurl = some u → ((Fields.merge e ref).isWritable = true ↔
            o.reference.trait = none → ∀ v, e.value? "trait" = some v → v.hasText = true)) ∧
    ∀ r : Run, r.resolver.style ∈ LinkStyle.named →
      ((r.glossary.load r.files r.journal).glossary.IsWritable →
        r.resolve.2.journal.report.ofKind .emptyRender = r.journal.report.ofKind .emptyRender) ∧
      (r.glossary.IsWritable →
        (∀ p, (r.processFile p).2.journal.report.ofKind .emptyRender =
          r.journal.report.ofKind .emptyRender) ∧
        ∀ file text, (r.resolver.convertText r.glossary file text r.journal).2.report.ofKind
          .emptyRender = r.journal.report.ofKind .emptyRender) := by
  refine ⟨Fields.get?_merge, fun s hs => ⟨LinkStyle.ofText_source hs, fun e ref => ⟨?_, ?_, ?_⟩⟩,
    fun r g hr text o ho ref href e => ?_, fun r hs => ⟨Run.ofKind_resolve hs, fun hg => ?_⟩⟩
  · intro hempty
    exact (LinkStyle.fenced_layout hs _ _).ne_nil (congrArg String.toList hempty)
  · exact LinkStyle.text?_layout hs e ref
  · exact LinkStyle.render_layout hs e ref
  · refine merge_of_mem_scan hr ho ?_ ?_ e
    · rcases href with rfl | rfl <;> rfl
    · rcases href with rfl | rfl <;> rfl
  · exact ⟨fun p => (Run.renders_processFile hs hg p).empty, fun file text =>
      Resolver.ofKind_convertText hs hg file text r.journal⟩

/-- An entry whose address is a slot of a template, with a trait that closes an anchor. -/
def Entry.slotted : Entry :=
  { Entry.plain with
    navurl := some "\x7b\x7b showtext \x7d\x7d"
    extra := [(.text "trait", .text "\"></a>"), (.text "showtext", .text "b")] }

/-- Words, address and trait go in as they are, and of two references one is linked and the other
has no entry. -/
theorem named_styles_render_verbatim_slots :
    LinkStyle.standard ∈ LinkStyle.named ∧
      LinkStyle.standard.text? .slotted ⟨"\x7b% if %\x7d", "a", none, none, none⟩ =
        some "[\x7b% if %\x7d](\x7b\x7b showtext \x7d\x7d#\"></a>)" ∧
      (∃ o ∈ Grammar.standard.scan "[a](@)",
        (Fields.merge .slotted o.reference).text "showtext" = o.reference.showtext) ∧
      Run.paired.resolver.style ∈ LinkStyle.named ∧
      Run.paired.resolve.2.journal.report.ofKind .emptyRender = [] := by
  obtain ⟨-, hrender, hscan, hrun⟩ := named_styles_render_verbatim
  have hstyle : LinkStyle.standard ∈ LinkStyle.named := List.mem_cons_self
  have hindexed : (Glossary.bare.load Run.paired.files Run.paired.journal).glossary.Indexed :=
    (Service.comes_call ⟨.bare, Run.paired.journal⟩ (.load Run.paired.files)).indexed fun _ => rfl
  refine ⟨hstyle, ?_, ?_, hstyle, (hrun .paired hstyle).1 (hindexed.isWritable ?_)⟩
  · rw [((hrender _ hstyle).2 _ _).2.1]
    decide +kernel
  · have ho : ⟨0, 6, "[a](@)", "a", "a", none, none, none⟩ ∈ Grammar.standard.scan "[a](@)" := by
      decide +kernel
    exact ⟨_, ho, (hscan .plain .plain (.inl rfl) _ _ ho _ (.inl rfl) .slotted).1⟩
  · exact List.all_eq_true.mp (by decide +kernel)

/-- An entry with a trait that is too long to be written. -/
def Entry.numbered : Entry :=
  { Entry.plain with extra := [(.text "trait", .int (10 ^ 4300))] }

/-- The glossary of that entry. -/
def Glossary.numbered : Glossary := Glossary.add { Glossary.bare with ready := true } .numbered

/-- The fields that a reference without a trait sees have the trait of the entry, which cannot be
written.  So it is not rendered, although the style is a named one and the entry is found, and the
conversion of a text with it records a rendering that is empty. -/
theorem long_trait_is_not_rendered :
    LinkStyle.standard ∈ LinkStyle.named ∧
      (∃ o ∈ Grammar.standard.scan "[a](@)",
        (Resolver.plain.answer .numbered o.reference).toOption.join.isSome = true ∧
        LinkStyle.standard.text? .numbered o.reference = none ∧
        (LinkStyle.standard.render .numbered o.reference {}).1 = "") ∧
      ((Resolver.plain.convertText .numbered "f" "[a](@)" {}).2.report.ofKind
        .emptyRender).length = 1 := by
  refine ⟨List.mem_cons_self, ⟨⟨0, 6, "[a](@)", "a", "a", none, none, none⟩, ?_⟩, ?_⟩
  · decide +kernel
  · decide +kernel

end TermRef
