/-
TermRef/Proofs/Conversion/Forms.lean

Further forms of a term as the words that a reference shows.

A glossary in use has, for each of its entries, an entry for every further form of the term
(`formed_after`).  A form is stored as it is written, and looked up as the identifier that is
derived from the words shown.  So a reference that shows a form of an entry, and names its scope
and version, resolves if the identifier is the term of some entry for them: the form itself, if it
is an identifier, or the term or a form of the same entry, or by chance that of another one
(`form_resolves_as_identifier`).
-/
import TermRef.Proofs.Conversion.Resolution
import TermRef.Proofs.Glossary.Origin
import TermRef.Proofs.Reference.Passage
import TermRef.Proofs.Text.Slug

namespace TermRef

/-! ### Entries for further forms -/

/-- Among entries are those for the further forms of the term of each. -/
def Formed (es : List Entry) : Prop := ∀ e ∈ es, ∀ p ∈ e.phrases, { e with term := p } ∈ es

namespace Formed

/-- An entry comes with those for its forms, and these have no others. -/
theorem withForms (e : Entry) : Formed e.withForms := by
  intro x hx p hp
  rcases List.mem_cons.mp hx with rfl | hx
  · exact List.mem_cons_of_mem _ (List.mem_map_of_mem hp)
  · obtain ⟨q, -, rfl⟩ := List.mem_map.mp hx
    have hphrase : p ∈ e.phrases := hp
    exact List.mem_cons_of_mem _ (List.mem_map.mpr ⟨p, hphrase, rfl⟩)

theorem append {es fs : List Entry} (h : Formed es) (h' : Formed fs) : Formed (es ++ fs) := by
  intro e he p hp
  rcases List.mem_append.mp he with he | he
  · exact List.mem_append_left _ (h e he p hp)
  · exact List.mem_append_right _ (h' e he p hp)

theorem flatMap {α : Type} {f : α → List Entry} (h : ∀ a, Formed (f a)) (as : List α) :
    Formed (as.flatMap f) := by
  intro e he p hp
  obtain ⟨a, ha, he⟩ := List.mem_flatMap.mp he
  exact List.mem_flatMap.mpr ⟨a, ha, h a e he p hp⟩

/-- What becomes of one entry of a terminology brings its forms along. -/
theorem admission (a : Admission) : Formed a.entries := by
  cases a with
  | admitted e => exact withForms e
  | dropped => exact fun e he => (List.not_mem_nil he).elim
  | refused => exact fun e he => (List.not_mem_nil he).elim

end Formed

/-- **A glossary that answers has the further forms of all its entries**, whatever has been
called. -/
theorem Service.formed_after (admin : ScopeAdmin) (scopedir : Path) (j : Journal)
    (calls : List Call)
    (hready : (Service.after ⟨{ admin, scopedir }, j⟩ calls).glossary.ready = true) :
    Formed (Service.after ⟨{ admin, scopedir }, j⟩ calls).glossary.entries := by
  obtain ⟨before, t, later, hlast⟩ := Service.exists_lastLoad rfl hready
  obtain ⟨es, hbuilt, -, hentries⟩ := hlast.answers hready
  obtain ⟨names, ys, -, -, -, rfl⟩ := hbuilt
  rw [hentries]
  refine .append (.flatMap (fun y => .flatMap .admission _) ys) (.flatMap (fun c => ?_) later)
  cases c with
  | take y source => exact .flatMap .admission _
  | load => exact fun e he => (List.not_mem_nil he).elim
  | lookup => exact fun e he => (List.not_mem_nil he).elim

/-! ### One reference -/

section Single

variable {r : Resolver} {g : Glossary} {file text : String} {o : Occurrence}

/-- The warning that there is no entry is given if there is none. -/
theorem HasResolution.unresolved_iff {u : Resolution} (h : HasResolution r g file text o u) :
    (∃ d ∈ u.warning?.toList, d.kind = .unresolved) ↔ r.answer g o.reference = .ok none := by
  cases h with
  | link hfound => simp [Resolution.warning?, hfound]
  | unresolved hnone => simp [Resolution.warning?, hnone]
  | empty hfound => simp [Resolution.warning?, hfound]

/-- A conversion of a text with one reference warns of that one at most. -/
theorem convertText_of_scan_singleton (hg : g.ready = true) (hs : r.grammar.scan text = [o])
    (file : String) (j : Journal) : ∃ u, HasResolution r g file text o u ∧
      (r.convertText g file text j).2.report.diagnostics =
        j.report.diagnostics ++ u.warning?.toList := by
  have hne : r.grammar.scan text ≠ [] := by simp [hs]
  obtain ⟨-, d, -, hd⟩ := (r.grammar.picks_scan text).interpreted o (by simp [hs])
  obtain ⟨hscope, hversion⟩ := interpret_present r.grammar d
  obtain ⟨out, hout, hreport, -⟩ := convert_of_scan_ne_nil hg hne file j
  refine ⟨_, hasResolution_resolution hg (hd ▸ hscope) (hd ▸ hversion), ?_⟩
  rw [Resolver.convertText]
  rcases hc : r.convert g file text j with ⟨res, j'⟩
  rw [hc] at hout hreport
  obtain rfl : res = .ok (some ⟨out, _⟩) := hout
  dsimp only at hreport ⊢
  rw [foldl_converted_report, hreport, hs]
  show j.report.diagnostics ++ [r.resolution g file text o].filterMap Resolution.warning? = _
  rcases hw : (r.resolution g file text o).warning? with - | d
  · rw [List.filterMap_cons_none hw]
    rfl
  · rw [List.filterMap_cons_some hw]
    rfl

end Single

/-! ### Forms as words -/

/-- A reference that shows some words, to a scope in a version. -/
def citing (words scopetag vsntag : String) : String :=
  "[" ++ words ++ "](@" ++ scopetag ++ ":" ++ vsntag ++ ")"

/-- Words, a scope and a version that can be written in a reference. -/
structure Citable (words scopetag vsntag : String) : Prop where
  words : words ≠ "" ∧ ∀ c ∈ words.toList, isShown c = true
  scopetag : scopetag ≠ "" ∧ ∀ c ∈ scopetag.toList, Slug.isSlugChar c = true
  vsntag : vsntag ≠ "" ∧ ∀ c ∈ vsntag.toList, isVersion c = true

instance (words scopetag vsntag : String) : Decidable (Citable words scopetag vsntag) :=
  decidable_of_iff ((words ≠ "" ∧ words.toList.all isShown = true) ∧
      (scopetag ≠ "" ∧ scopetag.toList.all Slug.isSlugChar = true) ∧
      vsntag ≠ "" ∧ vsntag.toList.all isVersion = true) <| by
    simp only [List.all_eq_true]
    exact ⟨fun h => ⟨h.1, h.2.1, h.2.2⟩, fun h => ⟨h.words, h.scopetag, h.vsntag⟩⟩

theorem toList_ne_nil {s : String} (h : s ≠ "") : s.toList ≠ [] := fun hnil =>
  h (String.toList_injective hnil)

/-- The reference that shows them, as a mention. -/
def Citable.mention {words scopetag vsntag : String} (h : Citable words scopetag vsntag) :
    Mention where
  shown := words.toList
  origin := {
    scopetag := scopetag.toList
    vsntag := some vsntag.toList
    scopetag_slug := h.scopetag.2
    vsntag_version := by
      rintro v ⟨⟩
      exact ⟨toList_ne_nil h.vsntag.1, h.vsntag.2⟩ }
  shown_ne_nil := toList_ne_nil h.words.1
  shown_isShown := h.words.2

/-- Nothing but one reference, which names no term. -/
def Passage.single (m : Mention) : Passage where
  pieces := [([], ⟨m, none⟩)]
  last := []
  plain := by simp
  unescaped := by simp
  apart := by simp

/-- **A reference that shows words means the identifier derived from them.** -/
theorem scan_citing {words scopetag vsntag : String} (h : Citable words scopetag vsntag) :
    ∃ o, Grammar.standard.scan (citing words scopetag vsntag) = [o] ∧
      o.reference = ⟨words, Slug.ofText words, none, some scopetag, some vsntag⟩ := by
  have htext : (Passage.single h.mention).standardText = citing words scopetag vsntag := by
    apply String.toList_injective
    simp [Passage.single, Citable.mention, Passage.standardText, written, Citation.standardText,
      Mention.standardText, Naming.absent, Naming.text, Origin.text, markedText, citing]
  have hscan := (Passage.single h.mention).scan_standardText
  rw [htext] at hscan
  refine ⟨_, hscan, ?_⟩
  show h.mention.reference .absent = _
  simp [Citable.mention, Mention.reference, Naming.absent, presentPart, h.scopetag.1]

namespace Service

/-- **A form resolves as the identifier derived from it.**  A glossary that answers, whatever has
been called, is asked for a form of one of its entries, in the scope and version of that entry.
There is a warning that no entry has been found if and only if none has the identifier for its
term there.  So there is none if the identifier is the term of the entry or one of its forms, and
above all if the form is an identifier itself. -/
theorem form_resolves_as_identifier (admin : ScopeAdmin) (scopedir : Path) (j : Journal)
    (calls : List Call) (r : Resolver) (hr : r.grammar = .standard) :
    let g := (Service.after ⟨{ admin, scopedir }, j⟩ calls).glossary
    g.ready = true → ∀ e ∈ g.entries, ∀ p ∈ e.phrases, Citable p e.scopetag e.vsntag →
      ∀ (file : String) (k : Journal), ∃ ds : List Diagnostic,
        (r.convertText g file (citing p e.scopetag e.vsntag) k).2.report.diagnostics =
          k.report.diagnostics ++ ds ∧
        ((∃ d ∈ ds, d.kind = .unresolved) ↔
          ¬ ∃ e' ∈ g.entries, e'.Answers (Slug.ofText p) e.scopetag e.vsntag) ∧
        (Slug.ofText p = e.term ∨ Slug.ofText p ∈ e.phrases → ∀ d ∈ ds, d.kind ≠ .unresolved) ∧
        (Slug.IsSlug p.toList → ∀ d ∈ ds, d.kind ≠ .unresolved) := by
  intro g hready e he p hp hcitable file k
  have hformed : Formed g.entries := formed_after admin scopedir j calls hready
  obtain ⟨o, hscan, href⟩ := scan_citing hcitable
  rw [← hr] at hscan
  obtain ⟨u, hu, hreport⟩ := convertText_of_scan_singleton hready hscan file k
  -- the answer is that of a search of all entries
  have hanswer : r.answer g o.reference =
      .ok (firstFor? g.entries (Slug.ofText p) e.scopetag e.vsntag) := by
    have hlookup : g.lookup (Slug.ofText p) e.scopetag e.vsntag = _ :=
      (indexed_of_fresh admin scopedir j calls).lookup _ _ _
    rw [href, Resolver.answer, Option.getD_some, Option.getD_some, hlookup]
    exact if_pos hready
  have hiff : (∃ d ∈ u.warning?.toList, d.kind = .unresolved) ↔
      ¬ ∃ e' ∈ g.entries, e'.Answers (Slug.ofText p) e.scopetag e.vsntag := by
    rw [hu.unresolved_iff, hanswer, Except.ok.injEq, firstFor?_eq_none]
  have hown : Slug.ofText p = e.term ∨ Slug.ofText p ∈ e.phrases →
      ∀ d ∈ u.warning?.toList, d.kind ≠ .unresolved := by
    intro hslug d hd hkind
    refine hiff.mp ⟨d, hd, hkind⟩ ?_
    rcases hslug with hterm | hform
    · exact ⟨e, he, hterm.symm, rfl, .inl rfl⟩
    · exact ⟨_, hformed e he _ hform, rfl, rfl, .inl rfl⟩
  refine ⟨_, hreport, hiff, hown, fun hslug => hown (.inr ?_)⟩
  rw [Slug.ofText_eq_self_iff.mpr hslug]
  exact hp

/-- A scope with one terminology, whose entry has two further forms. -/
def twoForms : FileTree where
  here := []
  items := [(["mrg.s.v.yaml"], .file (Utf8.encode
    ("entries: [\x7bterm: a, vsntag: v, scopetag: s, locator: l, " ++
      "glossaryText: w, formPhrases: 'A B,c'\x7d]").toList))]

/-- The glossary of that scope. -/
def formed : Glossary :=
  (Service.after ⟨{ admin := Glossary.bare.admin, scopedir := Glossary.bare.scopedir }, {}⟩
    [.load twoForms]).glossary

theorem formed_entries : formed.ready = true ∧
    formed.entries.map (fun e => (e.term, e.scopetag, e.vsntag, e.formPhrases)) =
      [("a", "s", "v", some "A B,c"), ("A B", "s", "v", some "A B,c"),
        ("c", "s", "v", some "A B,c")] := by
  decide +kernel

/-- Its entry, with both forms. -/
theorem exists_formed_entry : ∃ e ∈ formed.entries, e.scopetag = "s" ∧ e.vsntag = "v" ∧
    "A B" ∈ e.phrases ∧ "c" ∈ e.phrases := by
  obtain ⟨e, he, hparts⟩ := List.mem_map.mp (formed_entries.2 ▸ List.mem_cons_self)
  obtain ⟨-, hscope, hversion, hforms⟩ : e.term = "a" ∧ e.scopetag = "s" ∧ e.vsntag = "v" ∧
      e.formPhrases = some "A B,c" := by simpa using hparts
  refine ⟨e, he, hscope, hversion, ?_⟩
  rw [Entry.phrases, hforms]
  decide

/-- The second of the two is an identifier, and resolves. -/
theorem form_resolves_as_identifier_second : formed.ready = true ∧
    ∃ e ∈ formed.entries, "c" ∈ e.phrases ∧ Citable "c" e.scopetag e.vsntag ∧
      ∃ ds : List Diagnostic,
        (Resolver.plain.convertText formed "f" (citing "c" e.scopetag e.vsntag)
          {}).2.report.diagnostics = [] ++ ds ∧ ∀ d ∈ ds, d.kind ≠ .unresolved := by
  have hready := formed_entries.1
  obtain ⟨e, he, hscope, hversion, -, hform⟩ := exists_formed_entry
  have hcitable : Citable "c" e.scopetag e.vsntag := by
    rw [hscope, hversion]
    decide
  rw [formed] at hready he ⊢
  obtain ⟨ds, hds, -, -, hslug⟩ := form_resolves_as_identifier Glossary.bare.admin
    Glossary.bare.scopedir {} [.load twoForms] .plain rfl hready e he "c" hform hcitable "f" {}
  exact ⟨hready, e, he, hform, hcitable, ds, hds, hslug (by decide)⟩

/-- The first is not, and its reference is warned of. -/
theorem form_is_not_found : formed.ready = true ∧
    (∃ e ∈ formed.entries, "A B" ∈ e.phrases ∧ Citable "A B" e.scopetag e.vsntag ∧
      citing "A B" e.scopetag e.vsntag = "[A B](@s:v)") ∧
    (Resolver.plain.convertText formed "f" "[A B](@s:v)" {}).2.report.diagnostics.map
      Diagnostic.kind = [.unresolved] := by
  obtain ⟨e, he, hscope, hversion, hform, -⟩ := exists_formed_entry
  refine ⟨formed_entries.1, ⟨e, he, hform, ?_, ?_⟩, by decide +kernel⟩
  · rw [hscope, hversion]
    decide
  · rw [hscope, hversion]
    rfl

end Service

end TermRef
