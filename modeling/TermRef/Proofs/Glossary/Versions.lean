/-
TermRef/Proofs/Glossary/Versions.lean

Versions without quotes in the files of a scope.

With quotes about its version, an entry of a terminology has the text between them.  The document
has the same tree without quotes, so there, too, the last version that the entry is written with
is the text (`Glossary.WritesBare.withForms_subset`).  Whether an entry is admitted does not hang
on which text its version is, as long as it is not blank, and nothing else of the entry does
either (`Admission.ofEntries_of_version`).

So the entry and its further forms are in the glossary with the version as it is written, and a
lookup with this version does not come back to another one (`Service.bare_versions_survive`).
-/
import TermRef.Proofs.Glossary.Origin
import TermRef.Proofs.Value.Again
import TermRef.Proofs.Yaml.Fields
import TermRef.Proofs.Yaml.Line
import TermRef.Proofs.Yaml.Quotes

namespace TermRef

open Entries

/-! ### Admission -/

section Admission

variable {es es' : Entries} {e : Entry} {t : String}

/-- Mappings with the same entries but for the version are read as entries that differ in it. -/
theorem Entry.ofEntries_of_version
    (hfield : ∀ name, name ≠ "vsntag" → es'.field? name = es.field? name)
    (hothers : others (names es) es' = others (names es) es)
    (ht : es'.field? "vsntag" = some (.text t)) (h : Entry.ofEntries es = .good e) :
    Entry.ofEntries es' = .good { e with vsntag := t } := by
  have hkeys : textName es ≠ "vsntag" ∧ phrasesName es ≠ "vsntag" := by
    constructor
    · rcases nameOf_or es "glossaryText" "glossary_text" with hn | hn <;> simp [textName, hn]
    · rcases nameOf_or es "formPhrases" "form_phrases" with hn | hn <;> simp [phrasesName, hn]
  have htextName : textName es' = textName es :=
    nameOf_congr (hfield _ (by decide)) (hfield _ (by decide))
  have hphrasesName : phrasesName es' = phrasesName es :=
    nameOf_congr (hfield _ (by decide)) (hfield _ (by decide))
  have hnames : names es' = names es := by rw [names, names, htextName, hphrasesName]
  have hread := ofEntries_eq_good.mp h
  exact ofEntries_eq_good.mpr
    { term := (required_congr (hfield _ (by decide)) _).trans hread.term
      vsntag := by
        rw [required, ht]
        rfl
      scopetag := (required_congr (hfield _ (by decide)) _).trans hread.scopetag
      locator := (required_congr (hfield _ (by decide)) _).trans hread.locator
      glossaryText := by
        rw [htextName]
        exact (required_congr (hfield _ hkeys.1) _).trans hread.glossaryText
      formPhrases := by
        rw [hphrasesName]
        exact (optional_congr (hfield _ hkeys.2) _ _).trans hread.formPhrases
      navurl := (optional_congr (hfield _ (by decide)) _ _).trans hread.navurl
      headingids := (optional_congr (hfield _ (by decide)) _ _).trans hread.headingids
      altvsntags := (optional_congr (hfield _ (by decide)) _ _).trans hread.altvsntags
      extra := by
        rw [hnames]
        exact hothers.trans hread.extra }

/-- **An entry is admitted with any version that is a text and not blank**, if it is admitted with
some text for its version. -/
theorem Admission.ofEntries_of_version {website s : String} {altvsntags : List String} {n : Nat}
    (ht : es.field? "vsntag" = some (.text t)) (hblank : Unicode.isBlankText t.toList = false)
    (h : Admission.ofEntries website altvsntags n (es.put (.text "vsntag") (.text s)) =
      .admitted e) (m : Nat) :
    Admission.ofEntries website altvsntags m es = .admitted { e with vsntag := t } := by
  obtain ⟨hmissing, url, hurl, hgood⟩ := Admission.ofEntries_eq_admitted.mp h
  have hfield : ∀ name, name ≠ "vsntag" →
      es.field? name = (es.put (.text "vsntag") (.text s)).field? name := fun name hn =>
    (field?_put _ hn).symm
  refine Admission.ofEntries_eq_admitted.mpr ⟨?_, url, ?_, ?_⟩
  · rw [Entry.missing, List.filter_eq_nil_iff] at hmissing ⊢
    intro name hname
    by_cases hn : name = "vsntag"
    · rw [hn, ht]
      simpa [Entry.isVoid] using hblank
    · rw [hfield name hn]
      exact hmissing name hname
  · rw [resolvedAddress, addressOf, hfield "navurl" (by decide)]
    exact hurl
  · -- what is set besides is set in both
    refine Entry.ofEntries_of_version (fun name hn => ?_) ?_ ?_ hgood
    · exact field?_put_congr (field?_put_congr (hfield name hn) _ _) _ _
    · have hknown : ∀ name ∈ ["vsntag", "altvsntags", "navurl"], ∀ es,
          (Entry.names es).contains name = true := by simp [Entry.names]
      simp only [List.forall_mem_cons] at hknown
      obtain ⟨hvsntag, haltvsntags, hnavurl, -⟩ := hknown
      rw [completed, completed, others_put (hnavurl _), others_put (haltvsntags _),
        others_put (hnavurl _), others_put (haltvsntags _), others_put (hvsntag _)]
    · rw [completed, field?_put _ (by decide), field?_put _ (by decide), ht]

end Admission

/-! ### Files -/

section Files

variable {files : FileTree} {path : String}

/-- The text in a file has tokens. -/
def FileTree.HasTokens (files : FileTree) (path : String) (ts : List Yaml.Token) : Prop :=
  ∃ b text, files.read path = .ok b ∧ Utf8.decodeChunked FileTree.chunkSize b = .ok text ∧
    Yaml.Token.ofText (Lines.unifyEnds text) = .ok ts

/-- The value of the document in a file is that of the tree that its tokens have. -/
theorem FileTree.HasTokens.value {ts : List Yaml.Token} {d : Yaml.Tree} {v : Value}
    (h : files.HasTokens path ts) (hd : Yaml.Tree.ofTokens ts = .ok (some d))
    (hv : files.document path = .ok v) : d.value = .ok v := by
  obtain ⟨b, text, hb, htext, hts⟩ := h
  rw [document_eq, hb] at hv
  dsimp only at hv
  rw [htext] at hv
  dsimp only at hv
  split at hv
  · cases hv
  · rename_i v' hread
    obtain rfl := Except.ok.inj hv
    exact (Yaml.read_eq_ok hts hd).mp hread

/-- What is made of the mapping in a file is made of its document. -/
theorem document_of_mapping {α : Type} {check : Entries → Checked α} {a : α}
    (h : files.mapping path check = .ok a) :
    ∃ es, files.document path = .ok (.mapping es) ∧ check es = .good a := by
  rw [FileTree.mapping, mapError_bind] at h
  split at h
  · cases h
  · rename_i v hv
    split at h
    · rename_i es
      split at h
      · rename_i a' ha'
        obtain rfl := Except.ok.inj h
        exact ⟨es, hv, ha'⟩
      · cases h
    · cases h

/-- A terminology has the entries that it is written with. -/
theorem Terminology.entries_of_ofEntries {es : Entries} {y : Terminology} {vs : List Value}
    (h : Terminology.ofEntries es = .good y) (hvs : es.field? "entries" = some (.list vs)) :
    y.entries = vs := by
  have hentries : es.optional "entries" [] (fun v => v.nullAsList.list? .good) = .good vs := by
    rw [Entries.optional, hvs]
    show (Value.membersFrom .good 0 vs).under (.name "entries") = .good vs
    rw [Value.membersFrom_good]
    rfl
  rw [Terminology.ofEntries, hentries] at h
  obtain ⟨f₃, others, h₃, -, rfl⟩ := Checked.seq_eq_good h
  obtain ⟨f₂, vs', h₂, hvs', rfl⟩ := Checked.seq_eq_good h₃
  obtain ⟨f₁, scopes, h₁, -, rfl⟩ := Checked.seq_eq_good h₂
  obtain rfl : vs = vs' := by injection hvs'
  generalize es.optional "terminology" _ _ = info at h₁
  cases info with
  | good =>
    obtain rfl : _ = f₁ := by injection h₁
    rfl
  | bad => cases h₁

end Files

/-! ### Versions without quotes -/

theorem Yaml.IsBare.not_blank {t : String} (h : Yaml.IsBare t) :
    Unicode.isBlankText t.toList = false := by
  obtain ⟨c, hc⟩ := List.exists_mem_of_ne_nil _ h.toList_ne_nil
  obtain ⟨hlow, hhigh⟩ := Yaml.toNat_of_isVersion (h.chars c hc)
  exact Unicode.isBlankText_eq_false.mpr
    ⟨c, hc, Unicode.isBlank_of_toNat (by omega) (by omega)⟩

/-- A terminology of a scope has the version `t` of an entry without quotes.  With quotes the
document would be in order: the entry would have the text `t` for its version, and with some text
there it would be admitted as `e`. -/
inductive Glossary.WritesBare (g : Glossary) (files : FileTree) (t : String) (e : Entry) : Prop
  | intro {name : String} {pre post : List Yaml.Token} {document u : Yaml.Tree}
      {items : List Yaml.Tree} {y : Terminology} {es : Entries} {s : String} {n : Nat}
      (file : g.HasTerminology files name)
      (read : files.mapping (g.pathOf name) Terminology.ofEntries = .ok y)
      (plain : files.HasTokens (g.pathOf name) (pre ++ .scalar t true :: post))
      (quoted : Yaml.Tree.ofTokens (pre ++ .scalar t false :: post) = .ok (some document))
      (entries : document.Assigns "entries" (.sequence (Yaml.standardTag "seq") items))
      (item : u ∈ items)
      (version : u.Assigns "vsntag" (.scalar (Yaml.standardTag "str") t))
      (value : u.value = .ok (.mapping es))
      (otherwise : Admission.ofEntries g.website y.info.altvsntags n
        (es.put (.text "vsntag") (.text s)) = .admitted e)

/-- **The entry is in the glossary with the version as it is written.** -/
theorem Glossary.WritesBare.withForms_subset {g : Glossary} {files : FileTree} {t : String}
    {e : Entry} {es : List Entry} (ht : Yaml.IsBare t) (h : g.WritesBare files t e)
    (hbuilt : g.Built files es) : Entry.withForms { e with vsntag := t } ⊆ es := by
  obtain ⟨file, read, plain, quoted, entries, hitem, version, value, otherwise⟩ := h
  rename_i name pre post document u items y fields s n
  obtain ⟨y', hread, hentries⟩ := hbuilt.exists_of_hasTerminology file
  obtain rfl := Except.ok.inj (read.symm.trans hread)
  -- the value of the item is among the entries of the terminology
  obtain ⟨top, htop, hgood⟩ := document_of_mapping read
  rw [← Yaml.ofTokens_scalar ht] at quoted
  obtain ⟨top', list, hmapping, hlist, hitems⟩ := entries.field? (plain.value quoted htop)
  obtain rfl : top = top' := by injection hmapping
  obtain ⟨vs, rfl, hvs⟩ := Yaml.mem_of_sequence hitems
  obtain ⟨v, hv, hvalue⟩ := hvs u hitem
  obtain rfl := Except.ok.inj (value.symm.trans hvalue)
  rw [← Terminology.entries_of_ofEntries hgood hlist] at hv
  obtain ⟨m, hm⟩ : ∃ m, (Value.mapping fields, m) ∈ y.entries.zipIdx 1 := by
    rw [← List.zipIdx_map_fst 1 y.entries] at hv
    obtain ⟨⟨-, m⟩, hm, rfl⟩ := List.mem_map.mp hv
    exact ⟨m, hm⟩
  -- its version is the text as it is written
  obtain ⟨fields', b, hfields, hversion, hb⟩ := version.field? value
  obtain rfl : fields = fields' := by injection hfields
  obtain rfl := Except.ok.inj ((Yaml.value_text t).symm.trans hb)
  have hadmitted := Admission.ofEntries_of_version hversion ht.not_blank otherwise m
  intro form hform
  refine hentries (mem_runtimeEntries.mpr ⟨_, _, ⟨m, hm, hadmitted⟩, ?_⟩)
  exact mem_withForms.mp hform

namespace Service

/-- **Versions survive as they are written**, whatever number or date they look like.  In a line
behind a key, a version without quotes is a text.  And if the last load that has gone through has
met it as the version of an entry, that entry and its further forms are in the glossary with this
version, and a lookup with it finds an entry whose own version it is. -/
theorem bare_versions_survive {t : String} (ht : Yaml.IsBare t) :
    (∀ key ending : String, Yaml.IsBare key → key.length ≤ 1024 → ending ∈ ["", "\n"] →
      Yaml.read (key ++ ": " ++ t ++ ending).toList = .ok (.mapping [(.text key, .text t)])) ∧
    ∀ (admin : ScopeAdmin) (scopedir : Path) (j : Journal) (calls before later : List Call)
      (files : FileTree) (e : Entry),
      let g := (Service.after ⟨{ admin, scopedir }, j⟩ calls).glossary
      LastLoad ⟨{ admin, scopedir }, j⟩ calls before files later → g.ready = true →
      Glossary.WritesBare { admin, scopedir } files t e →
      ∀ form ∈ Entry.withForms { e with vsntag := t }, form.vsntag = t ∧ form ∈ g.entries ∧
        ∃ found, g.lookup form.term form.scopetag t = .ok (some found) ∧ found.vsntag = t := by
  refine ⟨fun key ending hkey hlength hending => Yaml.read_line hkey hlength ht hending, ?_⟩
  intro admin scopedir j calls before later files e g hlast hready hwrites form hform
  obtain ⟨es, hbuilt, -, hentries⟩ := hlast.answers hready
  have hversion : form.vsntag = t := by
    rcases mem_withForms.mp hform with rfl | ⟨p, -, rfl⟩ <;> rfl
  have hmem : form ∈ g.entries := by
    rw [hentries]
    exact List.mem_append_left _ (hwrites.withForms_subset ht hbuilt hform)
  refine ⟨hversion, hmem, ?_⟩
  have hlookup := (indexed_of_fresh admin scopedir j calls).lookup form.term form.scopetag t
  obtain ⟨found, -, hfound, -, -, hown⟩ := exists_firstFor?_own hmem
  rw [hversion] at hfound hown
  rw [if_pos hready, hfound] at hlookup
  exact ⟨found, hlookup, hown⟩

/-- A scope with one terminology, whose version looks like a number. -/
def dotted : FileTree where
  here := []
  items := [(["mrg.s.1.10.yaml"], .file (Utf8.encode
    ("entries:\n- term: a\n  vsntag: 1.10\n  scopetag: s\n  locator: l\n" ++
      "  glossaryText: w\n").toList))]

/-- The entry as it is written. -/
def dottedFields : List (String × String) :=
  [("term", "a"), ("vsntag", "1.10"), ("scopetag", "s"), ("locator", "l"), ("glossaryText", "w")]

/-- With another version it would be admitted. -/
theorem dotted_admitted : ∃ e, Admission.ofEntries Glossary.bare.website [] 1 (Entries.put
    (dottedFields.map fun f => (.text f.1, .text f.2)) (.text "vsntag") (.text "v")) =
      .admitted e :=
  Admission.exists_of_entries_ne_nil (by decide +kernel)

/-- The terminology has no other names of its version. -/
theorem dotted_read : ∃ y, dotted.mapping (Glossary.bare.pathOf "mrg.s.1.10.yaml")
    Terminology.ofEntries = .ok y ∧ y.info.altvsntags = [] := by
  have hread : (dotted.mapping (Glossary.bare.pathOf "mrg.s.1.10.yaml")
      Terminology.ofEntries).map (fun y => y.info.altvsntags) = .ok [] := by decide +kernel
  rcases hy : dotted.mapping (Glossary.bare.pathOf "mrg.s.1.10.yaml") Terminology.ofEntries with
    f | y
  · rw [hy] at hread
    cases hread
  · rw [hy] at hread
    exact ⟨y, rfl, Except.ok.inj hread⟩

theorem exists_writesBare_dotted : ∃ e, Glossary.bare.WritesBare dotted "1.10" e := by
  let before : List Yaml.Token :=
    [.blockMappingStart, .key, .scalar "entries" true, .value, .blockEntry, .blockMappingStart,
      .key, .scalar "term" true, .value, .scalar "a" true, .key, .scalar "vsntag" true, .value]
  let behind : List Yaml.Token :=
    [.key, .scalar "scopetag" true, .value, .scalar "s" true, .key, .scalar "locator" true, .value,
      .scalar "l" true, .key, .scalar "glossaryText" true, .value, .scalar "w" true,
      .blockEnd, .blockEnd, .streamEnd]
  have htokens : dotted.HasTokens (Glossary.bare.pathOf "mrg.s.1.10.yaml")
      (before ++ .scalar "1.10" true :: behind) := ⟨_, _, rfl, rfl, by decide +kernel⟩
  have htree : Yaml.Tree.ofTokens (before ++ .scalar "1.10" false :: behind) =
      .ok (some (.mapping (Yaml.standardTag "map") [(.scalar (Yaml.standardTag "str") "entries",
        .sequence (Yaml.standardTag "seq") [.ofTexts dottedFields])])) := rfl
  have hversion : (Yaml.Tree.ofTexts dottedFields).Assigns "vsntag"
      (.scalar (Yaml.standardTag "str") "1.10") := by
    refine ⟨[(.scalar (Yaml.standardTag "str") "term", .scalar (Yaml.standardTag "str") "a")], _,
      rfl, ?_⟩
    simp [Yaml.keyTree_text, Yaml.value_text]
  have hvalue : (Yaml.Tree.ofTexts dottedFields).value =
      .ok (.mapping (dottedFields.map fun f => (.text f.1, .text f.2))) := by
    rw [Yaml.Tree.value_ofTexts]
    simp [dottedFields, Yaml.collect, Entries.put, Value.same]
  obtain ⟨e, he⟩ := dotted_admitted
  obtain ⟨y, hy, hnames⟩ := dotted_read
  exact ⟨e, .intro ⟨_, _, rfl, rfl, by decide⟩ hy htokens htree ⟨[], [], rfl, by simp⟩
    List.mem_cons_self hversion hvalue (hnames ▸ he)⟩

/-- The version is the text as it is written, although it looks like a number. -/
theorem bare_versions_survive_dotted : Yaml.IsBare "1.10" ∧
    Yaml.read "key: 1.10".toList = .ok (.mapping [(.text "key", .text "1.10")]) ∧
    ∃ e, Glossary.bare.WritesBare dotted "1.10" e ∧
      ∀ form ∈ Entry.withForms { e with vsntag := "1.10" },
        ∃ found, (Service.after ⟨.bare, {}⟩ [.load dotted]).glossary.lookup form.term
          form.scopetag "1.10" = .ok (some found) ∧ found.vsntag = "1.10" := by
  have ht : Yaml.IsBare "1.10" := by decide
  obtain ⟨hline, hload⟩ := bare_versions_survive ht
  obtain ⟨e, he⟩ := exists_writesBare_dotted
  have hlast : LastLoad ⟨.bare, {}⟩ [.load dotted] [] dotted [] :=
    ⟨rfl, by decide +kernel, trivial⟩
  have hready : (Service.after ⟨.bare, {}⟩ [.load dotted]).glossary.ready = true := by
    decide +kernel
  refine ⟨ht, hline "key" "" (by decide) (by decide) (by decide), e, he, fun form hform => ?_⟩
  exact (hload Glossary.bare.admin Glossary.bare.scopedir {} [.load dotted] [] [] dotted e hlast
    hready he form hform).2.2

end Service

end TermRef
