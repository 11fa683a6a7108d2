/-
TermRef/Proofs/Glossary/Normal.lean

Terminologies and entries stay as they have been read.

What a terminology is, a terminology and an entry are read from what they are written as as
themselves (`TerminologyInfo.readsBack`, `Terminology.readsBack`, `Entry.readsBack`).  An entry is
written under the first names of its parts.  If a part has been read under its other name, then
there has been nothing under the first one, so that it is free.

With this all kinds of data that are checked as a whole have a normal form, the same for all
spellings of their tags (`Kind.normal`).
-/
import Mathlib.Logic.Relation
import TermRef.Proofs.Glossary.Origin
import TermRef.Proofs.Scope.Normal

namespace TermRef

open Value Checked Entries

/-! ### Terminologies -/

theorem TerminologyInfo.readsBack : ReadsBack (record? ofEntries) toValue := by
  refine readsBack_record fun es s hs => ?_
  -- the checks are taken apart from the last one on
  obtain ⟨_, extra, h₅, hextra, rfl⟩ := seq_eq_good hs
  obtain ⟨_, altvsntags, h₄, haltvsntags, rfl⟩ := seq_eq_good h₅
  obtain ⟨_, vsntag, h₃, hvsntag, rfl⟩ := seq_eq_good h₄
  obtain ⟨_, curatedir, h₂, hcuratedir, rfl⟩ := seq_eq_good h₃
  obtain ⟨_, scopedir, h₁, hscopedir, rfl⟩ := seq_eq_good h₂
  obtain ⟨f, scopetag, h₀, hscopetag, rfl⟩ := seq_eq_good h₁
  obtain rfl : TerminologyInfo.mk = f := by injection h₀
  rw [ofEntries,
    optional_again (readsBack_optional readsBack_tag) rfl hscopetag (by simp [field?_cons_text]),
    optionalText_again hscopedir (by simp [field?_cons_text]),
    optionalText_again hcuratedir (by simp [field?_cons_text]),
    optional_again (readsBack_optional readsBack_tag) rfl hvsntag (by simp [field?_cons_text]),
    optional_again readsBack_tags rfl haltvsntags (by simp [field?_cons_text]),
    others_again (others_eq_good hextra).1 (by simp)]
  rfl

/-- Where there are tags in what a terminology is. -/
def TerminologyInfo.tagPlaces : List (String × (Value → Value → Prop)) :=
  [("scopetag", TagRespelled), ("vsntag", TagRespelled), ("altvsntags", TagsRespelled)]

theorem TerminologyInfo.respects_spelling : Respects ofEntries (Respelled tagPlaces) := by
  intro es es' h
  rw [ofEntries, h.optional (by simpa [tagPlaces] using respects_optional_tag),
    h.optional (by simp [tagPlaces]), h.optional (by simp [tagPlaces]),
    h.optional (by simpa [tagPlaces] using respects_optional_tag),
    h.optional (by simpa [tagPlaces] using respects_tags), h.others (by simp [tagPlaces])]
  rfl

theorem Terminology.readsBack : ReadsBack (record? ofEntries) toValue := by
  refine readsBack_record fun es s hs => ?_
  obtain ⟨_, extra, h₃, hextra, rfl⟩ := seq_eq_good hs
  obtain ⟨_, entries, h₂, hentries, rfl⟩ := seq_eq_good h₃
  obtain ⟨_, scopes, h₁, hscopes, rfl⟩ := seq_eq_good h₂
  obtain ⟨f, info, h₀, hinfo, rfl⟩ := seq_eq_good h₁
  obtain rfl : Terminology.mk = f := by injection h₀
  have hread : ReadsBack (fun v => v.nullAsMapping.record? TerminologyInfo.ofEntries)
      TerminologyInfo.toValue := fun v => TerminologyInfo.readsBack v.nullAsMapping
  -- nothing is said about it in the empty mapping, and this is read back as well
  have hunknown := TerminologyInfo.readsBack (.mapping []) .unknown rfl
  have hlist : ReadsBack (fun v => v.nullAsList.list? .good) fun vs => .list (vs.map id) :=
    readsBack_nullAsList fun _ _ _ => rfl
  rw [ofEntries,
    optional_again hread hunknown hinfo (by simp [field?_cons_text]),
    optional_again (readsBack_nullAsList ScopeRef.readsBack) rfl hscopes
      (by simp [field?_cons_text]),
    optional_again hlist rfl hentries (by simp [field?_cons_text]),
    others_again (others_eq_good hextra).1 (by simp)]
  rfl

/-- Where a terminology has tags: in what it is, and in the scopes known. -/
def Terminology.tagPlaces : List (String × (Value → Value → Prop)) :=
  [("terminology", InMapping (Respelled TerminologyInfo.tagPlaces)),
    ("scopes", InMember (InMapping (Respelled ScopeRef.tagPlaces)))]

theorem Terminology.respects_spelling : Respects ofEntries (Respelled tagPlaces) := by
  intro es es' h
  have hinfo : Respects (fun v => v.nullAsMapping.record? TerminologyInfo.ofEntries)
      (InMapping (Respelled TerminologyInfo.tagPlaces)) := by
    rintro _ _ ⟨hes⟩
    exact TerminologyInfo.respects_spelling _ _ hes
  have hscopes := (respects_record ScopeRef.respects_spelling).nullAsList
  rw [ofEntries, h.optional (by simpa [tagPlaces] using hinfo),
    h.optional (by simpa [tagPlaces] using hscopes), h.optional (by simp [tagPlaces]),
    h.others (by simp [tagPlaces])]
  rfl

/-! ### Entries -/

namespace Entry

/-- The names under which an entry is written. -/
theorem names_fields (e : Entry) : textName e.fields = "glossaryText" ∧
    phrasesName e.fields = "formPhrases" := by
  simp [textName, phrasesName, nameOf, fields, field?_cons_text]

/-- The other entries of an entry have none of the names under which it is written. -/
theorem foreign_extra {es : Entries} {e : Entry} (h : ReadFrom es e) :
    Foreign (names e.fields) e.extra := by
  obtain ⟨hforeign, hsub⟩ := others_eq_good h.extra
  obtain ⟨htext, hphrases⟩ := names_fields e
  rintro ⟨k, v⟩ hv
  obtain ⟨s, rfl, hs⟩ := hforeign _ hv
  -- a first name for which there is an entry has been read from
  have hread : ∀ other, es.nameOf s other = s := nameOf_of_mem (hsub hv)
  have htext' : s ≠ "glossaryText" := by
    rintro rfl
    exact hs (by simp [names, textName, hread])
  have hphrases' : s ≠ "formPhrases" := by
    rintro rfl
    exact hs (by simp [names, phrasesName, hread])
  refine ⟨s, rfl, ?_⟩
  simp only [names, List.mem_cons, not_or] at hs ⊢
  rw [htext, hphrases]
  simp only [hs, htext', hphrases', not_false_eq_true, and_self]

theorem readsBack : ReadsBack (record? ofEntries) toValue := by
  refine readsBack_record fun es e he => ?_
  have h := ofEntries_eq_good.mp he
  obtain ⟨htext, hphrases⟩ := names_fields e
  refine ofEntries_eq_good.mpr ⟨?_, ?_, ?_, ?_, ?_, ?_, ?_, ?_, ?_, ?_⟩
  · exact required_again readsBack_tag h.term (by simp [fields, field?_cons_text])
  · exact required_again readsBack_tag h.vsntag (by simp [fields, field?_cons_text])
  · exact required_again readsBack_tag h.scopetag (by simp [fields, field?_cons_text])
  · exact required_again readsBack_tag h.locator (by simp [fields, field?_cons_text])
  · rw [htext]
    exact required_again readsBack_text h.glossaryText (by simp [fields, field?_cons_text])
  · rw [hphrases]
    exact optionalText_again h.formPhrases (by simp [fields, field?_cons_text])
  · exact optionalText_again h.navurl (by simp [fields, field?_cons_text])
  · exact optional_again readsBack_tags rfl h.headingids (by simp [fields, field?_cons_text])
  · exact optional_again readsBack_tags rfl h.altvsntags (by simp [fields, field?_cons_text])
  · exact others_again (foreign_extra h) (by simp [names, htext, hphrases])

/-- Where an entry has tags. -/
def tagPlaces : List (String × (Value → Value → Prop)) :=
  [("term", TagRespelled), ("vsntag", TagRespelled), ("scopetag", TagRespelled),
    ("locator", TagRespelled), ("headingids", TagsRespelled), ("altvsntags", TagsRespelled)]

theorem respects_spelling : Respects ofEntries (Respelled tagPlaces) := by
  intro es es' h
  have hsame : ∀ name, (∀ R, (name, R) ∉ tagPlaces) → es'.field? name = es.field? name :=
    fun name => h.field?_of_notMem
  have htext : textName es' = textName es :=
    nameOf_congr (hsame _ (by simp [tagPlaces])) (hsame _ (by simp [tagPlaces]))
  have hphrases : phrasesName es' = phrasesName es :=
    nameOf_congr (hsame _ (by simp [tagPlaces])) (hsame _ (by simp [tagPlaces]))
  -- none of the names of these two parts is a place for tags
  have htextName : ∀ R, (textName es, R) ∉ tagPlaces := by
    rw [textName]
    rcases nameOf_or es "glossaryText" "glossary_text" with hname | hname <;>
      simp [hname, tagPlaces]
  have hphrasesName : ∀ R, (phrasesName es, R) ∉ tagPlaces := by
    rw [phrasesName]
    rcases nameOf_or es "formPhrases" "form_phrases" with hname | hname <;>
      simp [hname, tagPlaces]
  have hnames : names es' = names es := by rw [names, names, htext, hphrases]
  rw [ofEntries, hnames, htext, hphrases, h.required (by simpa [tagPlaces] using respects_tag),
    h.required (by simpa [tagPlaces] using respects_tag),
    h.required (by simpa [tagPlaces] using respects_tag),
    h.required (by simpa [tagPlaces] using respects_tag),
    required_congr (hsame _ htextName), optional_congr (hsame _ hphrasesName),
    h.optional (by simp [tagPlaces]), h.optional (by simpa [tagPlaces] using respects_tags),
    h.optional (by simpa [tagPlaces] using respects_tags),
    h.others (by simp [tagPlaces, names])]
  rfl

end Entry

/-! ### All kinds -/

/-- The kinds of data that are checked as a whole. -/
inductive Kind where
  | scope
  | scopeRef
  | version
  | administration
  | terminologyInfo
  | terminology
  | entry

namespace Kind

/-- What data of the kind is read as. -/
def Record : Kind → Type
  | scope => ScopeInfo
  | scopeRef => ScopeRef
  | version => VersionInfo
  | administration => ScopeAdmin
  | terminologyInfo => TerminologyInfo
  | terminology => Terminology
  | entry => Entry

/-- The check of a mapping as data of the kind. -/
def ofEntries : (k : Kind) → Entries → Checked k.Record
  | scope => ScopeInfo.ofEntries
  | scopeRef => ScopeRef.ofEntries
  | version => VersionInfo.ofEntries
  | administration => ScopeAdmin.ofEntries
  | terminologyInfo => TerminologyInfo.ofEntries
  | terminology => Terminology.ofEntries
  | entry => Entry.ofEntries

/-- The check of a value as data of the kind. -/
def read (k : Kind) : Value → Checked k.Record := record? k.ofEntries

/-- Data of the kind as a value. -/
def toValue : (k : Kind) → k.Record → Value
  | scope => ScopeInfo.toValue
  | scopeRef => ScopeRef.toValue
  | version => VersionInfo.toValue
  | administration => ScopeAdmin.toValue
  | terminologyInfo => TerminologyInfo.toValue
  | terminology => Terminology.toValue
  | entry => Entry.toValue

/-- Where data of the kind has tags. -/
def tagPlaces : Kind → List (String × (Value → Value → Prop))
  | scope => ScopeInfo.tagPlaces
  | scopeRef => ScopeRef.tagPlaces
  | version => VersionInfo.tagPlaces
  | administration => ScopeAdmin.tagPlaces
  | terminologyInfo => TerminologyInfo.tagPlaces
  | terminology => Terminology.tagPlaces
  | entry => Entry.tagPlaces

theorem readsBack (k : Kind) : ReadsBack k.read k.toValue :=
  match k with
  | scope => ScopeInfo.readsBack
  | scopeRef => ScopeRef.readsBack
  | version => VersionInfo.readsBack
  | administration => ScopeAdmin.readsBack
  | terminologyInfo => TerminologyInfo.readsBack
  | terminology => Terminology.readsBack
  | entry => Entry.readsBack

theorem respects_spelling (k : Kind) : Respects k.ofEntries (Respelled k.tagPlaces) :=
  match k with
  | scope => ScopeInfo.respects_spelling
  | scopeRef => ScopeRef.respects_spelling
  | version => VersionInfo.respects_spelling
  | administration => ScopeAdmin.respects_spelling
  | terminologyInfo => TerminologyInfo.respects_spelling
  | terminology => Terminology.respects_spelling
  | entry => Entry.respects_spelling

/-- **What has been read is a normal form.**  Whatever the kind and the value, what the value is
read as is written as a value that is read as the same again, and so is written in the same way
again.  A value in which tags are spelled in another way, at any number of places, is read as the
same or is refused for the same problems. -/
theorem normal (k : Kind) (v : Value) :
    (∀ r, k.read v = .good r → k.read (k.toValue r) = .good r) ∧
    ∀ w, Relation.ReflTransGen (InMapping (Respelled k.tagPlaces)) v w → k.read w = k.read v := by
  refine ⟨fun r hr => k.readsBack v r hr, fun w hw => ?_⟩
  induction hw with
  | refl => rfl
  | tail _ hstep ih => rw [← ih, read, respects_record k.respects_spelling _ _ hstep]

/-- A version of which only the tag is given. -/
def tagged (v : Value) : Value := .mapping [(.text "vsntag", v)]

theorem read_tagged (v : Value) : version.read (tagged v) =
    (fun s => VersionInfo.mk s none [] []) <$> (tag? v).under (.name "vsntag") := by
  have hfields : required [(.text "vsntag", v)] "vsntag" tag? = (tag? v).under (.name "vsntag") ∧
      optional [(.text "vsntag", v)] "mrgfile" none (optional? text?) = .good none ∧
      optional [(.text "vsntag", v)] "altvsntags" [] tags? = .good [] ∧
      others ["vsntag", "mrgfile", "altvsntags"] [(.text "vsntag", v)] = .good [] := by
    have hnone : ∀ name, field? [] name = none := fun _ => rfl
    simp [Entries.required, Entries.optional, field?_cons_text, hnone, others]
  obtain ⟨htag, hfile, hother, hextra⟩ := hfields
  show VersionInfo.ofEntries _ = _
  rw [VersionInfo.ofEntries, htag, hfile, hother, hextra]
  cases (tag? v).under (.name "vsntag") <;> rfl

/-- A number that is too long to be written is refused as a tag, and its text is not. -/
theorem long_number_is_refused :
    version.read (tagged (.int (.ofNat (Nat.pow 10 4300)))) = .bad [⟨[.name "vsntag"], .tooLong⟩] ∧
      ∃ r, version.read (tagged (.text (Value.int (.ofNat (Nat.pow 10 4300))).shown)) =
        .good r := by
  have hlong : isShort (Int.ofNat (Nat.pow 10 4300)) = false := by decide +kernel
  constructor
  · rw [read_tagged, tag?, asTag, hlong]
    rfl
  · rw [read_tagged]
    exact ⟨_, rfl⟩

end Kind

end TermRef
