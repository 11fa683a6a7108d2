/-
TermRef/Proofs/Glossary/Intake.lean

What taking a terminology over does to a glossary and to the report.

Every entry of a terminology has an admission of its own, which hangs on no other entry: it
is admitted, or dropped, or refused because its address is malformed or because a number in
it is too long to be written where it has to be (`ofValue_eq_refused`).  An intake settles the
entries that are not refused, one after the other (`takeFrom_past`), and ends at the first
that is.  So each settled entry brings its runtime entries into the glossary or one warning
into the report, never both and never neither (`take_settles_entries`).

Runtime entries come in at the end, both of the glossary and of what its index has for their
key (`foldl_add`, `get_foldl_add`).
-/
import TermRef.Glossary.Intake
import TermRef.Proofs.Value.Entries
import TermRef.Proofs.Value.Text

namespace TermRef

/-! ### Runtime entries -/

/-- Entries come in at the end, and only the index changes besides. -/
theorem foldl_add (es : List Entry) (g : Glossary) :
    es.foldl Glossary.add g = { g with
      entries := g.entries ++ es
      index := es.foldl (fun i e => i.add e) g.index } := by
  induction es generalizing g with
  | nil => simp
  | cons e es ih => simp [ih, Glossary.add]

/-- The index has an entry for its key, after those that it had. -/
theorem get_add (i : EntryIndex) (e : Entry) (k : EntryKey) :
    (i.add e).get k = i.get k ++ [e].filter fun e => e.key = k := by
  induction i with
  | nil =>
    by_cases hk : e.key = k <;> simp [EntryIndex.add, EntryIndex.get, hk]
  | cons p i ih =>
    obtain ⟨l, es⟩ := p
    rw [EntryIndex.add]
    by_cases hl : l = e.key
    · rw [if_pos hl, hl]
      by_cases hk : e.key = k <;> simp [EntryIndex.get, hk]
    · rw [if_neg hl]
      by_cases hk : l = k
      · have hne : e.key ≠ k := fun h => hl (hk.trans h.symm)
        simp [EntryIndex.get, hk, hne]
      · simpa [EntryIndex.get, hk] using ih

theorem get_foldl_add (es : List Entry) (i : EntryIndex) (k : EntryKey) :
    (es.foldl (fun i e => i.add e) i).get k = i.get k ++ es.filter fun e => e.key = k := by
  induction es generalizing i with
  | nil => simp
  | cons e es ih =>
    rw [List.foldl_cons, ih, get_add, List.append_assoc, ← List.filter_append]
    rfl

/-- Warnings enter the report at the end. -/
theorem foldl_warn_report (ds : List Diagnostic) (j : Journal) :
    (ds.foldl Journal.warn j).report =
      { j.report with diagnostics := j.report.diagnostics ++ ds } := by
  induction ds generalizing j with
  | nil => simp
  | cons d ds ih => simp [ih, Journal.warn, Report.addDiagnostic]

/-! ### Reading an entry -/

/-- Every part of an entry is what the check of that part makes of a mapping. -/
structure Entry.ReadFrom (es : Entries) (e : Entry) : Prop where
  term : es.required "term" Value.tag? = .good e.term
  vsntag : es.required "vsntag" Value.tag? = .good e.vsntag
  scopetag : es.required "scopetag" Value.tag? = .good e.scopetag
  locator : es.required "locator" Value.tag? = .good e.locator
  glossaryText : es.required (textName es) Value.text? = .good e.glossaryText
  formPhrases :
    es.optional (phrasesName es) none (Value.optional? Value.text?) = .good e.formPhrases
  navurl : es.optional "navurl" none (Value.optional? Value.text?) = .good e.navurl
  headingids : es.optional "headingids" [] Value.tags? = .good e.headingids
  altvsntags : es.optional "altvsntags" [] Value.tags? = .good e.altvsntags
  extra : Entries.others (names es) es = .good e.extra

/-- **A mapping is read as an entry part by part.** -/
theorem Entry.ofEntries_eq_good {es : Entries} {e : Entry} :
    Entry.ofEntries es = .good e ↔ ReadFrom es e := by
  constructor
  · intro h
    -- the checks are taken apart from the last one on
    obtain ⟨f₉, extra, h₉, hextra, rfl⟩ := Checked.seq_eq_good h
    obtain ⟨f₈, altvsntags, h₈, haltvsntags, rfl⟩ := Checked.seq_eq_good h₉
    obtain ⟨f₇, headingids, h₇, hheadingids, rfl⟩ := Checked.seq_eq_good h₈
    obtain ⟨f₆, navurl, h₆, hnavurl, rfl⟩ := Checked.seq_eq_good h₇
    obtain ⟨f₅, phrases, h₅, hphrases, rfl⟩ := Checked.seq_eq_good h₆
    obtain ⟨f₄, text, h₄, htext, rfl⟩ := Checked.seq_eq_good h₅
    obtain ⟨f₃, locator, h₃, hlocator, rfl⟩ := Checked.seq_eq_good h₄
    obtain ⟨f₂, scopetag, h₂, hscopetag, rfl⟩ := Checked.seq_eq_good h₃
    obtain ⟨f₁, vsntag, h₁, hvsntag, rfl⟩ := Checked.seq_eq_good h₂
    obtain ⟨f₀, term, h₀, hterm, rfl⟩ := Checked.seq_eq_good h₁
    obtain rfl : Entry.mk = f₀ := by injection h₀
    exact ⟨hterm, hvsntag, hscopetag, hlocator, htext, hphrases, hnavurl, hheadingids,
      haltvsntags, hextra⟩
  · intro h
    rw [ofEntries, h.term, h.vsntag, h.scopetag, h.locator, h.glossaryText, h.formPhrases,
      h.navurl, h.headingids, h.altvsntags, h.extra]
    rfl

/-! ### Refusals -/

/-- The term of an entry is a number too long to be written, or holds one. -/
def Entries.LongTerm (es : Entries) : Prop :=
  ∃ v, es.field? "term" = some v ∧ v.hasText = false

namespace Admission

/-- An entry has a name in warnings, but for a term that has no text. -/
theorem label?_eq_none {n : Nat} {es : Entries} : label? n es = none ↔ es.LongTerm := by
  rw [label?, Entries.LongTerm]
  rcases es.field? "term" with - | v
  · simp
  · rcases hv : v.hasText with - | -
    · simp [hv, Value.isTrue_of_not_hasText hv, Value.shown?]
    · by_cases htrue : v.isTrue = true <;> simp [hv, htrue, Value.shown?]

theorem dropping_eq_refused {n : Nat} {es : Entries} {why : String} {m : Mishap} :
    dropping n es why = .refused m ↔ es.LongTerm ∧ m = .tooLong := by
  rw [← label?_eq_none (n := n), dropping]
  rcases label? n es with - | l
  · simp [eq_comm]
  · simp

theorem dropping_ne_admitted {n : Nat} {es : Entries} {why : String} {e : Entry} :
    dropping n es why ≠ .admitted e := by
  rw [dropping]
  split <;> simp

/-- Such a term is never that of an entry. -/
theorem not_longTerm_of_good {url : String} {altvsntags : List String} {es : Entries} {e : Entry}
    (h : Entry.ofEntries (completed url altvsntags es) = .good e) : ¬ es.LongTerm := by
  rintro ⟨v, hv, hlong⟩
  obtain ⟨w, hw, htag⟩ := Entries.required_eq_good.mp (Entry.ofEntries_eq_good.mp h).term
  -- the two entries that are set have other names
  rw [completed, Entries.field?_put _ (by decide), Entries.field?_put _ (by decide), hv] at hw
  obtain rfl : v = w := Option.some.inj hw
  rw [Value.hasText_of_tag? htag] at hlong
  cases hlong

end Admission

/-- An entry of a terminology is refused, for a scope with a website. -/
inductive Value.Refused (website : String) : Value → Mishap → Prop
  /-- Its address is malformed. -/
  | address {es s e} : Entry.missing es = [] → Admission.addressOf es = .ok s →
      Url.join website s = .error e → Refused website (.mapping es) (.address e)
  /-- Its address is a number too long to be written. -/
  | longAddress {es m} : Entry.missing es = [] → Admission.addressOf es = .error m →
      Refused website (.mapping es) m
  /-- Its term is such a number, and a warning has to name it. -/
  | longTerm {es} : es.LongTerm →
      (Entry.missing es = [] → ∃ url, Admission.resolvedAddress website es = .ok url) →
      Refused website (.mapping es) .tooLong

/-- An entry is not refused. -/
def Value.Settles (website : String) (v : Value) : Prop := ∀ m, ¬ v.Refused website m

theorem Admission.resolvedAddress_eq_error {website : String} {es : Entries} {m : Mishap} :
    resolvedAddress website es = .error m ↔ addressOf es = .error m ∨
      ∃ s e, addressOf es = .ok s ∧ Url.join website s = .error e ∧ m = .address e := by
  rw [resolvedAddress]
  rcases addressOf es with m' | s
  · simp
  · show (Url.join website s).mapError Mishap.address = .error m ↔ _
    rcases hjoin : Url.join website s with e | url
    · show Except.error (Mishap.address e) = .error m ↔ _
      simp [hjoin, eq_comm]
    · show Except.ok url = .error m ↔ _
      simp [hjoin]

/-- **An entry is refused for its address or for its term**, whatever its number. -/
theorem ofValue_eq_refused {website : String} {altvsntags : List String} {n : Nat} {v : Value}
    {m : Mishap} :
    Admission.ofValue website altvsntags n v = .refused m ↔ v.Refused website m := by
  constructor
  · intro h
    unfold Admission.ofValue at h
    split at h
    · rename_i es
      unfold Admission.ofEntries at h
      split at h
      · rename_i hmissing
        split at h
        · rename_i m' haddress
          injection h with h
          subst h
          rcases Admission.resolvedAddress_eq_error.mp haddress with herror | ⟨s, e, hs, hjoin, rfl⟩
          · exact .longAddress hmissing herror
          · exact .address hmissing hs hjoin
        · rename_i url haddress
          split at h
          · cases h
          · obtain ⟨hlong, rfl⟩ := Admission.dropping_eq_refused.mp h
            exact .longTerm hlong fun _ => ⟨url, haddress⟩
      · rename_i hmissing
        obtain ⟨hlong, rfl⟩ := Admission.dropping_eq_refused.mp h
        exact .longTerm hlong fun hnil => (hmissing hnil).elim
    · cases h
  · rintro (@⟨es, s, e, hmissing, hs, hjoin⟩ | @⟨es, m, hmissing, herror⟩ | @⟨es, hlong, haddress⟩)
    · have hrefused := Admission.resolvedAddress_eq_error.mpr (.inr ⟨s, e, hs, hjoin, rfl⟩)
      rw [Admission.ofValue, Admission.ofEntries, hmissing, hrefused]
    · have hrefused : Admission.resolvedAddress website es = .error _ :=
        Admission.resolvedAddress_eq_error.mpr (.inl herror)
      rw [Admission.ofValue, Admission.ofEntries, hmissing, hrefused]
    · rw [Admission.ofValue, Admission.ofEntries]
      split
      · rename_i hmissing
        obtain ⟨url, hurl⟩ := haddress hmissing
        rw [hurl]
        dsimp only
        split
        · rename_i e he
          exact absurd hlong (Admission.not_longTerm_of_good he)
        · exact Admission.dropping_eq_refused.mpr ⟨hlong, rfl⟩
      · exact Admission.dropping_eq_refused.mpr ⟨hlong, rfl⟩

/-- An entry is not refused for what is wrong with a directory. -/
theorem Value.Refused.ne_listing {website : String} {v : Value} {m : Mishap}
    (h : v.Refused website m) (e : FileError) : m ≠ .listing e := by
  cases h with
  | address => simp
  | longAddress _ herror =>
    rintro rfl
    unfold Admission.addressOf at herror
    split at herror
    · cases herror
    · cases herror
    · split at herror <;> cases herror
  | longTerm => simp

/-- A list has a property throughout, or up to a first member without it. -/
theorem forall_or_first {α : Type} (p : α → Prop) (xs : List α) :
    (∀ x ∈ xs, p x) ∨ ∃ pre x post, xs = pre ++ x :: post ∧ (∀ y ∈ pre, p y) ∧ ¬ p x := by
  induction xs with
  | nil => exact .inl (by simp)
  | cons x xs ih =>
    by_cases hx : p x
    · rcases ih with h | ⟨pre, y, post, rfl, hpre, hy⟩
      · exact .inl (by simpa [hx] using h)
      · exact .inr ⟨x :: pre, y, post, rfl, by simpa [hx] using hpre, hy⟩
    · exact .inr ⟨[], x, xs, rfl, by simp, hx⟩

/-! ### Admissions -/

namespace Admission

/-- The runtime entries that an admission brings. -/
def entries : Admission → List Entry
  | admitted e => e.withForms
  | _ => []

theorem exists_of_entries_ne_nil {a : Admission} (h : a.entries ≠ []) : ∃ e, a = .admitted e := by
  rcases a with e | why | m
  · exact ⟨e, rfl⟩
  all_goals exact absurd rfl h

/-- The warning that it brings, for a terminology from some source. -/
def warning? (source : String) : Admission → Option Diagnostic
  | dropped why => some ⟨.invalidEntry, why, some source, none⟩
  | _ => none

end Admission

/-- What becomes of entries, the first of which has the given number. -/
def admissionsFrom (website : String) (altvsntags : List String) (n : Nat) (vs : List Value) :
    List Admission :=
  (vs.zipIdx n).map fun p => .ofValue website altvsntags p.2 p.1

theorem admissionsFrom_cons (website : String) (altvsntags : List String) (n : Nat) (v : Value)
    (vs : List Value) :
    admissionsFrom website altvsntags n (v :: vs) =
      .ofValue website altvsntags n v :: admissionsFrom website altvsntags (n + 1) vs := by
  rw [admissionsFrom, List.zipIdx_cons, List.map_cons, admissionsFrom]

/-- An entry that is not refused brings runtime entries or a warning, and not both. -/
theorem entries_or_warning {website : String} {altvsntags : List String} {n : Nat}
    {vs : List Value} (hvs : ∀ v ∈ vs, v.Settles website) (source : String) :
    ∀ a ∈ admissionsFrom website altvsntags n vs,
      (∃ e, a = .admitted e ∧ a.entries = e.withForms ∧ a.warning? source = none) ∨
      ∃ why, a = .dropped why ∧ a.entries = [] ∧
        a.warning? source = some ⟨.invalidEntry, why, some source, none⟩ := by
  intro a ha
  obtain ⟨⟨v, k⟩, hv, rfl⟩ := List.mem_map.mp ha
  have hmem : v ∈ vs := List.fst_mem_of_mem_zipIdx hv
  dsimp only
  rcases h : Admission.ofValue website altvsntags k v with e | why | m
  · exact .inl ⟨e, rfl, rfl, rfl⟩
  · exact .inr ⟨why, rfl, rfl, rfl⟩
  · exact absurd (ofValue_eq_refused.mp h) (hvs v hmem m)

/-! ### Intakes -/

namespace Intake

/-- An intake that goes on with some admissions. -/
def settle (i : Intake) (source : String) (as : List Admission) : Intake where
  glossary := (as.flatMap Admission.entries).foldl Glossary.add i.glossary
  journal := (as.filterMap (Admission.warning? source)).foldl Journal.warn i.journal
  added := i.added + (as.flatMap Admission.entries).length

theorem accept_settle (i : Intake) (source : String) (e : Entry) (as : List Admission) :
    (i.accept e).settle source as = i.settle source (.admitted e :: as) := by
  simp [settle, accept, Admission.entries, Admission.warning?, List.filterMap_cons, Nat.add_assoc]

theorem drop_settle (i : Intake) (source why : String) (as : List Admission) :
    (i.drop source why).settle source as = i.settle source (.dropped why :: as) := by
  simp [settle, drop, Admission.entries, Admission.warning?]

/-- The website of a glossary stays while entries come in. -/
theorem website_accept (i : Intake) (e : Entry) :
    (i.accept e).glossary.website = i.glossary.website := by
  rw [accept, foldl_add]
  rfl

/-- **Entries that are not refused are settled**, and the intake goes on behind them. -/
theorem takeFrom_past (source : String) (altvsntags : List String) (n : Nat) {pre : List Value}
    (vs : List Value) {i : Intake} (hpre : ∀ v ∈ pre, v.Settles i.glossary.website) :
    takeFrom source altvsntags n (pre ++ vs) i =
      takeFrom source altvsntags (n + pre.length) vs
        (i.settle source (admissionsFrom i.glossary.website altvsntags n pre)) := by
  induction pre generalizing n i with
  | nil => rfl
  | cons v pre ih =>
    have hlen : n + (v :: pre).length = n + 1 + pre.length := by
      rw [List.length_cons]
      omega
    have hrest : ∀ u ∈ pre, u.Settles i.glossary.website := fun u hu =>
      hpre u (List.mem_cons_of_mem _ hu)
    rw [admissionsFrom_cons, List.cons_append, takeFrom, hlen]
    rcases hv : Admission.ofValue i.glossary.website altvsntags n v with e | why | m
    · have h := ih (n + 1) (i := i.accept e) (by rwa [website_accept])
      rw [website_accept, accept_settle] at h
      exact h
    · have h := ih (n + 1) (i := i.drop source why) hrest
      rw [drop_settle] at h
      exact h
    · exact absurd (ofValue_eq_refused.mp hv) (hpre v List.mem_cons_self m)

/-- An intake ends at an entry that is refused. -/
theorem takeFrom_refused {source website : String} {altvsntags : List String} {n : Nat}
    {v : Value} {vs : List Value} {i : Intake} {m : Mishap} (hi : i.glossary.website = website)
    (hv : v.Refused website m) :
    takeFrom source altvsntags n (v :: vs) i = (i, some m) := by
  rw [takeFrom, hi, ofValue_eq_refused.mpr hv]

variable {g : Glossary} {j : Journal} {t : Terminology} {source : String}

/-- The website of a glossary stays while entries are settled. -/
theorem website_settle (i : Intake) (source : String) (as : List Admission) :
    (i.settle source as).glossary.website = i.glossary.website := by
  rw [settle, foldl_add]
  rfl

theorem take_of_settles (h : ∀ v ∈ t.entries, v.Settles g.website) :
    take g j t source = (({ glossary := g, journal := j } : Intake).settle source
      (admissionsFrom g.website t.info.altvsntags 1 t.entries), none) := by
  have hpast := takeFrom_past source t.info.altvsntags 1 [] (i := { glossary := g, journal := j }) h
  rw [List.append_nil] at hpast
  rw [take, hpast, takeFrom]

theorem take_of_refused {pre post : List Value} {v : Value} {m : Mishap}
    (ht : t.entries = pre ++ v :: post) (hpre : ∀ u ∈ pre, u.Settles g.website)
    (hv : v.Refused g.website m) :
    take g j t source = (({ glossary := g, journal := j } : Intake).settle source
      (admissionsFrom g.website t.info.altvsntags 1 pre), some m) := by
  have hpast := takeFrom_past source t.info.altvsntags 1 (v :: post)
    (i := { glossary := g, journal := j }) hpre
  rw [take, ht, hpast]
  exact takeFrom_refused (website_settle _ source _) hv

/-- An intake that fails has come to an entry that is refused. -/
theorem exists_refused_of_take {m : Mishap} (h : (take g j t source).2 = some m) :
    ∃ v ∈ t.entries, v.Refused g.website m := by
  rcases forall_or_first (Value.Settles g.website) t.entries with
    hall | ⟨pre, v, post, ht, hpre, hv⟩
  · rw [take_of_settles hall] at h
    cases h
  · obtain ⟨m', hm'⟩ := Classical.not_forall_not.mp hv
    rw [take_of_refused ht hpre hm'] at h
    obtain rfl : m' = m := Option.some.inj h
    exact ⟨v, by simp [ht], hm'⟩

/-- **Taking a terminology over settles its entries, up to the first that is refused** for a
malformed address or a number too long to be written.  Each entry settled brings its runtime
entries, or one warning that names the source; these come after what was there, in the order
of the terminology, and nothing else changes in entries and report.  If no entry is refused
all of them are settled; otherwise the intake fails at the first that is. -/
theorem take_settles_entries (g : Glossary) (j : Journal) (t : Terminology) (source : String) :
    let result := take g j t source
    ∃ done rest, t.entries = done ++ rest ∧
      (let as := admissionsFrom g.website t.info.altvsntags 1 done;
        (∀ a ∈ as,
          (∃ e, a = .admitted e ∧ a.entries = e.withForms ∧ a.warning? source = none) ∨
          ∃ why, a = .dropped why ∧ a.entries = [] ∧
            a.warning? source = some ⟨.invalidEntry, why, some source, none⟩) ∧
        result.1.glossary.entries = g.entries ++ as.flatMap Admission.entries ∧
        (∀ k, result.1.glossary.index.get k =
          g.index.get k ++ (as.flatMap Admission.entries).filter fun e => e.key = k) ∧
        result.1.added = (as.flatMap Admission.entries).length ∧
        result.1.journal.report = { j.report with
          diagnostics := j.report.diagnostics ++ as.filterMap (Admission.warning? source) }) ∧
      (∀ v ∈ done, v.Settles g.website) ∧
      (result.2 = none ∧ rest = [] ∨
        ∃ v post m, result.2 = some m ∧ rest = v :: post ∧ v.Refused g.website m) := by
  -- whatever has been settled, this is what it comes to
  have hsettled : ∀ as, let i := ({ glossary := g, journal := j } : Intake).settle source as
      i.glossary.entries = g.entries ++ as.flatMap Admission.entries ∧
      (∀ k, i.glossary.index.get k =
        g.index.get k ++ (as.flatMap Admission.entries).filter fun e => e.key = k) ∧
      i.added = (as.flatMap Admission.entries).length ∧
      i.journal.report = { j.report with
        diagnostics := j.report.diagnostics ++ as.filterMap (Admission.warning? source) } := by
    intro as
    dsimp only [settle]
    rw [foldl_add]
    exact ⟨rfl, get_foldl_add _ _, Nat.zero_add _, foldl_warn_report _ j⟩
  rcases forall_or_first (Value.Settles g.website) t.entries with
    h | ⟨pre, v, post, ht, hpre, hv⟩
  · rw [take_of_settles h]
    exact ⟨t.entries, [], (List.append_nil _).symm, ⟨entries_or_warning h source, hsettled _⟩, h,
      .inl ⟨rfl, rfl⟩⟩
  · obtain ⟨m, hm⟩ := Classical.not_forall_not.mp hv
    rw [take_of_refused ht hpre hm]
    exact ⟨pre, v :: post, ht, ⟨entries_or_warning hpre source, hsettled _⟩, hpre,
      .inr ⟨v, post, m, rfl, rfl, hm⟩⟩

end Intake

/-- An entry of a terminology, for a term and with an address. -/
def Value.ofTerm (term navurl : String) : Value :=
  .mapping ([("term", term), ("vsntag", "latest"), ("scopetag", "s"), ("locator", "l"),
    ("glossaryText", "words"), ("navurl", navurl)].map fun p => (.text p.1, .text p.2))

/-- A terminology of three entries, the second of which has a malformed address. -/
def Terminology.misaddressed : Terminology :=
  ⟨.unknown, [], [.ofTerm "a" "a", .ofTerm "b" "http://[b", .ofTerm "c" "c"], []⟩

/-- A glossary without entries, whose scope is at the root of the files. -/
def Glossary.bare : Glossary where
  admin := ⟨⟨"s", "", "", none, none, none, []⟩, [], [], []⟩
  scopedir := ⟨.root, []⟩

/-- A malformed address keeps the entries after it out, and brings no warning. -/
theorem Intake.take_ends_at_malformed_address :
    let result := take .bare {} .misaddressed "f"
    result.2 = some (.address .brackets) ∧ result.1.glossary.entries.map Entry.term = ["a"] ∧
      result.1.journal.report.diagnostics = [] := by
  decide +kernel

end TermRef
