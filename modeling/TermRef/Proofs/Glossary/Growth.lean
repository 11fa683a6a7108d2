/-
TermRef/Proofs/Glossary/Growth.lean

What one terminology adds to a glossary.

Each value of a terminology brings a block of entries of its own (`Value.Brings`): the entry that
it makes and, right behind it, one entry for each phrase of that, which differs from it in its
term only; or no entry at all.  Whether a value makes an entry hangs on the value, the website of
the scope and the other names of the version (`Value.makes_iff`), and not on the values before it.

The address of an entry and its other names are put into the mapping before it is read as an
entry, so they are the ones put there, whatever the mapping had under their names
(`navurl_of_completed`, `altvsntags_of_completed`).

An intake that goes through leaves the old entries in front and puts the blocks behind them in the
order of the terminology, counts them, and warns once for each value without a block
(`Intake.take_grows`).
-/
import TermRef.Proofs.Glossary.Origin
import TermRef.Proofs.Value.Again

namespace TermRef

/-! ### What is set -/

section Completed

variable {url : String} {altvsntags : List String} {es : Entries} {e : Entry}

/-- An entry has the address that is put into its mapping. -/
theorem navurl_of_completed
    (h : Entry.ofEntries (Admission.completed url altvsntags es) = .good e) :
    e.navurl = some url := by
  have hread := (Entry.ofEntries_eq_good.mp h).navurl
  rw [Entries.optional, Admission.completed, Entries.field?_put_self] at hread
  injection hread with hread
  exact hread.symm

/-- It has the other names of its version that are put there. -/
theorem altvsntags_of_completed
    (h : Entry.ofEntries (Admission.completed url altvsntags es) = .good e) :
    e.altvsntags = altvsntags := by
  have hread := (Entry.ofEntries_eq_good.mp h).altvsntags
  rw [Entries.optional, Admission.completed, Entries.field?_put _ (by decide),
    Entries.field?_put_self] at hread
  dsimp only at hread
  rw [Value.tags?_ofTexts] at hread
  injection hread with hread
  exact hread.symm

end Completed

/-! ### Blocks -/

namespace Value

/-- A value makes an entry, for a scope with a website and with the other names of a version.  It
is a mapping that has something for each required part, and its address is in order; with the
address resolved against the website, and with the names, it is read as the entry. -/
inductive Makes (website : String) (altvsntags : List String) : Value → Entry → Prop
  | intro {es : Entries} {url : String} {e : Entry} :
      (∀ name ∈ Entry.requiredNames, Entry.isVoid (es.field? name) = false) →
      Admission.resolvedAddress website es = .ok url →
      Entry.ofEntries (Admission.completed url altvsntags es) = .good e →
      Makes website altvsntags (.mapping es) e

/-- The entries that a value brings: the one that it makes, with one behind it for each of its
phrases; or none. -/
inductive Brings (website : String) (altvsntags : List String) (v : Value) : List Entry → Prop
  | entry {e : Entry} : v.Makes website altvsntags e →
      Brings website altvsntags v (e :: e.phrases.map fun p => { e with term := p })
  | nothing : (∀ e, ¬ v.Makes website altvsntags e) → Brings website altvsntags v []

variable {website : String} {altvsntags : List String} {v : Value} {e : Entry}

/-- The values that make an entry are those that are admitted, under whatever number. -/
theorem makes_iff {n : Nat} :
    v.Makes website altvsntags e ↔ Admission.ofValue website altvsntags n v = .admitted e := by
  have hvoid : ∀ es : Entries, Entry.missing es = [] ↔
      ∀ name ∈ Entry.requiredNames, Entry.isVoid (es.field? name) = false := by
    simp [Entry.missing, List.filter_eq_nil_iff]
  constructor
  · rintro ⟨hpresent, hurl, hread⟩
    exact Admission.ofEntries_eq_admitted.mpr ⟨(hvoid _).mpr hpresent, _, hurl, hread⟩
  · intro h
    unfold Admission.ofValue at h
    split at h
    · obtain ⟨hmissing, url, hurl, hread⟩ := Admission.ofEntries_eq_admitted.mp h
      exact .intro ((hvoid _).mp hmissing) hurl hread
    · cases h

/-- All entries of a block have the address that its value is written with, resolved, and the
other names of the version. -/
theorem Brings.sets {block : List Entry} (h : v.Brings website altvsntags block) :
    ∀ f ∈ block, f.altvsntags = altvsntags ∧ ∃ es url, v = .mapping es ∧
      Admission.resolvedAddress website es = .ok url ∧ f.navurl = some url := by
  cases h with
  | nothing => simp
  | @entry e hmakes =>
    obtain ⟨-, hurl, hread⟩ := hmakes
    have hnames := altvsntags_of_completed hread
    have haddress := navurl_of_completed hread
    intro f hf
    -- the forms have these parts from the entry
    rcases List.mem_cons.mp hf with rfl | hf
    · exact ⟨hnames, _, _, rfl, hurl, haddress⟩
    · obtain ⟨p, -, rfl⟩ := List.mem_map.mp hf
      exact ⟨hnames, _, _, rfl, hurl, haddress⟩

/-- What a value that is not refused brings is what its admission brings. -/
theorem brings_of_ofValue {n : Nat}
    (h : (Admission.ofValue website altvsntags n v).error? = none) :
    v.Brings website altvsntags (Admission.ofValue website altvsntags n v).entries := by
  rcases hv : Admission.ofValue website altvsntags n v with e | why | f
  · exact .entry (makes_iff.mpr hv)
  · refine .nothing fun e he => ?_
    rw [makes_iff (n := n), hv] at he
    cases he
  · rw [hv] at h
    cases h

end Value

/-! ### All values -/

section Values

variable {website : String} {altvsntags : List String}

/-- Values that are not refused bring what their admissions bring, one after the other. -/
theorem forall₂_brings {n : Nat} {vs : List Value}
    (h : ∀ a ∈ admissionsFrom website altvsntags n vs, a.error? = none) :
    List.Forall₂ (Value.Brings website altvsntags) vs
      ((admissionsFrom website altvsntags n vs).map Admission.entries) := by
  induction vs generalizing n with
  | nil => exact .nil
  | cons v vs ih =>
    rw [admissionsFrom_cons] at h ⊢
    obtain ⟨hv, hvs⟩ := List.forall_mem_cons.mp h
    exact .cons (Value.brings_of_ofValue hv) (ih hvs)

/-- Where none is refused, there is a warning for each admission that brings no entry. -/
theorem length_warnings (source : String) {as : List Admission} (h : ∀ a ∈ as, a.error? = none) :
    (as.filterMap (Admission.warning? source)).length =
      ((as.map Admission.entries).filter List.isEmpty).length := by
  induction as with
  | nil => rfl
  | cons a as ih =>
    obtain ⟨ha, has⟩ := List.forall_mem_cons.mp h
    cases a with
    | admitted e =>
      simpa [List.filterMap_cons, Admission.warning?, Admission.entries, Entry.withForms] using
        ih has
    | dropped why => simpa [Admission.warning?, Admission.entries] using ih has
    | refused f => cases ha

end Values

namespace Intake

/-- A glossary with its journal has become an intake by a terminology from a source: its values
have brought the blocks, and there have been the warnings. -/
structure Grown (g : Glossary) (j : Journal) (y : Terminology) (source : String) (i : Intake)
    (blocks : List (List Entry)) (warnings : List Diagnostic) : Prop where
  brings : List.Forall₂ (Value.Brings g.website y.info.altvsntags) y.entries blocks
  /-- Whatever a value says of the other names of its version, its entries have those of the
  terminology, and the address that it is written with, resolved. -/
  sets : List.Forall₂ (fun v block => ∀ e ∈ block, e.altvsntags = y.info.altvsntags ∧
    ∃ es url, v = .mapping es ∧ Admission.resolvedAddress g.website es = .ok url ∧
      e.navurl = some url) y.entries blocks
  entries : i.glossary.entries = g.entries ++ blocks.flatten
  added : i.glossary.entries.length = g.entries.length + i.added
  report : i.journal.report = { j.report with diagnostics := j.report.diagnostics ++ warnings }
  warned : ∀ d ∈ warnings, d.kind = .invalidEntry ∧ d.file = some source
  /-- There are as many warnings as values that have brought nothing. -/
  dropped : warnings.length = (blocks.filter List.isEmpty).length

/-- **What a terminology adds to a glossary.**  The entries that were there stay in front, and the
blocks of the values come behind them in the order of the terminology; for each value without one
there is a warning. -/
theorem take_grows (g : Glossary) (j : Journal) (y : Terminology) (source : String)
    (h : (take g j y source).2 = none) :
    ∃ blocks warnings, Grown g j y source (take g j y source).1 blocks warnings := by
  obtain ⟨hnone, hall⟩ := admissions_of_take h
  have hbrings := forall₂_brings hnone
  change List.Forall₂ _ _ ((y.admissions g.website).map _) at hbrings
  rw [take_eq, hall]
  -- from here on it does not matter which admissions these are
  generalize y.admissions g.website = as at hnone hbrings
  have hentries : (({ glossary := g, journal := j } : Intake).settle source as).glossary.entries =
      g.entries ++ (as.map Admission.entries).flatten := by
    rw [settle, foldl_add, List.flatMap_def]
  exact ⟨as.map Admission.entries, as.filterMap (Admission.warning? source),
    { brings := hbrings
      sets := hbrings.imp fun v block hv => hv.sets
      entries := hentries
      added := by rw [hentries, List.length_append, settle, List.flatMap_def, Nat.zero_add]
      report := foldl_warn_report _ j
      warned := fun d hd => by
        obtain ⟨a, -, ha⟩ := List.mem_filterMap.mp hd
        cases a with
        | dropped why =>
          obtain rfl := Option.some.inj ha
          exact ⟨rfl, rfl⟩
        | admitted => cases ha
        | refused => cases ha
      dropped := length_warnings source hnone }⟩

/-- A terminology of four values: an entry with two phrases, which gives its version another name
than the terminology does; a text; an entry with an address of its own; and an empty mapping. -/
def mixed : Terminology where
  info := { TerminologyInfo.unknown with altvsntags := ["latest"] }
  scopes := []
  entries := [.mapping ([("term", "a"), ("vsntag", "1"), ("scopetag", "s"), ("locator", "l"),
      ("glossaryText", "words"), ("formPhrases", "a\x7bss\x7d, b"), ("navurl", "/a"),
      ("altvsntags", "2")].map fun p => (.text p.1, .text p.2)),
    .text "a", .ofTerm "c" "urn:c", .mapping []]
  extra := []

/-- A glossary without entries, for a scope with a website. -/
def sited : Glossary where
  admin := ⟨⟨"s", "", "http://w/", none, none, none, []⟩, [], [], []⟩
  scopedir := ⟨.root, []⟩

/-- Two of the values bring something, the first of them a block of three entries. -/
theorem take_grows_mixed : (take sited {} mixed "f").2 = none ∧
    (∃ blocks warnings, Grown sited {} mixed "f" (take sited {} mixed "f").1 blocks warnings) ∧
    (take sited {} mixed "f").1.glossary.entries.map
        (fun e => (e.term, e.navurl, e.altvsntags)) =
      [("a", some "http://w/a", ["latest"]), ("b", some "http://w/a", ["latest"]),
        ("as", some "http://w/a", ["latest"]), ("c", some "urn:c", ["latest"])] := by
  have hnone : (take sited {} mixed "f").2 = none := by decide +kernel
  exact ⟨hnone, take_grows sited {} mixed "f" hnone, by decide +kernel⟩

end Intake

end TermRef
