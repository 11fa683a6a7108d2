/-
TermRef/Proofs/Glossary/Origin.lean

Where the entries of a glossary in use come from.

Calls offer terminologies: those that are to be taken over, and those in the files that are to
be loaded (`Call.Offers`).  Every entry of a glossary comes from one of them, whatever has been
called, and however a load or an intake has ended (`mem_entries_after`).  It is an entry of the
terminology as it has been admitted, or that entry with a phrase in place of its term.

An admitted entry has its required parts from the mapping that it is written as, number by its
text and bytes by the text that they encode (`required_of_admitted`); the address and the other
names of the version, which an admission sets, are not among them.

Phrases hold no mark for a family of endings.  Terms are not looked through for marks, and so a
term that holds one is a term as it is written (`marks_only_in_written_terms`).
-/
import TermRef.Proofs.Glossary.History
import TermRef.Proofs.Glossary.Phrases
import TermRef.Proofs.Value.Entries

namespace TermRef

/-! ### One terminology -/

/-- A value of a terminology is admitted as an entry, for a scope with a website. -/
def Terminology.Admits (website : String) (y : Terminology) (v : Value) (e : Entry) : Prop :=
  ∃ n, (v, n) ∈ y.entries.zipIdx 1 ∧ Admission.ofValue website y.info.altvsntags n v = .admitted e

/-- A form of an entry is the entry itself, or has a phrase of it for its term. -/
theorem mem_withForms {e base : Entry} : e ∈ base.withForms ↔
    e = base ∨ ∃ p ∈ base.phrases, e = { base with term := p } := by
  simp only [Entry.withForms, List.mem_cons, List.mem_map, eq_comm]

/-- A runtime entry is an admitted one, or has a phrase of that for its term. -/
theorem mem_runtimeEntries {website : String} {y : Terminology} {e : Entry} :
    e ∈ y.runtimeEntries website ↔ ∃ v base, y.Admits website v base ∧
      (e = base ∨ ∃ p ∈ base.phrases, e = { base with term := p }) := by
  rw [Terminology.runtimeEntries, List.mem_flatMap]
  constructor
  · rintro ⟨a, ha, he⟩
    obtain ⟨⟨v, n⟩, hv, rfl⟩ := List.mem_map.mp ha
    dsimp only at he
    rcases hadmitted : Admission.ofValue website y.info.altvsntags n v with base | why | f
    · rw [hadmitted] at he
      exact ⟨v, base, ⟨n, hv, hadmitted⟩, mem_withForms.mp he⟩
    · rw [hadmitted] at he
      cases he
    · rw [hadmitted] at he
      cases he
  · rintro ⟨v, base, ⟨n, hv, hadmitted⟩, he⟩
    refine ⟨_, List.mem_map.mpr ⟨(v, n), hv, hadmitted⟩, ?_⟩
    exact mem_withForms.mpr he

/-- What comes in before an entry is refused is among all runtime entries. -/
theorem acceptedEntries_subset (website : String) (y : Terminology) :
    y.acceptedEntries website ⊆ y.runtimeEntries website := by
  intro e he
  obtain ⟨a, ha, he⟩ := List.mem_flatMap.mp he
  exact List.mem_flatMap.mpr ⟨a, List.takeWhile_subset _ ha, he⟩

/-! ### Loads -/

/-- What an attempt to load brings in comes from the terminologies that it has read. -/
theorem Loading.Loads.mem_entries {t : FileTree} {names : List String} {g : Glossary} {j : Journal}
    {l : Loading} {e : Entry} (h : Loads t names g j l) (he : e ∈ l.glossary.entries) :
    e ∈ g.entries ∨ ∃ path y, t.mapping path Terminology.ofEntries = .ok y ∧
      e ∈ y.runtimeEntries g.website := by
  have hread : ∀ {g : Glossary} {j : Journal} {path : String} {y : Terminology}
      {x : Intake × Option Mishap}, t.mapping path Terminology.ofEntries = .ok y →
      Intake.take g j y path = x → e ∈ x.1.glossary.entries → e ∈ g.entries ∨
        ∃ path y, t.mapping path Terminology.ofEntries = .ok y ∧
          e ∈ y.runtimeEntries g.website := by
    rintro g j path y _ hy rfl he
    rw [(extends_take g j y path).entries] at he
    exact (List.mem_append.mp he).imp_right fun he =>
      ⟨path, y, hy, acceptedEntries_subset _ y he⟩
  induction h with
  | done => exact .inl he
  | unread => exact .inl he
  | refused hm ht => exact hread hm ht he
  | @taken name names g j y i l hm ht _ ih =>
    have hlike := (extends_take g j y (g.pathOf name)).like
    rw [ht] at hlike
    rcases ih he with he | ⟨path, y', hy', he⟩
    · exact hread hm ht he
    · rw [hlike.website] at he
      exact .inr ⟨path, y', hy', he⟩

theorem Glossary.mem_entries_load {t : FileTree} {g : Glossary} {j : Journal} {e : Entry}
    (he : e ∈ (g.load t j).glossary.entries) :
    e ∈ g.entries ∨ ∃ path y, t.mapping path Terminology.ofEntries = .ok y ∧
      e ∈ y.runtimeEntries g.website := by
  rcases load_starts t g j with ⟨e, -, heq⟩ | ⟨-, heq⟩ | ⟨-, -, heq⟩
  · rw [heq] at he
    exact .inl he
  · rw [heq] at he
    exact .inl he
  · have hfinish : ∀ (l : Loading) n, (l.finish n).glossary.entries = l.glossary.entries := by
      intro l n
      rw [Loading.finish]
      split <;> rfl
    rw [heq, hfinish] at he
    have hloads := Loading.loads_loadFrom t (terminologyNames t g.directory) g.emptied j
    rcases hloads.mem_entries he with he | h
    · cases he
    · exact .inr h

/-! ### Calls -/

namespace Service

/-- A call offers a terminology: it is to be taken over, or it is in a file of those to be
loaded. -/
def Call.Offers (y : Terminology) : Call → Prop
  | .load t => ∃ path, t.mapping path Terminology.ofEntries = .ok y
  | .take y' _ => y' = y
  | .lookup _ _ _ => False

section Calls

variable {s : Service} {c : Call} {e : Entry}

-- nothing is to be loaded or taken over by computation here
seal Glossary.load Intake.take

/-- What a call brings in comes from a terminology that it offers. -/
theorem mem_entries_call (he : e ∈ (s.call c).1.glossary.entries) :
    e ∈ s.glossary.entries ∨ ∃ y, c.Offers y ∧ e ∈ y.runtimeEntries s.glossary.website := by
  cases c with
  | load t =>
    have hload : e ∈ (s.glossary.load t s.journal).glossary.entries := he
    refine (Glossary.mem_entries_load hload).imp_right ?_
    rintro ⟨path, y, hy, he⟩
    exact ⟨y, ⟨path, hy⟩, he⟩
  | take y source =>
    have htake : e ∈ (Intake.take s.glossary s.journal y source).1.glossary.entries := he
    rw [(extends_take s.glossary s.journal y source).entries] at htake
    exact (List.mem_append.mp htake).imp_right fun he => ⟨y, rfl, acceptedEntries_subset _ y he⟩
  | lookup => exact .inl he

/-- **An entry in use comes from a terminology that a call has offered**, or it has been there
from the start. -/
theorem mem_entries_after {calls : List Call} (he : e ∈ (s.after calls).glossary.entries) :
    e ∈ s.glossary.entries ∨
      ∃ c ∈ calls, ∃ y, c.Offers y ∧ e ∈ y.runtimeEntries s.glossary.website := by
  induction calls generalizing s with
  | nil => exact .inl he
  | cons c calls ih =>
    rcases ih he with he | ⟨c', hc', y, hy, he⟩
    · exact (mem_entries_call he).imp_right fun h => ⟨c, List.mem_cons_self, h⟩
    · have hsite : (s.call c).1.glossary.website = s.glossary.website :=
        Glossary.website_of_emptied (s.comes_call c).emptied
      rw [hsite] at he
      exact .inr ⟨c', List.mem_cons_of_mem _ hc', y, hy, he⟩

end Calls

end Service

/-! ### Required parts -/

/-- The required parts of an entry, with their names. -/
def Entry.requiredParts (e : Entry) : List (String × String) :=
  [("term", e.term), ("vsntag", e.vsntag), ("scopetag", e.scopetag), ("locator", e.locator),
    ("glossaryText", e.glossaryText)]

/-- A text counts as a tag as well. -/
theorem Value.tag?_of_text? {v : Value} {s : String} (h : v.text? = .good s) :
    v.tag? = .good s := by
  cases v with
  | text => exact h
  | bytes => exact h
  | _ => cases h

/-- The required parts of an entry are read from a mapping. -/
theorem Entry.required_of_ofEntries {es : Entries} {e : Entry} (h : Entry.ofEntries es = .good e)
    (htext : es.field? "glossaryText" ≠ none) :
    ∀ x ∈ e.requiredParts, ∃ v, es.field? x.1 = some v ∧ v.tag? = .good x.2 := by
  have hread := ofEntries_eq_good.mp h
  have hname : Entry.textName es = "glossaryText" := by
    rw [Entry.textName, Entries.nameOf, if_neg]
    simp [htext]
  obtain ⟨v, hv, hgood⟩ := Entries.required_eq_good.mp (hname ▸ hread.glossaryText)
  simp only [Entry.requiredParts, List.mem_cons, List.not_mem_nil, or_false]
  rintro x (rfl | rfl | rfl | rfl | rfl)
  · exact Entries.required_eq_good.mp hread.term
  · exact Entries.required_eq_good.mp hread.vsntag
  · exact Entries.required_eq_good.mp hread.scopetag
  · exact Entries.required_eq_good.mp hread.locator
  · exact ⟨v, hv, Value.tag?_of_text? hgood⟩

/-- A mapping is admitted if nothing that is required is missing, its address is in order, and all
its parts are what they should be. -/
theorem Admission.ofEntries_eq_admitted {website : String} {altvsntags : List String} {n : Nat}
    {es : Entries} {e : Entry} : Admission.ofEntries website altvsntags n es = .admitted e ↔
      Entry.missing es = [] ∧ ∃ url, resolvedAddress website es = .ok url ∧
        Entry.ofEntries (completed url altvsntags es) = .good e := by
  rw [Admission.ofEntries]
  rcases hmissing : Entry.missing es with - | ⟨name, names⟩
  · dsimp only
    rcases hurl : resolvedAddress website es with m | url
    · simp
    · dsimp only
      rcases hgood : Entry.ofEntries (completed url altvsntags es) with e' | ps
      · simp [hgood]
      · simp [hgood, dropping_ne_admitted]
  · simp [dropping_ne_admitted]

/-- **An admitted entry has its required parts from the mapping that it is written as**, which
has something for each of them. -/
theorem required_of_admitted {website : String} {altvsntags : List String} {n : Nat} {v : Value}
    {e : Entry} (h : Admission.ofValue website altvsntags n v = .admitted e) :
    ∃ es : Entries, v = .mapping es ∧ ∀ x ∈ e.requiredParts, ∃ w, es.field? x.1 = some w ∧
      Entry.isVoid (some w) = false ∧ w.tag? = .good x.2 := by
  unfold Admission.ofValue at h
  split at h
  · rename_i es
    change Entries at es
    obtain ⟨hmissing, url, -, hgood⟩ := Admission.ofEntries_eq_admitted.mp h
    have hpresent : ∀ name ∈ Entry.requiredNames, Entry.isVoid (es.field? name) = false := by
      simpa [Entry.missing, List.filter_eq_nil_iff] using hmissing
    -- the two entries that are set have other names
    have hfield : ∀ name ∈ Entry.requiredNames,
        (Admission.completed url altvsntags es).field? name = es.field? name := by
      intro name hname
      have hne : name ≠ "navurl" ∧ name ≠ "altvsntags" := by
        revert name hname
        decide
      rw [Admission.completed, Entries.field?_put _ hne.1, Entries.field?_put _ hne.2]
    have htext : (Admission.completed url altvsntags es).field? "glossaryText" ≠ none := by
      rw [hfield _ (by decide)]
      intro hnone
      have hvoid := hpresent "glossaryText" (by decide)
      rw [hnone] at hvoid
      cases hvoid
    refine ⟨es, rfl, fun x hx => ?_⟩
    have hname : x.1 ∈ Entry.requiredNames := List.mem_map_of_mem (f := Prod.fst) hx
    obtain ⟨w, hw, hread⟩ := Entry.required_of_ofEntries hgood htext x hx
    rw [hfield _ hname] at hw
    exact ⟨w, hw, hw ▸ hpresent _ hname, hread⟩
  · cases h

/-! ### Marks -/

namespace Service

/-- **A term that holds a mark for a family of endings is a term as it is written.**  Whatever
has been called, the entry is none of the further forms of another one: it has been admitted
from a terminology that a call has offered, and the mapping that it is written as has this
term. -/
theorem marks_only_in_written_terms (admin : ScopeAdmin) (scopedir : Path) (j : Journal)
    (calls : List Call) :
    let g := (Service.after ⟨{ admin, scopedir }, j⟩ calls).glossary
    ∀ e ∈ g.entries, Phrases.Marked e.term.toList → ∃ c ∈ calls, ∃ y, c.Offers y ∧
      ∃ es : Entries, y.Admits g.website (.mapping es) e ∧
        ∃ w, es.field? "term" = some w ∧ w.tag? = .good e.term := by
  intro g e he hmarked
  have hsite : g.website = Glossary.website { admin, scopedir } :=
    Glossary.website_of_emptied (Service.emptied_after ⟨{ admin, scopedir }, j⟩ calls)
  rw [hsite]
  rcases mem_entries_after he with he | ⟨c, hc, y, hy, he⟩
  · cases he
  · obtain ⟨v, base, hadmits, rfl | ⟨p, hp, rfl⟩⟩ := mem_runtimeEntries.mp he
    · obtain ⟨n, hv, hadmitted⟩ := hadmits
      obtain ⟨es, rfl, hparts⟩ := required_of_admitted hadmitted
      obtain ⟨w, hw, -, hterm⟩ := hparts ("term", e.term) List.mem_cons_self
      exact ⟨c, hc, y, hy, es, ⟨n, hv, hadmitted⟩, w, hw, hterm⟩
    · exact absurd hmarked (Phrases.not_marked_of_mem_ofText hp)

/-- A terminology of one entry, whose term holds a mark. -/
def markedTerminology : Terminology := ⟨.unknown, [], [.ofTerm "a\x7bss\x7d" "a"], []⟩

theorem exists_marked_entry :
    ∃ e ∈ (Service.after ⟨.bare, {}⟩ [.take markedTerminology "f"]).glossary.entries,
      Phrases.Marked e.term.toList := by
  have hentries : (Service.after ⟨.bare, {}⟩ [.take markedTerminology "f"]).glossary.entries.map
      Entry.term = ["a\x7bss\x7d"] := by decide +kernel
  obtain ⟨e, he, hterm⟩ := List.mem_map.mp (hentries ▸ List.mem_cons_self)
  refine ⟨e, he, ⟨_, List.mem_cons_self, ['a'], [], ?_⟩⟩
  rw [hterm]
  rfl

/-- A mark in the glossary is one in the term of a mapping that has been offered. -/
theorem marks_only_in_written_terms_one :
    ∃ e ∈ (Service.after ⟨.bare, {}⟩ [.take markedTerminology "f"]).glossary.entries,
      Phrases.Marked e.term.toList ∧ ∃ c ∈ [Call.take markedTerminology "f"], ∃ y, c.Offers y ∧
        ∃ es : Entries, y.Admits Glossary.bare.website (.mapping es) e ∧
          ∃ w, es.field? "term" = some w ∧ w.tag? = .good e.term := by
  obtain ⟨e, he, hmarked⟩ := exists_marked_entry
  have hsite : (Service.after ⟨.bare, {}⟩ [.take markedTerminology "f"]).glossary.website =
      Glossary.bare.website :=
    Glossary.website_of_emptied (Service.emptied_after ⟨.bare, {}⟩ [.take markedTerminology "f"])
  have hwritten := marks_only_in_written_terms Glossary.bare.admin Glossary.bare.scopedir {}
    [.take markedTerminology "f"] e he hmarked
  exact ⟨e, he, hmarked, hsite ▸ hwritten⟩

/-- A term that is written with a mark enters the glossary, and no warning is given. -/
theorem mark_enters_with_written_term :
    let s := Service.after ⟨.bare, {}⟩ [.take markedTerminology "f"]
    (∃ e ∈ s.glossary.entries, Phrases.Marked e.term.toList) ∧
      s.journal.report.diagnostics = [] :=
  ⟨exists_marked_entry, by decide +kernel⟩

end Service

end TermRef
