/-
TermRef/Proofs/Glossary/History.lean

A glossary in use: calls that load it, add to it and look entries up, in any order, with files
that may be others at each load.

A call comes to one of six things (`Comes`).  Only a load touches entries that are there, and
then it starts from none, so the index of the glossary has the entries of every key in their
order whatever has been called, and a lookup finds the entry that a search of all entries would
find (`lookup_finds_first`).

Among calls there is a last load that goes through, or there is none (`lastLoad_or_noneLoads`).
Behind it the glossary stays ready only as long as no load fails but for finding nothing to load;
such loads change nothing, so whatever comes in comes in behind what has been loaded
(`NoneLoads.extends`).  What a load brings in does not hang on what was there, because the
glossary is emptied first (`load_of_emptied`).  So a glossary that answers is the one that its
last load has made out of the files of that time, with what has been added since
(`answers_from_last_load`).
-/
import TermRef.Proofs.Glossary.Build

namespace TermRef

/-! ### One lookup -/

/-- The entry for a term of a scope in a version: the first with that version as its own, or
else the first that lists it. -/
def firstFor? (es : List Entry) (term scopetag vsntag : String) : Option Entry :=
  (es.find? fun e => e.term = term ∧ e.scopetag = scopetag ∧ e.vsntag = vsntag).or
    (es.find? fun e => e.term = term ∧ e.scopetag = scopetag ∧ vsntag ∈ e.altvsntags)

/-- The entry is for a term of a scope in a version, by its own version or by another name of it. -/
def Entry.Answers (e : Entry) (term scopetag vsntag : String) : Prop :=
  e.term = term ∧ e.scopetag = scopetag ∧ (e.vsntag = vsntag ∨ vsntag ∈ e.altvsntags)

theorem firstFor?_eq_none {es : List Entry} {term scopetag vsntag : String} :
    firstFor? es term scopetag vsntag = none ↔ ¬ ∃ e ∈ es, e.Answers term scopetag vsntag := by
  rw [firstFor?, Option.or_eq_none_iff, List.find?_eq_none, List.find?_eq_none]
  simp only [decide_eq_true_eq, Entry.Answers, not_exists, not_and]
  constructor
  · rintro ⟨hown, hother⟩ e he hterm hscope (hv | hv)
    · exact hown e he hterm hscope hv
    · exact hother e he hterm hscope hv
  · intro h
    exact ⟨fun e he hterm hscope hv => h e he hterm hscope (.inl hv),
      fun e he hterm hscope hv => h e he hterm hscope (.inr hv)⟩

/-- What is found is there. -/
theorem mem_of_firstFor? {es : List Entry} {term scopetag vsntag : String} {e : Entry}
    (h : firstFor? es term scopetag vsntag = some e) : e ∈ es := by
  rcases Option.or_eq_some_iff.mp h with h | ⟨-, h⟩
  · exact List.mem_of_find?_eq_some h
  · exact List.mem_of_find?_eq_some h

/-- An entry that is there is found by its own version, or another one with this version is. -/
theorem exists_firstFor?_own {es : List Entry} {e : Entry} (he : e ∈ es) :
    ∃ found ∈ es, firstFor? es e.term e.scopetag e.vsntag = some found ∧
      found.term = e.term ∧ found.scopetag = e.scopetag ∧ found.vsntag = e.vsntag := by
  have hsome : (es.find? fun x => x.term = e.term ∧ x.scopetag = e.scopetag ∧
      x.vsntag = e.vsntag).isSome = true := List.find?_isSome.mpr ⟨e, he, by simp⟩
  obtain ⟨found, hfound⟩ := Option.isSome_iff_exists.mp hsome
  have hparts := List.find?_some hfound
  simp only [decide_eq_true_eq] at hparts
  exact ⟨found, List.mem_of_find?_eq_some hfound, by rw [firstFor?, hfound, Option.some_or],
    hparts⟩

namespace Glossary

theorem forVersion?_eq (es : List Entry) (vsntag : String) : forVersion? es vsntag =
    (es.find? fun e => e.vsntag == vsntag).or (es.find? fun e => e.altvsntags.contains vsntag) := by
  rw [forVersion?]
  split
  · rename_i e he
    rw [he, Option.some_or]
  · rename_i hnone
    rw [hnone, Option.none_or]

/-- A glossary whose index is right finds the entry that a search finds. -/
theorem Indexed.entry? {g : Glossary} (hg : g.Indexed) (term scopetag vsntag : String) :
    g.entry? term scopetag vsntag = firstFor? g.entries term scopetag vsntag := by
  have hkey : ∀ e : Entry,
      e.key = (⟨term, scopetag⟩ : EntryKey) ↔ e.term = term ∧ e.scopetag = scopetag := fun e => by
    rw [Entry.key, EntryKey.mk.injEq]
  rw [Glossary.entry?, hg, forVersion?_eq, List.find?_filter, List.find?_filter, firstFor?]
  -- the two searches are for the same entries
  congr 2
  · funext e
    simp [hkey, and_assoc]
  · funext e
    simp [hkey, and_assoc]

/-- Only a glossary that is ready answers, and then with that entry. -/
theorem Indexed.lookup {g : Glossary} (hg : g.Indexed) (term scopetag vsntag : String) :
    g.lookup term scopetag vsntag =
      if g.ready then .ok (firstFor? g.entries term scopetag vsntag) else .error .notReady := by
  rw [Glossary.lookup, hg.entry?]

/-! ### One load -/

/-- Glossaries that are alike are the same without their entries. -/
theorem Like.emptied {g g' : Glossary} (h : g.Like g') : g.emptied = g'.emptied := by
  rw [Glossary.emptied, Glossary.emptied, h.admin, h.scopedir]

theorem website_of_emptied {g g' : Glossary} (h : g.emptied = g'.emptied) :
    g.website = g'.website := by
  rw [← website_emptied, h, website_emptied]

/-- What there is to load hangs on the scope only. -/
theorem Built.of_emptied {t : FileTree} {g g' : Glossary} {es : List Entry}
    (h : g.emptied = g'.emptied) (hb : g.Built t es) : g'.Built t es := by
  obtain ⟨names, ys, hlists, hne, hys, rfl⟩ := hb
  have hmem : ∀ name, g.HasTerminology t name ↔ g'.HasTerminology t name := by
    intro name
    show g.emptied.HasTerminology t name ↔ g'.emptied.HasTerminology t name
    rw [h]
  have hpath : ∀ name, g.pathOf name = g'.pathOf name := by
    intro name
    rw [← pathOf_emptied, h, pathOf_emptied]
  rw [website_of_emptied h]
  refine ⟨names, ys, ⟨fun name => ?_, hlists.sorted, hlists.nodup⟩, hne, ?_, rfl⟩
  · exact (hlists.mem name).trans (hmem name)
  · exact hys.imp fun name y hy => hpath name ▸ hy

/-- What is taken over does not hang on the journal. -/
theorem take_glossary (g : Glossary) (j k : Journal) (y : Terminology) (source : String) :
    (Intake.take g j y source).1.glossary = (Intake.take g k y source).1.glossary ∧
      (Intake.take g j y source).2 = (Intake.take g k y source).2 := by
  rw [take_eq, take_eq]
  exact ⟨rfl, rfl⟩

/-- What is loaded does not hang on the journal. -/
theorem loadFrom_glossary (t : FileTree) (names : List String) (g : Glossary) (j k : Journal) :
    (Loading.loadFrom t names g j).glossary = (Loading.loadFrom t names g k).glossary ∧
      (Loading.loadFrom t names g j).failure = (Loading.loadFrom t names g k).failure := by
  induction names generalizing g j k with
  | nil => exact ⟨rfl, rfl⟩
  | cons name names ih =>
    rw [Loading.loadFrom_cons, Loading.loadFrom_cons]
    rcases t.mapping (g.pathOf name) Terminology.ofEntries with e | y
    · exact ⟨rfl, rfl⟩
    · dsimp only
      have htake := take_glossary g j k y (g.pathOf name)
      rcases hj : Intake.take g j y (g.pathOf name) with ⟨i, e⟩
      rcases hk : Intake.take g k y (g.pathOf name) with ⟨i', e'⟩
      rw [hj, hk] at htake
      obtain ⟨hglossary, herror⟩ := htake
      dsimp only at hglossary herror
      subst herror
      rcases e with - | e
      · dsimp only
        rw [hglossary]
        exact ih i'.glossary _ _
      · exact ⟨hglossary, rfl⟩

/-- **What a load makes does not hang on what was there before.** -/
theorem load_of_emptied {t : FileTree} {g g' : Glossary} {j : Journal}
    (h : g.emptied = g'.emptied) (hl : (g.load t j).failure = none) (k : Journal) :
    (g.load t j).glossary = (g'.load t k).glossary := by
  have hdirectory : g.directory = g'.directory := by
    show g.emptied.directory = g'.emptied.directory
    rw [h]
  rcases load_starts t g j with ⟨e, -, heq⟩ | ⟨-, heq⟩ | ⟨hs, hne, heq⟩
  · rw [heq] at hl
    cases hl
  · rw [heq] at hl
    cases hl
  · have hsame := loadFrom_glossary t (terminologyNames t g.directory) g.emptied j k
    rw [heq] at hl ⊢
    rw [load_of_found (hdirectory ▸ hs) (hdirectory ▸ hne), ← hdirectory, ← h]
    rcases hf : (Loading.loadFrom t (terminologyNames t g.directory) g.emptied j).failure with - | f
    · rw [hf] at hsame
      rw [Loading.finish, Loading.finish, hf, ← hsame.2]
      dsimp only
      rw [hsame.1]
    · rw [finish_of_failure hf, hf] at hl
      cases hl

end Glossary

/-! ### Calls -/

/-- A glossary in use, with the journal that it writes to. -/
structure Service where
  glossary : Glossary
  journal : Journal

namespace Service

/-- What can be asked of a glossary. -/
inductive Call where
  /-- To load its terminologies, from the files as they are. -/
  | load (t : FileTree)
  /-- To take a terminology over. -/
  | take (y : Terminology) (source : String)
  /-- To look an entry up. -/
  | lookup (term scopetag vsntag : String)

/-- A call: the glossary after it, and its failure if it fails. -/
def call (s : Service) : Call → Service × Option Failure
  | .load t =>
    let l := s.glossary.load t s.journal
    (⟨l.glossary, l.journal⟩, l.failure)
  | .take y source =>
    let (i, e) := Intake.take s.glossary s.journal y source
    (⟨i.glossary, i.journal⟩, e.map .mishap)
  | .lookup term scopetag vsntag =>
    (s, match s.glossary.lookup term scopetag vsntag with
      | .ok _ => none
      | .error f => some f)

/-- The glossary after calls, one after the other. -/
def after (s : Service) : List Call → Service
  | [] => s
  | c :: cs => (s.call c).1.after cs

theorem after_append (s : Service) (cs ds : List Call) :
    s.after (cs ++ ds) = (s.after cs).after ds := by
  induction cs generalizing s with
  | nil => rfl
  | cons c cs ih => exact ih _

theorem after_concat (s : Service) (before : List Call) (c : Call) :
    s.after (before ++ [c]) = ((s.after before).call c).1 := after_append s before [c]

theorem after_load (s : Service) (before : List Call) (t : FileTree) (later : List Call) :
    s.after (before ++ .load t :: later) = (s.after (before ++ [.load t])).after later := by
  rw [← after_append, List.append_assoc, List.singleton_append]

/-- The entries that a call adds to those that are there, for a scope with a website. -/
def Call.adds (website : String) : Call → List Entry
  | .take y _ => y.acceptedEntries website
  | _ => []

/-- A call is a load that goes through. -/
def Loads (s : Service) (c : Call) : Prop := ∃ t, c = .load t ∧ (s.call c).2 = none

/-- None of some calls is a load that goes through. -/
def NoneLoads (s : Service) : List Call → Prop
  | [] => True
  | c :: cs => ¬ s.Loads c ∧ (s.call c).1.NoneLoads cs

/-- The glossary that a call leaves, and its failure. -/
inductive Comes (g : Glossary) : Call → Glossary → Option Failure → Prop
  /-- The directory of the terminologies cannot be searched, and nothing changes. -/
  | unsearched {t e} : searchError? t g.directory = some e →
      Comes g (.load t) g (some (.mishap (.listing e)))
  /-- There is no terminology to load, and nothing changes. -/
  | missing {t} : (∀ name, ¬ g.HasTerminology t name) →
      Comes g (.load t) g (some (.noTerminology g.directory.text))
  /-- A load fails at a terminology: what had come in before stays. -/
  | broken {t es g' f} : g.emptied.Extends es g' → ¬ Failure.FindsNothing f →
      Comes g (.load t) g' (some f)
  /-- All terminologies are loaded. -/
  | built {t es g'} : g.Built t es → g.emptied.Extends es g' →
      Comes g (.load t) { g' with ready := true } none
  /-- Entries of a terminology come in. -/
  | added {y source g' f} : g.Extends (y.acceptedEntries g.website) g' →
      Comes g (.take y source) g' f
  /-- A lookup changes nothing. -/
  | asked {term scopetag vsntag f} : Comes g (.lookup term scopetag vsntag) g f

section Calls

-- nothing is to be loaded or taken over by computation here
seal Glossary.load Intake.take

/-- **A call comes to one of these.** -/
theorem comes_call (s : Service) (c : Call) :
    Comes s.glossary c (s.call c).1.glossary (s.call c).2 := by
  cases c with
  | load t =>
    show Comes s.glossary (.load t) (s.glossary.load t s.journal).glossary
      (s.glossary.load t s.journal).failure
    rcases Glossary.load_cases t s.glossary s.journal with
      ⟨e, hs, heq⟩ | ⟨hnone, heq⟩ | ⟨es, hext, hfail, hne⟩ | ⟨es, g', hbuilt, hext, heq, hfail⟩
    · rw [heq]
      exact .unsearched hs
    · rw [heq]
      exact .missing hnone
    · obtain ⟨f, hf⟩ := Option.ne_none_iff_exists'.mp hfail
      rw [hf]
      exact .broken hext (hne f hf)
    · rw [heq, hfail]
      exact .built hbuilt hext
  | take y source => exact .added (extends_take s.glossary s.journal y source)
  | lookup => exact .asked

/-- A load that goes through leaves what the same load makes of any glossary for the scope. -/
theorem load_eq {s : Service} {t : FileTree} {g : Glossary} (hs : s.glossary.emptied = g.emptied)
    (hl : (s.call (.load t)).2 = none) (k : Journal) :
    (s.call (.load t)).1.glossary = (g.load t k).glossary :=
  Glossary.load_of_emptied hs hl k

end Calls

/-! ### What calls leave alone -/

variable {s : Service} {g g' : Glossary} {c : Call} {cs : List Call} {f : Option Failure}

/-- A call keeps the scope of a glossary. -/
theorem Comes.emptied (h : Comes g c g' f) : g'.emptied = g.emptied := by
  cases h with
  | unsearched => rfl
  | missing => rfl
  | broken hext => exact hext.like.emptied
  | built _ hext => exact hext.like.emptied
  | added hext => exact hext.like.emptied
  | asked => rfl

/-- A call keeps the index of a glossary right. -/
theorem Comes.indexed (h : Comes g c g' f) (hg : g.Indexed) : g'.Indexed := by
  cases h with
  | unsearched => exact hg
  | missing => exact hg
  | broken hext => exact hext.indexed g.indexed_emptied
  | built _ hext => exact hext.indexed g.indexed_emptied
  | added hext => exact hext.indexed hg
  | asked => exact hg

/-- A call that is no load that goes through leaves a glossary ready only if it was, and then
entries come in behind those that were there. -/
theorem Comes.extends (h : Comes g c g' f) (hc : ∀ t, c = .load t → f ≠ none)
    (hready : g'.ready = true) : g.ready = true ∧ g.Extends (c.adds g.website) g' := by
  cases h with
  | unsearched => exact ⟨hready, .refl g⟩
  | missing => exact ⟨hready, .refl g⟩
  | broken hext =>
    rw [hext.like.ready] at hready
    cases hready
  | built => exact absurd rfl (hc _ rfl)
  | added hext =>
    rw [hext.like.ready] at hready
    exact ⟨hready, hext⟩
  | asked => exact ⟨hready, .refl g⟩

/-- A load that goes through leaves the entries of all terminologies, and no others. -/
theorem Comes.entries {t : FileTree} (h : Comes g (.load t) g' none) :
    ∃ es, g.Built t es ∧ g'.entries = es := by
  cases h with
  | built hbuilt hext => exact ⟨_, hbuilt, hext.entries⟩

/-- A load that fails at a terminology leaves a glossary that is not ready. -/
theorem Comes.not_ready {t : FileTree} {e : Failure} (h : Comes g (.load t) g' (some e))
    (he : ¬ e.FindsNothing) : g'.ready = false := by
  cases h with
  | unsearched => exact absurd (.listing _) he
  | missing => exact absurd (.noTerminology _) he
  | broken hext => exact hext.like.ready

/-- A load that finds nothing to load leaves a glossary as it is. -/
theorem Comes.unchanged {t : FileTree} {e : Failure} (h : Comes g (.load t) g' (some e))
    (he : e.FindsNothing) : g' = g := by
  cases h with
  | unsearched => rfl
  | missing => rfl
  | broken _ hne => exact absurd he hne

theorem emptied_after (s : Service) (cs : List Call) :
    (s.after cs).glossary.emptied = s.glossary.emptied := by
  induction cs generalizing s with
  | nil => rfl
  | cons c cs ih => exact (ih _).trans (s.comes_call c).emptied

/-- **The index of a glossary stays right, whatever is called.** -/
theorem indexed_after (hs : s.glossary.Indexed) (cs : List Call) :
    (s.after cs).glossary.Indexed := by
  induction cs generalizing s with
  | nil => exact hs
  | cons c cs ih => exact ih ((s.comes_call c).indexed hs)

theorem indexed_of_fresh (admin : ScopeAdmin) (scopedir : Path) (j : Journal)
    (calls : List Call) : (Service.after ⟨{ admin, scopedir }, j⟩ calls).glossary.Indexed :=
  indexed_after (s := ⟨{ admin, scopedir }, j⟩) (fun _ => rfl) calls

/-- **A lookup finds what a search of all entries finds**, and only a glossary that is ready
answers. -/
theorem lookup_finds_first (admin : ScopeAdmin) (scopedir : Path) (j : Journal)
    (calls : List Call) (term scopetag vsntag : String) :
    let g := (Service.after ⟨{ admin, scopedir }, j⟩ calls).glossary
    g.lookup term scopetag vsntag =
      if g.ready then .ok (firstFor? g.entries term scopetag vsntag) else .error .notReady := by
  intro g
  exact (indexed_of_fresh admin scopedir j calls).lookup term scopetag vsntag

/-! ### The last load -/

/-- Calls with a load among them that goes through, and none after it that does. -/
structure LastLoad (s : Service) (calls before : List Call) (t : FileTree) (later : List Call) :
    Prop where
  calls : calls = before ++ .load t :: later
  through : ((s.after before).call (.load t)).2 = none
  last : (s.after (before ++ [.load t])).NoneLoads later

/-- Some load is the last that goes through, or none does. -/
theorem lastLoad_or_noneLoads (s : Service) (calls : List Call) :
    s.NoneLoads calls ∨ ∃ before t later, s.LastLoad calls before t later := by
  induction calls generalizing s with
  | nil => exact .inl trivial
  | cons c calls ih =>
    rcases ih (s.call c).1 with hnone | ⟨before, t, later, rfl, hthrough, hlast⟩
    · by_cases hc : s.Loads c
      · obtain ⟨t, rfl, hthrough⟩ := hc
        exact .inr ⟨[], t, calls, rfl, hthrough, hnone⟩
      · exact .inl ⟨hc, hnone⟩
    · exact .inr ⟨c :: before, t, later, rfl, hthrough, hlast⟩

/-- **Without a load that goes through, a glossary is ready only if it was**, and then entries
have come in behind those that were there. -/
theorem NoneLoads.extends (h : s.NoneLoads cs) (hready : (s.after cs).glossary.ready = true) :
    s.glossary.ready = true ∧
      s.glossary.Extends (cs.flatMap (Call.adds s.glossary.website)) (s.after cs).glossary := by
  induction cs generalizing s with
  | nil => exact ⟨hready, .refl _⟩
  | cons c cs ih =>
    obtain ⟨hc, hcs⟩ := h
    obtain ⟨hnext, hext⟩ := ih hcs hready
    have hnone : ∀ t, c = .load t → (s.call c).2 ≠ none := fun t ht hf => hc ⟨t, ht, hf⟩
    obtain ⟨hs, hadds⟩ := (s.comes_call c).extends hnone hnext
    rw [hadds.like.website] at hext
    rw [List.flatMap_cons]
    exact ⟨hs, hadds.trans hext⟩

/-- A glossary that has become ready has been loaded. -/
theorem exists_lastLoad {calls : List Call} (hs : s.glossary.ready = false)
    (hready : (s.after calls).glossary.ready = true) :
    ∃ before t later, s.LastLoad calls before t later := by
  rcases lastLoad_or_noneLoads s calls with hnone | hlast
  · rw [(hnone.extends hready).1] at hs
    cases hs
  · exact hlast

/-- What calls have made of a glossary. -/
structure Accounted (start : Service) (calls : List Call) : Prop where
  /-- If it is ready, it is what the last load would have made of it at the start, with the
  entries of all terminologies that there were, and behind them those added since. -/
  answers : (start.after calls).glossary.ready = true → ∃ before t later es,
    start.LastLoad calls before t later ∧ start.glossary.Built t es ∧
      (∀ k, (start.after (before ++ [.load t])).glossary = (start.glossary.load t k).glossary) ∧
      (start.after calls).glossary.entries =
        es ++ later.flatMap (Call.adds start.glossary.website)
  /-- Once a load has failed at a terminology, it does not answer before a load goes through. -/
  broken : ∀ before t later e, calls = before ++ .load t :: later →
    ((start.after before).call (.load t)).2 = some e → ¬ e.FindsNothing →
    (start.after (before ++ [.load t])).NoneLoads later →
    (start.after calls).glossary.ready = false ∧ ∀ term scopetag vsntag,
      (start.after calls).glossary.lookup term scopetag vsntag = .error .notReady
  /-- A load that fails for want of terminologies, or because there is no looking for any, leaves
  it as it is. -/
  missing : ∀ before t e, calls = before ++ [.load t] →
    ((start.after before).call (.load t)).2 = some e → e.FindsNothing →
    (start.after calls).glossary = (start.after before).glossary

/-- What a glossary that is ready holds behind its last load. -/
theorem LastLoad.answers {calls before later : List Call} {t : FileTree}
    (h : s.LastLoad calls before t later) (hready : (s.after calls).glossary.ready = true) :
    ∃ es, s.glossary.Built t es ∧
      (∀ k, (s.after (before ++ [.load t])).glossary = (s.glossary.load t k).glossary) ∧
      (s.after calls).glossary.entries = es ++ later.flatMap (Call.adds s.glossary.website) := by
  obtain ⟨rfl, hthrough, hlast⟩ := h
  have hscope := s.emptied_after before
  have hcomes := (s.after before).comes_call (.load t)
  rw [hthrough] at hcomes
  obtain ⟨es, hbuilt, hentries⟩ := hcomes.entries
  rw [after_load s before t later] at hready ⊢
  -- entries that have come in since stand behind those of the load
  obtain ⟨-, hext⟩ := hlast.extends hready
  refine ⟨es, ?_, fun k => ?_, ?_⟩
  · exact Glossary.Built.of_emptied hscope hbuilt
  · rw [after_concat]
    exact load_eq hscope hthrough k
  · have hwebsite := Glossary.website_of_emptied (s.emptied_after (before ++ [.load t]))
    rw [hext.entries, hwebsite, after_concat, hentries]

/-- **A glossary answers only from what its last load has built, and what has been added
since**, whatever has been called before and whatever the files were then. -/
theorem answers_from_last_load (admin : ScopeAdmin) (scopedir : Path) (j : Journal)
    (calls : List Call) : Accounted ⟨{ admin, scopedir }, j⟩ calls where
  answers := by
    intro hready
    obtain ⟨before, t, later, hlast⟩ := exists_lastLoad rfl hready
    obtain ⟨es, hbuilt, hload, hentries⟩ := hlast.answers hready
    exact ⟨before, t, later, es, hlast, hbuilt, hload, hentries⟩
  broken := by
    rintro before t later e rfl hfail he hlast
    have hcomes := (Service.after ⟨{ admin, scopedir }, j⟩ before).comes_call (.load t)
    rw [hfail, ← after_concat] at hcomes
    have hbroken := hcomes.not_ready he
    rw [after_load]
    generalize Service.after _ (before ++ [.load t]) = s at hbroken hlast ⊢
    have hready : (s.after later).glossary.ready = false := by
      by_contra hready
      have hs := (hlast.extends (Bool.eq_true_of_not_eq_false hready)).1
      rw [hbroken] at hs
      cases hs
    refine ⟨hready, fun term scopetag vsntag => ?_⟩
    rw [Glossary.lookup, hready]
    rfl
  missing := by
    rintro before t e rfl hfail he
    have hcomes := (Service.after ⟨{ admin, scopedir }, j⟩ before).comes_call (.load t)
    rw [hfail, ← after_concat] at hcomes
    exact hcomes.unchanged he

end Service

end TermRef
