/-
TermRef/Proofs/Glossary/Build.lean

What a glossary holds once its terminologies have been loaded.

Whatever comes into a glossary comes in at the end, of its entries and of what its index has for
each key (`Glossary.Extends`); nothing else about it changes.  A terminology brings the entries
that its own entries are admitted with, up to the first that is refused (`extends_take`).

`Loads` follows an attempt to load terminologies from name to name.  If the attempt goes through
every terminology has been read, and the glossary has gained the entries of all of them in turn
(`Loads.complete`); in the report nothing has changed but for warnings of entries that were
left out (`Loads.drops`).  So a load leaves the glossary alone, or leaves it behind in part and
not ready, or makes it ready with exactly the entries of the terminologies that there are
(`load_cases`).  The names of these are known without loading any (`lists_terminologyNames`).
-/
import Mathlib.Data.List.Forall2
import Mathlib.Data.List.Nodup
import Mathlib.Data.List.TakeWhile
import Mathlib.Data.String.Basic
import TermRef.Proofs.Files.Change
import TermRef.Proofs.Glossary.Load

namespace TermRef

/-! ### Entries that come in -/

namespace Glossary

/-- A glossary has gained some entries, and is otherwise like it was. -/
structure Extends (g : Glossary) (es : List Entry) (g' : Glossary) : Prop where
  like : g'.Like g
  entries : g'.entries = g.entries ++ es
  index : ∀ k, g'.index.get k = g.index.get k ++ es.filter fun e => e.key = k

theorem Extends.refl (g : Glossary) : g.Extends [] g where
  like := .refl g
  entries := (List.append_nil _).symm
  index _ := (List.append_nil _).symm

theorem Extends.trans {g g' g'' : Glossary} {es fs : List Entry} (h : g.Extends es g')
    (h' : g'.Extends fs g'') : g.Extends (es ++ fs) g'' where
  like := h'.like.trans h.like
  entries := by rw [h'.entries, h.entries, List.append_assoc]
  index k := by rw [h'.index, h.index, List.filter_append, List.append_assoc]

theorem extends_foldl_add (es : List Entry) (g : Glossary) :
    g.Extends es (es.foldl Glossary.add g) := by
  rw [foldl_add]
  exact ⟨⟨rfl, rfl, rfl⟩, rfl, get_foldl_add es g.index⟩

/-- The index of a glossary has the entries of every key, in their order. -/
def Indexed (g : Glossary) : Prop := ∀ k, g.index.get k = g.entries.filter fun e => e.key = k

/-- An index stays right while entries come in. -/
theorem Extends.indexed {g g' : Glossary} {es : List Entry} (h : g.Extends es g')
    (hg : g.Indexed) : g'.Indexed := by
  intro k
  rw [h.index, h.entries, hg k, List.filter_append]

theorem indexed_emptied (g : Glossary) : g.emptied.Indexed := fun _ => rfl

end Glossary

/-- A journal has gained warnings of entries that were left out, and notes. -/
def Journal.Drops (j j' : Journal) : Prop :=
  ∃ ds : List Diagnostic, (∀ d ∈ ds, d.kind = .invalidEntry) ∧
    j'.report = { j.report with diagnostics := j.report.diagnostics ++ ds }

theorem Journal.Drops.refl (j : Journal) : j.Drops j := ⟨[], by simp, by simp⟩

theorem Journal.Drops.trans {j j' j'' : Journal} (h : j.Drops j') (h' : j'.Drops j'') :
    j.Drops j'' := by
  obtain ⟨ds, hds, hj⟩ := h
  obtain ⟨ds', hds', hj'⟩ := h'
  refine ⟨ds ++ ds', fun d hd => ?_, ?_⟩
  · rcases List.mem_append.mp hd with hd | hd
    · exact hds d hd
    · exact hds' d hd
  · rw [hj', hj, List.append_assoc]

/-! ### One terminology -/

/-- Why an entry is refused, if it is. -/
def Admission.error? : Admission → Option Mishap
  | refused m => some m
  | _ => none

namespace Terminology

/-- What becomes of the entries of a terminology, for a scope with a website. -/
def admissions (website : String) (y : Terminology) : List Admission :=
  admissionsFrom website y.info.altvsntags 1 y.entries

/-- The entries of a terminology, each with its further forms. -/
def runtimeEntries (website : String) (y : Terminology) : List Entry :=
  (y.admissions website).flatMap Admission.entries

/-- Those up to the first that is refused. -/
def acceptedEntries (website : String) (y : Terminology) : List Entry :=
  ((y.admissions website).takeWhile fun a => a.error?.isNone).flatMap Admission.entries

end Terminology

/-- An intake settles what is not refused, up to the first that is. -/
theorem takeFrom_eq (source : String) (altvsntags : List String) (n : Nat) (vs : List Value)
    (i : Intake) : Intake.takeFrom source altvsntags n vs i =
      (i.settle source ((admissionsFrom i.glossary.website altvsntags n vs).takeWhile
          fun a => a.error?.isNone),
        (admissionsFrom i.glossary.website altvsntags n vs).findSome? Admission.error?) := by
  induction vs generalizing n i with
  | nil => rfl
  | cons v vs ih =>
    rw [admissionsFrom_cons, Intake.takeFrom]
    rcases hv : Admission.ofValue i.glossary.website altvsntags n v with e | why | e
    · dsimp only
      rw [ih, Intake.website_accept, Intake.accept_settle]
      rfl
    · dsimp only
      have hsite : (i.drop source why).glossary.website = i.glossary.website := rfl
      rw [ih, hsite, Intake.drop_settle]
      rfl
    · rfl

theorem take_eq (g : Glossary) (j : Journal) (y : Terminology) (source : String) :
    Intake.take g j y source =
      (({ glossary := g, journal := j } : Intake).settle source
          ((y.admissions g.website).takeWhile fun a => a.error?.isNone),
        (y.admissions g.website).findSome? Admission.error?) :=
  takeFrom_eq source y.info.altvsntags 1 y.entries _

/-- Taking a terminology over brings in the entries that it is not refused. -/
theorem extends_take (g : Glossary) (j : Journal) (y : Terminology) (source : String) :
    g.Extends (y.acceptedEntries g.website) (Intake.take g j y source).1.glossary := by
  rw [take_eq]
  exact Glossary.extends_foldl_add _ g

/-- Its other entries are warned of. -/
theorem drops_take (g : Glossary) (j : Journal) (y : Terminology) (source : String) :
    j.Drops (Intake.take g j y source).1.journal := by
  rw [take_eq]
  refine ⟨_, fun d hd => ?_, foldl_warn_report _ j⟩
  obtain ⟨a, -, ha⟩ := List.mem_filterMap.mp hd
  cases a with
  | dropped why =>
    obtain rfl := Option.some.inj ha
    rfl
  | admitted => cases ha
  | refused => cases ha

/-- An intake that goes through has refused nothing, so it does not stop before the end. -/
theorem admissions_of_take {g : Glossary} {j : Journal} {y : Terminology} {source : String}
    (h : (Intake.take g j y source).2 = none) :
    (∀ a ∈ y.admissions g.website, a.error? = none) ∧
      ((y.admissions g.website).takeWhile fun a => a.error?.isNone) = y.admissions g.website := by
  rw [take_eq] at h
  have hnone := List.findSome?_eq_none_iff.mp h
  exact ⟨hnone, List.takeWhile_eq_self_iff.mpr fun a ha =>
    Option.isNone_iff_eq_none.mpr (hnone a ha)⟩

/-- If nothing is refused, all entries come in. -/
theorem acceptedEntries_eq (g : Glossary) (j : Journal) (y : Terminology) (source : String)
    (h : (Intake.take g j y source).2 = none) :
    y.acceptedEntries g.website = y.runtimeEntries g.website := by
  rw [Terminology.acceptedEntries, (admissions_of_take h).2, Terminology.runtimeEntries]

/-! ### One after the other -/

/-- A load fails because there is nothing that it could load: it finds no terminology, or its
directory cannot be searched for any. -/
inductive Failure.FindsNothing : Failure → Prop
  | noTerminology (d : String) : FindsNothing (.noTerminology d)
  | listing (e : FileError) : FindsNothing (.mishap (.listing e))

namespace Loading

/-- How an attempt to load terminologies goes: from where, and what it comes to. -/
inductive Loads (t : FileTree) : List String → Glossary → Journal → Loading → Prop
  /-- No terminology is left. -/
  | done {g j} : Loads t [] g j ⟨g, j, none⟩
  /-- The next one cannot be read. -/
  | unread {name names g j e} :
      t.mapping (g.pathOf name) Terminology.ofEntries = .error e →
      Loads t (name :: names) g j ⟨g, j, some (.ofMapping (.terminology (g.pathOf name)) e)⟩
  /-- An entry of it is refused. -/
  | refused {name names g j y i m} :
      t.mapping (g.pathOf name) Terminology.ofEntries = .ok y →
      Intake.take g j y (g.pathOf name) = (i, some m) →
      Loads t (name :: names) g j ⟨i.glossary, i.journal, some (.mishap m)⟩
  /-- It is taken over, and the attempt goes on. -/
  | taken {name names g j y i l} :
      t.mapping (g.pathOf name) Terminology.ofEntries = .ok y →
      Intake.take g j y (g.pathOf name) = (i, none) →
      Loads t names i.glossary (i.journal.note .glossary .info (takenNote i name)) l →
      Loads t (name :: names) g j l

theorem loads_loadFrom (t : FileTree) (names : List String) (g : Glossary) (j : Journal) :
    Loads t names g j (loadFrom t names g j) := by
  induction names generalizing g j with
  | nil => exact .done
  | cons name names ih =>
    rw [loadFrom_cons]
    rcases hm : t.mapping (g.pathOf name) Terminology.ofEntries with e | y
    · exact .unread hm
    · dsimp only
      rcases ht : Intake.take g j y (g.pathOf name) with ⟨i, - | m⟩
      · exact .taken hm ht (ih _ _)
      · exact .refused hm ht

variable {t : FileTree} {names : List String} {g : Glossary} {j : Journal} {l : Loading}

/-- What has come in stays, however the attempt ends. -/
theorem Loads.extends (h : Loads t names g j l) : ∃ es, g.Extends es l.glossary := by
  induction h with
  | done => exact ⟨[], .refl _⟩
  | unread => exact ⟨[], .refl _⟩
  | @refused name names g j y i m _ ht =>
    have htake := extends_take g j y (g.pathOf name)
    rw [ht] at htake
    exact ⟨_, htake⟩
  | @taken name names g j y i l _ ht _ ih =>
    have htake := extends_take g j y (g.pathOf name)
    rw [ht] at htake
    obtain ⟨es, hes⟩ := ih
    exact ⟨_, htake.trans hes⟩

/-- **An attempt that goes through brings in the entries of all terminologies.** -/
theorem Loads.complete (h : Loads t names g j l) (hl : l.failure = none) :
    ∃ ys, List.Forall₂
        (fun name y => t.mapping (g.pathOf name) Terminology.ofEntries = .ok y) names ys ∧
      g.Extends (ys.flatMap fun y => y.runtimeEntries g.website) l.glossary := by
  induction h with
  | done => exact ⟨[], .nil, .refl _⟩
  | unread => cases hl
  | refused => cases hl
  | @taken name names g j y i l hm ht _ ih =>
    obtain ⟨ys, hys, hext⟩ := ih hl
    have htake := extends_take g j y (g.pathOf name)
    have hall := acceptedEntries_eq g j y (g.pathOf name)
    rw [ht] at htake hall
    rw [hall rfl] at htake
    -- where files are looked for, and the website, stay while entries come in
    have hlike : i.glossary.Like g := htake.like
    rw [show i.glossary.website = g.website from hlike.website] at hext
    refine ⟨y :: ys, .cons hm (hys.imp fun name y hy => hlike.pathOf name ▸ hy), ?_⟩
    rw [List.flatMap_cons]
    exact htake.trans hext

/-- An attempt warns of entries that are left out, and of nothing else. -/
theorem Loads.drops (h : Loads t names g j l) : j.Drops l.journal := by
  induction h with
  | done => exact .refl _
  | unread => exact .refl _
  | @refused name names g j y i m _ ht =>
    have htake := drops_take g j y (g.pathOf name)
    rwa [ht] at htake
  | @taken name names g j y i l _ ht _ ih =>
    have htake := drops_take g j y (g.pathOf name)
    rw [ht] at htake
    exact htake.trans ih

/-- An attempt with terminologies at hand does not fail for want of them. -/
theorem Loads.not_findsNothing (h : Loads t names g j l) (f : Failure) (hf : l.failure = some f) :
    ¬ f.FindsNothing := by
  induction h with
  | done => cases hf
  | @unread name names g j e hm =>
    obtain rfl := Option.some.inj hf
    rintro hnothing
    rcases e with y | m
    · cases hnothing
    · -- what upsets the reading of a file is none of a directory
      cases hnothing
      cases mapping_eq_mishap.mp hm
  | @refused name names g j y i m _ ht =>
    obtain rfl := Option.some.inj hf
    rintro hnothing
    cases hnothing with
    | listing e =>
      obtain ⟨v, -, hv⟩ := Intake.exists_refused_of_take (congrArg Prod.snd ht)
      exact hv.ne_listing e rfl
  | taken _ _ _ ih => exact ih hf

end Loading

/-! ### All that there are -/

namespace Glossary

/-- The directory of a glossary has the file of a terminology with a name. -/
def HasTerminology (g : Glossary) (t : FileTree) (name : String) : Prop :=
  ∃ p b, t.find g.directory.text = .ok (p, some .directory) ∧
    t.item? (p ++ [name]) = some (.file b) ∧
    matchesName Failure.terminologyWildcard name = true

/-- The names of all terminologies that there are, in order. -/
structure Lists (g : Glossary) (t : FileTree) (names : List String) : Prop where
  mem : ∀ name, name ∈ names ↔ g.HasTerminology t name
  sorted : names.Pairwise (· ≤ ·)
  nodup : (t.items.map Prod.fst).Nodup → names.Nodup

/-- The entries of all terminologies that there are, in the order of their names. -/
def Built (g : Glossary) (t : FileTree) (es : List Entry) : Prop :=
  ∃ names ys, g.Lists t names ∧ names ≠ [] ∧
    List.Forall₂ (fun name y => t.mapping (g.pathOf name) Terminology.ofEntries = .ok y) names ys ∧
    es = ys.flatMap fun y => y.runtimeEntries g.website

/-- Every terminology that there is has been read, and its entries are among them. -/
theorem Built.exists_of_hasTerminology {g : Glossary} {t : FileTree} {es : List Entry}
    {name : String} (h : g.Built t es) (hname : g.HasTerminology t name) :
    ∃ y, t.mapping (g.pathOf name) Terminology.ofEntries = .ok y ∧
      y.runtimeEntries g.website ⊆ es := by
  obtain ⟨names, ys, hlists, -, hys, rfl⟩ := h
  obtain ⟨y, hy, hread⟩ : ∃ y ∈ ys,
      t.mapping (g.pathOf name) Terminology.ofEntries = .ok y := by
    have hmem := (hlists.mem name).mpr hname
    clear hlists
    induction hys with
    | nil => cases hmem
    | cons hy _ ih =>
      rcases List.mem_cons.mp hmem with rfl | hmem
      · exact ⟨_, List.mem_cons_self, hy⟩
      · obtain ⟨y, hy', hread⟩ := ih hmem
        exact ⟨y, List.mem_cons_of_mem _ hy', hread⟩
  exact ⟨y, hread, fun e he => List.mem_flatMap.mpr ⟨y, hy, he⟩⟩

end Glossary

/-- **The names under which terminologies are loaded are those of all that there are.** -/
theorem lists_terminologyNames (g : Glossary) (t : FileTree) :
    g.Lists t (terminologyNames t g.directory) := by
  rw [terminologyNames]
  split
  · rename_i p hp
    refine ⟨fun name => ?_, ?_, fun hnodup => ?_⟩
    · rw [List.mem_mergeSort, List.mem_filter, Bool.and_eq_true]
      constructor
      · rintro ⟨-, hmatch, hitem⟩
        rcases hi : t.item? (p ++ [name]) with - | (b | -)
        · rw [hi] at hitem
          cases hitem
        · exact ⟨p, b, hp, hi, hmatch⟩
        · rw [hi] at hitem
          cases hitem
      · rintro ⟨p', b, hp', hi, hmatch⟩
        obtain rfl : p = p' := (Prod.mk.inj (Except.ok.inj (hp.symm.trans hp'))).1
        exact ⟨FileTree.mem_childNames_of_item? hi, hmatch, by rw [hi]⟩
    · have hsorted := @List.pairwise_mergeSort String (fun a b => decide (a ≤ b))
        (fun a b c hab hbc => decide_eq_true (le_trans (of_decide_eq_true hab)
          (of_decide_eq_true hbc)))
        (fun a b => by
          rw [Bool.or_eq_true, decide_eq_true_iff, decide_eq_true_iff]
          exact le_total a b)
      exact (hsorted _).imp fun h => of_decide_eq_true h
    · refine (List.mergeSort_perm _ _).nodup_iff.mpr (.filter _ ?_)
      rw [FileTree.childNames_eq]
      refine hnodup.filterMap fun q q' name hq hq' => ?_
      rw [Option.mem_def, FileTree.childName?_eq_some] at hq hq'
      exact hq.trans hq'.symm
  · rename_i hnone
    refine ⟨fun name => ⟨fun h => (List.not_mem_nil h).elim, ?_⟩, .nil, fun _ => .nil⟩
    rintro ⟨p, b, hp, -, -⟩
    exact (hnone p hp).elim

/-! ### The attempt -/

namespace Glossary

open Loading

theorem pathOf_emptied (g : Glossary) (name : String) : g.emptied.pathOf name = g.pathOf name := rfl

theorem website_emptied (g : Glossary) : g.emptied.website = g.website := rfl

/-- **What a load makes of a glossary.**  If it finds nothing to load the glossary is left alone;
otherwise it is emptied, and ready again only when the entries of all terminologies are in it. -/
theorem load_cases (t : FileTree) (g : Glossary) (j : Journal) :
    (∃ e, searchError? t g.directory = some e ∧
      g.load t j = ⟨g, j, some (.mishap (.listing e))⟩) ∨
    ((∀ name, ¬ g.HasTerminology t name) ∧
      g.load t j = ⟨g, j, some (.noTerminology g.directory.text)⟩) ∨
    (∃ es, g.emptied.Extends es (g.load t j).glossary ∧ (g.load t j).failure ≠ none ∧
      ∀ f, (g.load t j).failure = some f → ¬ f.FindsNothing) ∨
    (∃ es g', g.Built t es ∧ g.emptied.Extends es g' ∧
      (g.load t j).glossary = { g' with ready := true } ∧ (g.load t j).failure = none) := by
  have hlists := lists_terminologyNames g t
  rcases load_starts t g j with herror | ⟨hnil, heq⟩ | ⟨-, hne, heq⟩
  · exact .inl herror
  · refine .inr (.inl ⟨fun name hname => ?_, heq⟩)
    have hmem := (hlists.mem name).mpr hname
    rw [hnil] at hmem
    cases hmem
  · right
    right
    have hloads := loads_loadFrom t (terminologyNames t g.directory) g.emptied j
    rw [heq]
    rcases hfail : (loadFrom t (terminologyNames t g.directory) g.emptied j).failure with - | f
    · right
      obtain ⟨ys, hys, hext⟩ := hloads.complete hfail
      simp only [pathOf_emptied, website_emptied] at hys hext
      refine ⟨_, _, ⟨_, ys, hlists, hne, hys, rfl⟩, hext, ?_, ?_⟩
      · rw [finish, hfail]
      · rw [finish, hfail]
    · left
      rw [finish_of_failure hfail]
      obtain ⟨es, hext⟩ := hloads.extends
      exact ⟨es, hext, by simp [hfail], hloads.not_findsNothing⟩

theorem finish_report (l : Loading) (n : Nat) :
    (l.finish n).journal.report = l.journal.report := by
  rw [finish]
  split <;> rfl

/-- A load warns of entries that are left out, and of nothing else. -/
theorem drops_load (t : FileTree) (g : Glossary) (j : Journal) : j.Drops (g.load t j).journal := by
  rcases load_starts t g j with ⟨e, -, heq⟩ | ⟨-, heq⟩ | ⟨-, -, heq⟩
  · rw [heq]
    exact .refl j
  · rw [heq]
    exact .refl j
  · obtain ⟨ds, hds, hreport⟩ :=
      (loads_loadFrom t (terminologyNames t g.directory) g.emptied j).drops
    rw [heq]
    exact ⟨ds, hds, (finish_report _ _).trans hreport⟩

/-- A load that goes through makes the glossary ready. -/
theorem ready_of_load {t : FileTree} {g : Glossary} {j : Journal}
    (h : (g.load t j).failure = none) : (g.load t j).glossary.ready = true := by
  rcases load_cases t g j with ⟨e, -, heq⟩ | ⟨-, heq⟩ | ⟨-, -, hne, -⟩ | ⟨-, g', -, -, heq, -⟩
  · rw [heq] at h
    cases h
  · rw [heq] at h
    cases h
  · exact absurd h hne
  · rw [heq]

end Glossary

end TermRef
