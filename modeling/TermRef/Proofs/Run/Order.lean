/-
TermRef/Proofs/Run/Order.lean

The order in which files are converted.

Files are separable if their conversions are written to different paths, none of which leads
through another or to one of the files (`Separable`).  Then any two of them are separate, since all
conversions are written below one directory (`Separable.separate`).

On a tour of such files each visit comes to what it would have come to at the start, and what has
changed at a place in the end is what some visit would have changed there at the start
(`Tour.alike`).  So the order of the files does not matter for what is in the tree in the end, and
matters for the report only in the order of its records (`processAll_perm`).  One thing is left: the
cause given why a conversion could not be written (`SameFault`).  What bars the way to it may lie
behind a directory that is missing, and another file may have had that made
(`causes_depend_on_order`).
-/
import Mathlib.Data.List.Forall2
import Mathlib.Data.List.Pairwise
import Mathlib.Data.List.Perm.Basic
import TermRef.Proofs.Run.Elsewhere

namespace TermRef

open FileTree

/-- Two records are the same, or tell of one file that its conversion cannot be written to one path,
for causes that may differ. -/
def SameFault (d d' : Diagnostic) : Prop :=
  d = d' ∨ ∃ file target cause cause',
    d = .unwritten file target cause ∧ d' = .unwritten file target cause'

theorem forall₂_sameFault (es : List Diagnostic) : List.Forall₂ SameFault es es :=
  List.forall₂_same.mpr fun _ _ => .inl rfl

namespace Run

variable {r s s' start last : Run} {p q : Path} {ps ps' : List Path} {v w w' : Visit}
  {vs vs' : List (Path × Visit)}

/-- The errors of two visits of one file, if each comes to what it would have come to at the start,
are the same faults. -/
theorem Alike.sameFault (h : r.Alike p v w) (h' : r.Alike p v w') :
    List.Forall₂ SameFault w.errors w'.errors := by
  rcases h.errors with heq | ⟨cause, cause₁, hv, hw⟩
  · rcases h'.errors with heq' | ⟨cause, cause₂, hv, hw'⟩
    · rw [heq, heq']
      exact forall₂_sameFault _
    · rw [heq, hv, hw']
      exact .cons (.inr ⟨_, _, _, _, rfl, rfl⟩) .nil
  · rcases h'.errors with heq' | ⟨cause, cause₂, -, hw'⟩
    · rw [hw, heq', hv]
      exact .cons (.inr ⟨_, _, _, _, rfl, rfl⟩) .nil
    · rw [hw, hw']
      exact .cons (.inr ⟨_, _, _, _, rfl, rfl⟩) .nil

/-! ### Tours -/

/-- What the visit of a file at the start changes at a place. -/
def newAt (r : Run) (p : Path) (x : Place) : Option Item :=
  r.files.newIn (r.processFile p).2.files x

/-- **On a tour of separate files each visit comes to what it would have come to at the start.** -/
theorem Tour.alike (h : start.Tour vs last) (hg : r.glossary.ready = true)
    (heligible : ∀ v ∈ vs, r.Eligible v.1) (hsep : vs.Pairwise fun v w => r.Separate v.1 w.1)
    (hstart : ∀ v ∈ vs, r.Undisturbed start v.1) :
    (∀ v ∈ vs, ∀ w, r.Visits v.1 w (r.processFile v.1).2 → r.Alike v.1 w v.2) ∧
      ∀ x, last.files.item? x =
        vs.foldl (fun i v => (r.newAt v.1 x).or i) (start.files.item? x) := by
  induction h with
  | done => exact ⟨by simp, fun _ => rfl⟩
  | @visit start next last p v rest hv hkeeps _ ih =>
    obtain ⟨hp, hrest⟩ := List.forall_mem_cons.mp heligible
    obtain ⟨hsep, hseps⟩ := List.pairwise_cons.mp hsep
    obtain ⟨hundisturbed, hstarts⟩ := List.forall_mem_cons.mp hstart
    obtain ⟨w, hw⟩ := exists_visit hg (clears_of_isFile hp.file hp.proper)
    obtain ⟨halike, hitem⟩ := hundisturbed.visit hp hw hv
    -- this visit does not concern the files to come
    obtain ⟨halikes, hitems⟩ := ih hrest hseps fun v' hv' =>
      (hstarts v' hv').step hkeeps (hsep v' hv') (hp.touches hw) hitem
    refine ⟨List.forall_mem_cons.mpr ⟨fun w' hw' => ?_, halikes⟩, fun x => ?_⟩
    · obtain rfl := hw'.unique hw
      exact halike
    · rw [hitems, hitem]
      rfl

theorem Tour.keeps (h : start.Tour vs last) : start.Keeps last := by
  induction h with
  | done => exact .refl _
  | visit _ hkeeps _ ih => exact hkeeps.trans ih

/-! ### Separable files -/

/-- Files whose conversions are written to different paths, none of which leads through another or
to one of the files. -/
structure Separable (r : Run) (ps : List Path) : Prop where
  files : ∀ p ∈ ps, r.files.isFile p.text = true
  outputs : ps.Pairwise fun p q => ¬ (r.outputPath p).parts <+: (r.outputPath q).parts ∧
    ¬ (r.outputPath q).parts <+: (r.outputPath p).parts
  sources : ∀ p ∈ ps, ∀ q ∈ ps,
    (r.files.find p.text).map Prod.fst ≠ .ok (r.files.placeOf (r.outputPath q))

instance (r : Run) (ps : List Path) : Decidable (r.Separable ps) :=
  decidable_of_iff
    ((∀ p ∈ ps, r.files.isFile p.text = true) ∧
      (ps.Pairwise fun p q => ¬ (r.outputPath p).parts <+: (r.outputPath q).parts ∧
        ¬ (r.outputPath q).parts <+: (r.outputPath p).parts) ∧
      ∀ p ∈ ps, ∀ q ∈ ps,
        (r.files.find p.text).map Prod.fst ≠ .ok (r.files.placeOf (r.outputPath q)))
    ⟨fun h => ⟨h.1, h.2.1, h.2.2⟩, fun h => ⟨h.files, h.outputs, h.sources⟩⟩

/-- Settling parts leaves no two dots. -/
theorem not_mem_settle (parts : List String) : ".." ∉ Path.settle parts := by
  have hfold : ∀ done : List String, ".." ∉ done → ".." ∉ parts.foldl Path.follow done := by
    induction parts with
    | nil => exact fun _ h => h
    | cons part parts ih =>
      intro done hdone
      refine ih _ ?_
      rw [Path.follow]
      split
      · exact fun hmem => hdone (List.dropLast_subset _ hmem)
      · rename_i hpart
        simpa using ⟨hdone, Ne.symm hpart⟩
  exact hfold [] (by simp)

theorem not_mem_partsOf (here : Place) (inputRoot path : Path) :
    ".." ∉ partsOf here inputRoot path := by
  have habs : ".." ∉ (path.absolute here).parts := by
    rw [Path.absolute]
    split <;> exact not_mem_settle _
  rw [partsOf, Path.partsFrom?]
  split
  · exact fun hmem => habs (List.mem_of_mem_drop hmem)
  · exact habs

theorem outputPath_parts (r : Run) (p : Path) :
    (r.outputPath p).parts = r.output.parts ++ partsOf r.files.here r.inputRoot p := rfl

/-- The path that a conversion is written to is made of names, if the paths of the run are. -/
theorem proper_outputPath (hout : r.output.Proper) (hhere : Path.Proper ⟨.root, r.files.here⟩)
    (hp : p.Proper) : (r.outputPath p).Proper := by
  intro s hs
  rcases List.mem_append.mp hs with hs | hs
  · exact hout s hs
  · exact (mem_of_mem_partsOf hs).elim (hhere s) (hp s)

/-- A path that leads not through another one below the same directory is not that directory. -/
theorem partsOf_ne_nil (h : ¬ (r.outputPath p).parts <+: (r.outputPath q).parts) :
    partsOf r.files.here r.inputRoot p ≠ [] := by
  intro hnil
  rw [outputPath_parts, outputPath_parts, hnil, List.append_nil] at h
  exact h (List.prefix_append _ _)

namespace Separable

/-- **Separable files are separate**, each from each other. -/
theorem separate (h : r.Separable ps) : ps.Pairwise r.Separate := by
  refine h.outputs.imp_of_mem fun {p q} hp hq hpq => ⟨?_, fun i hi => ?_, fun i hi => ?_⟩
  · refine apart_below _ _ (not_mem_partsOf _ _ _) (not_mem_partsOf _ _ _)
      (partsOf_ne_nil hpq.1) (partsOf_ne_nil hpq.2) ?_ ?_
    · exact fun hpre => hpq.1 ((List.prefix_append_right_inj _).mpr hpre)
    · exact fun hpre => hpq.2 ((List.prefix_append_right_inj _).mpr hpre)
  · exact h.sources p hp q hq (by rw [hi]; rfl)
  · exact h.sources q hq p hp (by rw [hi]; rfl)

/-- If there are several of them, each can be converted. -/
theorem eligible (h : r.Separable (p :: q :: ps))
    (hproper : ∀ p' ∈ p :: q :: ps, (r.outputPath p').Proper) :
    ∀ p' ∈ p :: q :: ps, r.Eligible p' := by
  intro p' hp'
  have hne : partsOf r.files.here r.inputRoot p' ≠ [] := by
    obtain ⟨hpairs, -⟩ := List.pairwise_cons.mp h.outputs
    rcases List.mem_cons.mp hp' with rfl | hmem
    · exact partsOf_ne_nil (hpairs q List.mem_cons_self).1
    · exact partsOf_ne_nil (hpairs p' hmem).2
  refine ⟨h.files p' hp', hproper p' hp', r.output.parts ++ (partsOf r.files.here r.inputRoot
    p').dropLast, (partsOf r.files.here r.inputRoot p').getLast hne, ?_, fun hdots => ?_⟩
  · rw [outputPath_parts, List.append_assoc, List.dropLast_append_getLast]
  · exact not_mem_partsOf _ _ _ (hdots ▸ List.getLast_mem hne)

end Separable

/-- A scan of files whose paths are clear of the null character is a tour of them. -/
theorem exists_tour (hg : r.glossary.ready = true) (hclears : ∀ p ∈ ps, r.Clears p) (n : Nat) :
    ∃ m vs last, processAll ps n r = (.ok m, last) ∧ r.Tour vs last ∧ vs.map Prod.fst = ps := by
  obtain ⟨vs, last, htour, ⟨m, hm, hvs⟩ | ⟨hnull, -⟩⟩ := processAll_tour hg ps n
  · exact ⟨m, vs, last, hm, htour, hvs⟩
  · rcases (stepsTo_processAll hg ps n).2 with ⟨m, hm⟩ | ⟨-, hnot⟩
    · rw [hm] at hnull
      cases hnull
    · exact absurd hclears hnot

/-! ### Orders -/

/-- Two runs have come to the same from a run, apart from the order of the records, and from the
causes given why conversions could not be written. -/
structure SameUpToOrder (r : Run) (ps : List Path) (s s' : Run) : Prop where
  here : s'.files.here = s.files.here
  item? : ∀ x, s'.files.item? x = s.files.item? x
  converted : s.journal.report.converted.Perm s'.journal.report.converted
  diagnostics : s.journal.report.diagnostics.Perm s'.journal.report.diagnostics
  errors : ∃ es, s.journal.report.errors.Perm es ∧
    List.Forall₂ SameFault es s'.journal.report.errors
  /-- The errors are the same if nothing that bars the way to a conversion is hidden. -/
  unhidden : (∀ p ∈ ps, r.files.Unhidden (r.outputPath p)) →
    s.journal.report.errors.Perm s'.journal.report.errors

theorem SameUpToOrder.refl (r : Run) (ps : List Path) (s : Run) : r.SameUpToOrder ps s s where
  here := rfl
  item? _ := rfl
  converted := .refl _
  diagnostics := .refl _
  errors := ⟨_, .refl _, forall₂_sameFault _⟩
  unhidden _ := .refl _

/-- Each of the files can be visited at the start. -/
theorem exists_alone (hg : r.glossary.ready = true) (heligible : ∀ p ∈ ps, r.Eligible p) :
    ∃ alone : Path → Visit, ∀ p ∈ ps, r.Visits p (alone p) (r.processFile p).2 := by
  have hvisit : ∀ p, ∃ v, p ∈ ps → r.Visits p v (r.processFile p).2 := by
    intro p
    by_cases hp : p ∈ ps
    · obtain ⟨v, hv⟩ := exists_visit hg
        (clears_of_isFile (heligible p hp).file (heligible p hp).proper)
      exact ⟨v, fun _ => hv⟩
    · exact ⟨.plain, fun hp' => absurd hp' hp⟩
  choose alone halone using hvisit
  exact ⟨alone, halone⟩

section Alone

variable {alone : Path → Visit} (heligible : ∀ p ∈ ps, r.Eligible p)
  (hsep : ps.Pairwise r.Separate) (halone : ∀ p ∈ ps, r.Visits p (alone p) (r.processFile p).2)
include heligible hsep halone

/-- Separate files agree on what they both change at a place. -/
theorem newAt_agree : ∀ p ∈ ps, ∀ q ∈ ps, ∀ i j, ∀ x,
    r.newAt p x = some i → r.newAt q x = some j → i = j := by
  have : Std.Symm fun p q => ∀ i j, ∀ x, r.newAt p x = some i → r.newAt q x = some j → i = j :=
    ⟨fun _ _ hpq i j x hi hj => (hpq j i x hj hi).symm⟩
  refine List.Pairwise.forall_of_forall (fun p _ i j x hi hj => ?_) ?_
  · exact Option.some.inj (hi.symm.trans hj)
  · exact hsep.imp_of_mem fun hp hq hpq i j x =>
      hpq.apart.agree ((heligible _ hp).touches (halone _ hp))
        ((heligible _ hq).touches (halone _ hq))

/-- What visits at the start change at a place, one after the other, does not hang on their
order. -/
theorem foldl_newAt_perm (hperm : ps.Perm ps') (x : Place) (i : Option Item) :
    ps.foldl (fun i p => (r.newAt p x).or i) i = ps'.foldl (fun i p => (r.newAt p x).or i) i := by
  refine hperm.foldl_eq' (fun p hp q hq z => ?_) i
  rcases hi : r.newAt p x with - | i
  · simp
  · rcases hj : r.newAt q x with - | j
    · simp
    · simp [newAt_agree heligible hsep halone p hp q hq i j x hi hj]

/-- A tour of the files, in any order, comes to what the visits at the start come to. -/
theorem Tour.settled (h : r.Tour vs last) (hg : r.glossary.ready = true)
    (hperm : ps.Perm (vs.map Prod.fst)) : (∀ v ∈ vs, r.Alike v.1 (alone v.1) v.2) ∧
      ∀ x, last.files.item? x = ps.foldl (fun i p => (r.newAt p x).or i) (r.files.item? x) := by
  have hmem : ∀ v ∈ vs, v.1 ∈ ps := fun v hv => hperm.mem_iff.mpr (List.mem_map_of_mem hv)
  have hpairs := (hperm.pairwise_iff fun hpq => hpq.symm).mp hsep
  obtain ⟨halike, hitem⟩ := h.alike hg (fun v hv => heligible _ (hmem v hv))
    (List.pairwise_map.mp hpairs) fun v _ => .refl r v.1
  refine ⟨fun v hv => halike v hv _ (halone _ (hmem v hv)), fun x => ?_⟩
  rw [hitem, foldl_newAt_perm heligible hsep halone hperm, List.foldl_map]

end Alone

/-- The same faults are met in any order. -/
theorem exists_sameFault {alone : Path → Visit}
    (hperm : (vs.map Prod.fst).Perm (vs'.map Prod.fst))
    (h : ∀ v ∈ vs, r.Alike v.1 (alone v.1) v.2) (h' : ∀ v ∈ vs', r.Alike v.1 (alone v.1) v.2) :
    ∃ es, (vs.flatMap fun v => v.2.errors).Perm es ∧
      List.Forall₂ SameFault es (vs'.flatMap fun v => v.2.errors) := by
  have hvs : List.Forall₂ (fun p v => p = v.1 ∧ r.Alike v.1 (alone v.1) v.2) (vs.map Prod.fst) vs :=
    List.forall₂_map_left_iff.mpr (List.forall₂_same.mpr fun v hv => ⟨rfl, h v hv⟩)
  -- the visits of the first tour in the order of the second
  obtain ⟨us, hus, husvs⟩ := List.perm_comp_forall₂ hperm.symm hvs
  refine ⟨us.flatMap fun v => v.2.errors, husvs.symm.flatMap_right _, ?_⟩
  have hpairs := (List.forall₂_and_left vs' us).mpr ⟨h', List.forall₂_map_left_iff.mp hus⟩
  refine List.rel_flatMap hpairs.flip ?_
  rintro ⟨p, v⟩ ⟨p', v'⟩ ⟨halike', rfl, halike⟩
  exact halike.sameFault halike'

/-- What visits add to the report, told by the files. -/
theorem flatMap_alone {β : Type} {f : Visit → List β} {alone : Path → Visit}
    (h : ∀ v ∈ vs, f v.2 = f (alone v.1)) :
    (vs.flatMap fun v => f v.2) = (vs.map Prod.fst).flatMap fun p => f (alone p) := by
  rw [List.flatMap_map]
  exact List.flatMap_congr h

/-- Two tours of the same files, each separate from each other, come to the same. -/
theorem Tour.sameUpToOrder (h : r.Tour vs s) (h' : r.Tour vs' s') (hg : r.glossary.ready = true)
    (heligible : ∀ p ∈ ps, r.Eligible p) (hsep : ps.Pairwise r.Separate)
    (hvs : ps.Perm (vs.map Prod.fst)) (hvs' : ps.Perm (vs'.map Prod.fst)) :
    r.SameUpToOrder ps s s' := by
  obtain ⟨alone, halone⟩ := exists_alone hg heligible
  obtain ⟨halike, hitem⟩ := h.settled heligible hsep halone hg hvs
  obtain ⟨halike', hitem'⟩ := h'.settled heligible hsep halone hg hvs'
  have hperm := hvs.symm.trans hvs'
  obtain ⟨es, hes, hfaults⟩ := exists_sameFault hperm halike halike'
  refine ⟨h'.keeps.here.trans h.keeps.here.symm, fun x => (hitem' x).trans (hitem x).symm,
    ?_, ?_, ?_, fun hun => ?_⟩
  · rw [h.report, h'.report, flatMap_alone fun v hv => (halike v hv).terms,
      flatMap_alone fun v hv => (halike' v hv).terms]
    exact (hperm.flatMap_right _).append_left _
  · rw [h.report, h'.report, flatMap_alone fun v hv => (halike v hv).warnings,
      flatMap_alone fun v hv => (halike' v hv).warnings]
    exact (hperm.flatMap_right _).append_left _
  · rw [h.report, h'.report]
    exact ⟨_, hes.append_left _, List.rel_append (forall₂_sameFault _) hfaults⟩
  · have hun' : ∀ {us : List (Path × Visit)}, ps.Perm (us.map Prod.fst) → ∀ v ∈ us,
        r.files.Unhidden (r.outputPath v.1) := fun hus v hv =>
      hun _ (hus.mem_iff.mpr (List.mem_map_of_mem hv))
    rw [h.report, h'.report,
      flatMap_alone fun v hv => (halike v hv).unhidden (hun' hvs v hv),
      flatMap_alone fun v hv => (halike' v hv).unhidden (hun' hvs' v hv)]
    exact (hperm.flatMap_right _).append_left _

/-- **The order of the files does not matter.**  The tree in the end is the same, and so is the
report, apart from the order of its records, and from the causes why conversions could not be
written. -/
theorem processAll_perm (hg : r.glossary.ready = true) (h : r.Separable ps)
    (hproper : ∀ p ∈ ps, (r.outputPath p).Proper) (hperm : ps.Perm ps') (n : Nat) :
    ∃ m m' s s', processAll ps n r = (.ok m, s) ∧ processAll ps' n r = (.ok m', s') ∧
      r.SameUpToOrder ps s s' := by
  have hclears : ∀ p ∈ ps, r.Clears p := fun p hp =>
    clears_of_isFile (h.files p hp) (hproper p hp)
  obtain ⟨m, vs, s, hm, htour, hvs⟩ := exists_tour hg hclears n
  obtain ⟨m', vs', s', hm', htour', hvs'⟩ :=
    exists_tour hg (fun p hp => hclears p (hperm.mem_iff.mpr hp)) n
  refine ⟨m, m', s, s', hm, hm', ?_⟩
  rcases ps with - | ⟨p, - | ⟨q, ps⟩⟩
  -- no file or a single one has one order only
  · obtain rfl := List.nil_perm.mp hperm
    obtain rfl := (Prod.mk.inj (hm.symm.trans hm')).2
    exact .refl _ _ _
  · obtain rfl := List.singleton_perm.mp hperm
    obtain rfl := (Prod.mk.inj (hm.symm.trans hm')).2
    exact .refl _ _ _
  · exact htour.sameUpToOrder htour' hg (h.eligible hproper) h.separate (hvs ▸ .refl _)
      (hvs' ▸ hperm)

/-- A run that converts to a directory.  There are two files with a reference, one without, and one
that is no text. -/
def writingTo (output : Path) : Run where
  resolver := .plain
  output := output
  inputRoot := ⟨.root, []⟩
  glossary := .plain
  files :=
    { here := []
      items := [
        (["a"], .file (Utf8.encode "[a](@)".toList)),
        (["b"], .file (Utf8.encode "[a](@) [b](@)".toList)),
        (["f"], .file []),
        (["g"], .file [255])] }

/-- Two files are converted in two orders. -/
theorem processAll_perm_two :
    (writingTo (.ofText "/out")).glossary.ready = true ∧
      (writingTo (.ofText "/out")).Separable [.ofText "/a", .ofText "b"] ∧
      (∀ p ∈ [.ofText "/a", .ofText "b"], ((writingTo (.ofText "/out")).outputPath p).Proper) ∧
      ∃ m m' s s',
        processAll [.ofText "/a", .ofText "b"] 0 (writingTo (.ofText "/out")) = (.ok m, s) ∧
        processAll [.ofText "b", .ofText "/a"] 0 (writingTo (.ofText "/out")) = (.ok m', s') ∧
        (writingTo (.ofText "/out")).SameUpToOrder [.ofText "/a", .ofText "b"] s s' := by
  have hready : (writingTo (.ofText "/out")).glossary.ready = true := by decide +kernel
  have hseparable : (writingTo (.ofText "/out")).Separable [.ofText "/a", .ofText "b"] := by
    decide +kernel
  have hproper : ∀ p ∈ [.ofText "/a", .ofText "b"],
      ((writingTo (.ofText "/out")).outputPath p).Proper := by
    intro p hp
    refine proper_outputPath (Path.proper_ofText (by decide)) (by decide) ?_
    rcases List.mem_pair.mp hp with rfl | rfl
    · exact Path.proper_ofText (by decide)
    · exact Path.proper_ofText (by decide)
  exact ⟨hready, hseparable, hproper,
    processAll_perm hready hseparable hproper (.swap _ _ _) 0⟩

/-- While `n` is missing, the directories that lead to `n/../f/x` are made one by one, and the one
at `n/../f` is refused, because a file is there.  Once `n` has been made for another file, the whole
path is refused for what is on its way.  And a path with the null character ends the conversion of
files, so that it matters which ones come before. -/
theorem causes_depend_on_order :
    Glossary.plain.ready = true ∧
      (writingTo (.ofText "/n/../f/x")).Separable [.ofText "/a", .ofText "/b"] ∧
      ¬ (processAll [.ofText "/a", .ofText "/b"] 0
          (writingTo (.ofText "/n/../f/x"))).2.journal.report.errors.Perm
        (processAll [.ofText "/b", .ofText "/a"] 0
          (writingTo (.ofText "/n/../f/x"))).2.journal.report.errors ∧
      (writingTo (.ofText "/\x00")).Separable [.ofText "/a", .ofText "/g"] ∧
      ¬ (processAll [.ofText "/a", .ofText "/g"] 0
          (writingTo (.ofText "/\x00"))).2.journal.report.errors.Perm
        (processAll [.ofText "/g", .ofText "/a"] 0
          (writingTo (.ofText "/\x00"))).2.journal.report.errors := by
  decide +kernel

end Run

end TermRef
