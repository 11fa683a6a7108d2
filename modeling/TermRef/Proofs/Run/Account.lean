/-
TermRef/Proofs/Run/Account.lean

A run accounts for every reference of every file that it lists.

Each visit adds to the three lists of the report, at their ends, and what it adds is settled by
the one thing that it comes to (`VisitAccount`).  If the conversion of a file is written, every
reference in it counts once: as a term converted, as one that no entry matches, or as one whose
rendering is empty (`length_resolutions`).  If it is not, no term counts.

Over a run these additions follow one another in the order of the files (`Tour.report`), after
the warnings that loading the glossary has given.  So the terms that a run counts as converted
are as many as the references that it has replaced in what it has written.
-/
import Mathlib.Algebra.GroupWithZero.Nat
import TermRef.Proofs.Run.Visit

namespace TermRef

/-! ### One text -/

/-- Every reference is linked, or has one warning of the two kinds. -/
theorem length_resolutions {r : Resolver} {g : Glossary} {file text : String}
    {os : List (Occurrence × Resolution)} (h : ∀ o ∈ os, HasResolution r g file text o.1 o.2) :
    (os.filterMap fun o => o.2.term?).length +
        (os.filterMap fun o => o.2.warning?).countP (fun d => d.kind = .unresolved) +
        (os.filterMap fun o => o.2.warning?).countP (fun d => d.kind = .emptyRender) =
      os.length := by
  induction os with
  | nil => rfl
  | cons o os ih =>
    obtain ⟨occurrence, resolution⟩ := o
    have hrest := ih fun o ho => h o (List.mem_cons_of_mem _ ho)
    have ho : HasResolution r g file text occurrence resolution := h _ List.mem_cons_self
    -- a reference adds one to one of the three numbers
    generalize hterms : (os.filterMap fun o => o.2.term?) = terms at hrest
    generalize hwarnings : (os.filterMap fun o => o.2.warning?) = warnings at hrest
    rw [List.filterMap_cons, List.filterMap_cons, hterms, hwarnings, List.length_cons, ← hrest]
    cases ho with
    | link =>
      show (_ :: terms).length + warnings.countP _ + warnings.countP _ = _
      rw [List.length_cons]
      omega
    | unresolved =>
      show terms.length + (_ :: warnings).countP _ + (_ :: warnings).countP _ = _
      rw [List.countP_cons_of_pos (by simp), List.countP_cons_of_neg (by simp)]
      omega
    | empty =>
      show terms.length + (_ :: warnings).countP _ + (_ :: warnings).countP _ = _
      rw [List.countP_cons_of_neg (by simp), List.countP_cons_of_pos (by simp)]
      omega

/-! ### One visit -/

/-- As many terms count as converted as references are replaced. -/
theorem Visit.length_terms (v : Visit) : v.terms.length = v.replaced.length := by
  cases v with
  | unreadable => rfl
  | plain => rfl
  | unwritable => rfl
  | written place bytes os =>
    rw [Visit.terms, Visit.replaced]
    induction os with
    | nil => rfl
    | cons o os ih =>
      obtain ⟨occurrence, - | -⟩ := o
      · simpa [Resolution.term?, Resolution.link?] using ih
      · simpa [Resolution.term?, Resolution.link?] using ih

/-- What a visit adds to the report. -/
structure VisitAccount (r : Run) (p : Path) (v : Visit) (s : Run) : Prop where
  /-- The visit comes to nothing else. -/
  only : ∀ w u, r.Visits p w u → w = v
  report : s.journal.report =
    { converted := r.journal.report.converted ++ v.terms
      diagnostics := r.journal.report.diagnostics ++ v.warnings
      errors := r.journal.report.errors ++ v.errors }
  /-- If a conversion is written, it settles the references of the text, each in one way. -/
  counted : v.stored? ≠ none → ∃ text, r.Holds p text ∧
    v.terms.length + v.warnings.countP (fun d => d.kind = .unresolved) +
      v.warnings.countP (fun d => d.kind = .emptyRender) = (r.resolver.grammar.scan text).length
  /-- If none is written, no term counts. -/
  uncounted : v.stored? = none → v.terms = []

theorem Run.Visits.account {r s : Run} {p : Path} {v : Visit} (h : r.Visits p v s) :
    VisitAccount r p v s where
  only _ _ hw := hw.unique h
  report := h.report
  counted := by
    intro hstored
    cases h with
    | unreadable => exact absurd rfl hstored
    | plain => exact absurd rfl hstored
    | unwritable => exact absurd rfl hstored
    | @written text os _ _ _ hholds hconv =>
      refine ⟨text, hholds, ?_⟩
      rw [← hconv.scanned, List.length_map]
      exact length_resolutions hconv.resolved
  uncounted := by
    intro hstored
    cases v with
    | written => cases hstored
    | unreadable => rfl
    | plain => rfl
    | unwritable => rfl

/-! ### A whole run -/

/-- What the visits of a tour add to the report. -/
theorem Run.Tour.report {r last : Run} {vs : List (Path × Visit)} (h : r.Tour vs last) :
    last.journal.report =
      { converted := r.journal.report.converted ++ vs.flatMap fun v => v.2.terms
        diagnostics := r.journal.report.diagnostics ++ vs.flatMap fun v => v.2.warnings
        errors := r.journal.report.errors ++ vs.flatMap fun v => v.2.errors } := by
  induction h with
  | done => simp
  | visit hv _ _ ih =>
    rw [ih, hv.report]
    simp only [List.flatMap_cons, List.append_assoc]

/-- The account of a run that has visited files, with the run after the last of them. -/
structure RunAccount (r : Run) (vs : List (Path × Visit)) (last : Run) : Prop where
  /-- Every file listed is visited, in order. -/
  listed : r.started.listFiles = .ok (vs.map Prod.fst)
  tour : r.started.Tour vs last
  /-- Loading has warned of entries that are left out. -/
  loaded : r.journal.Drops r.started.journal
  /-- The visits have added to the report, and nothing else has. -/
  report : r.resolve.2.journal.report =
    { converted := r.journal.report.converted ++ vs.flatMap fun v => v.2.terms
      diagnostics := r.started.journal.report.diagnostics ++ vs.flatMap fun v => v.2.warnings
      errors := r.journal.report.errors ++ vs.flatMap fun v => v.2.errors }
  /-- The terms counted are as many as the references replaced in what has been written. -/
  count : r.resolve.2.journal.report.converted.length =
    r.journal.report.converted.length + (vs.map fun v => v.2.replaced.length).sum

/-- **A run that succeeds accounts for every reference.**  The visit of each file comes to one
thing, which settles what it adds to the report; and the report of the run is what was there,
the warnings of its loading, and these additions one after the other. -/
theorem resolve_accounts_for_references {r : Run} (h : r.resolve.1 = .ok ()) :
    (∀ {s u : Run} {p : Path} {v : Visit}, s.Visits p v u → VisitAccount s p v u) ∧
      ∃ vs last, RunAccount r vs last := by
  refine ⟨fun hv => hv.account, ?_⟩
  obtain ⟨vs, last, htour, -, -, hok⟩ := r.resolve_tour
  obtain ⟨hlisted, -, hlast⟩ := hok h
  have hdrops : r.journal.Drops r.started.journal := by
    obtain ⟨ds, hds, hreport⟩ := Glossary.drops_load r.files r.glossary r.journal
    exact ⟨ds, hds, (Run.started_report r).trans hreport⟩
  have hreport : r.resolve.2.journal.report =
      { converted := r.journal.report.converted ++ vs.flatMap fun v => v.2.terms
        diagnostics := r.started.journal.report.diagnostics ++ vs.flatMap fun v => v.2.warnings
        errors := r.journal.report.errors ++ vs.flatMap fun v => v.2.errors } := by
    obtain ⟨ds, -, hds⟩ := hdrops
    rw [hlast, htour.report, hds]
  refine ⟨vs, last, hlisted, htour, hdrops, hreport, ?_⟩
  rw [hreport, List.length_append, List.length_flatMap]
  simp only [Visit.length_terms]

/-- A scope at the root of the files, with one entry, and a file with a reference to it and one
to nothing. -/
def Run.paired : Run where
  resolver := .plain
  output := ⟨.root, ["out"]⟩
  pattern := "a"
  inputRoot := ⟨.root, []⟩
  glossary := .bare
  files :=
    { here := []
      items := [
        (["mrg.s.1.yaml"], .file (Utf8.encode ("entries: [\x7bterm: a, vsntag: latest, " ++
          "scopetag: s, locator: l, glossaryText: w, navurl: u\x7d]").toList)),
        (["a"], .file (Utf8.encode "[a](@) [b](@)".toList))] }

/-- Of two references one counts as converted, and the other one has a warning. -/
theorem resolve_accounts_for_two_references :
    Run.paired.resolve.1 = .ok () ∧
      Run.paired.resolve.2.journal.report.converted.length = 1 ∧
      Run.paired.resolve.2.journal.report.diagnostics.length = 1 ∧
      ∃ vs last, RunAccount .paired vs last := by
  have hrun : Run.paired.resolve.1 = .ok () ∧
      Run.paired.resolve.2.journal.report.converted.length = 1 ∧
      Run.paired.resolve.2.journal.report.diagnostics.length = 1 := by decide +kernel
  obtain ⟨hok, hconverted, hdiagnostics⟩ := hrun
  exact ⟨hok, hconverted, hdiagnostics, (resolve_accounts_for_references hok).2⟩

end TermRef
