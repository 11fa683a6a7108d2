/-
TermRef/Proofs/Run/Outcome.lean

How a run ends.

Provision is made for two ends: the files have been converted with a glossary that is ready,
or a failure with the terminologies has been found and the run has failed (`EndsWell`).
While a glossary is loaded something can keep it from either, because the directory cannot be
searched or a terminology upsets the attempt (`StuckOn`).

A run that has loaded its glossary is `started`, and goes on to its files (`resolve_eq`).  These
only bring errors into the report.  The one thing that can still end a scan is a path with the
null character (`stepsTo_processAll`), and neither names of files nor settings bring one about
that are without it.
-/
import TermRef.Proofs.Conversion.Resolution
import TermRef.Proofs.Files.NullFree
import TermRef.Proofs.Glossary.Load

namespace TermRef

/-! ### Loading -/

/-- What keeps an attempt to load a glossary from its end. -/
inductive Glossary.StuckOn (g : Glossary) (t : FileTree) : Mishap → Prop
  /-- The directory cannot be searched for terminologies. -/
  | search {e} : searchError? t g.directory = some e → g.StuckOn t (.listing e)
  /-- The first terminology that it does not take over upsets it. -/
  | terminology {pre name post m} : searchError? t g.directory = none →
      terminologyNames t g.directory = pre ++ name :: post → (∀ n ∈ pre, g.Takes t n) →
      g.Upset t name m → g.StuckOn t m

/-- A glossary that is stuck cannot be loaded. -/
theorem Glossary.failure_of_stuckOn {g : Glossary} {t : FileTree} {m : Mishap}
    (h : g.StuckOn t m) (j : Journal) : (g.load t j).failure = some (.mishap m) := by
  cases h with
  | search hs => rw [load_eq, hs]
  | terminology hs hn hpre hupset => exact (load_upset hs hn hpre hupset).1

/-- A failure with the terminologies of a scope. -/
def Failure.OfTerminologies : Failure → Prop
  | .noTerminology _ => True
  | .terminology _ _ => True
  | _ => False

/-- Provision is made for every such failure. -/
theorem Failure.OfTerminologies.isForeseen {f : Failure} (h : f.OfTerminologies) :
    f.isForeseen = true := by
  cases f with
  | noTerminology => rfl
  | terminology => rfl
  | _ => exact h.elim

namespace Run

/-- What converting files does not change. -/
structure Keeps (r s : Run) : Prop where
  resolver : s.resolver = r.resolver
  output : s.output = r.output
  inputRoot : s.inputRoot = r.inputRoot
  glossary : s.glossary = r.glossary
  here : s.files.here = r.files.here
  phase : s.phase = r.phase

theorem Keeps.refl (r : Run) : r.Keeps r := ⟨rfl, rfl, rfl, rfl, rfl, rfl⟩

theorem Keeps.trans {r s u : Run} (h : r.Keeps s) (h' : s.Keeps u) : r.Keeps u where
  resolver := h'.resolver.trans h.resolver
  output := h'.output.trans h.output
  inputRoot := h'.inputRoot.trans h.inputRoot
  glossary := h'.glossary.trans h.glossary
  here := h'.here.trans h.here
  phase := h'.phase.trans h.phase

/-- Neither the path of a file nor that of its conversion holds the null character. -/
def Clears (r : Run) (p : Path) : Prop := p.NullFree ∧ (r.outputPath p).NullFree

theorem Keeps.clears {r s : Run} (h : r.Keeps s) {p : Path} (hp : r.Clears p) : s.Clears p := by
  rw [Clears, outputPath, h.output, h.here, h.inputRoot]
  exact hp

/-- A step of a run does what it is to do, or fails for the null character, which is only
where something is not clear of it. -/
def StepsTo {α : Type} (r : Run) (clear : Prop) (x : Except Failure α × Run) : Prop :=
  r.Keeps x.2 ∧ ((∃ a, x.1 = .ok a) ∨ x.1 = .error (.mishap .nullCharacter) ∧ ¬ clear)

theorem stepsTo_deliver (r : Run) (p : Path) (c : Conversion) :
    r.StepsTo (r.Clears p) (r.deliver p c) := by
  have hsound := sound_writeBytes r.files (r.outputPath p) (Utf8.encode c.text.toList)
  rw [deliver]
  dsimp only
  rcases hw : writeBytes r.files (r.outputPath p) (Utf8.encode c.text.toList) with
    ⟨t, - | (⟨cause, q⟩ | -)⟩
  · rw [hw] at hsound
    exact ⟨⟨rfl, rfl, rfl, rfl, hsound.1, rfl⟩, .inl ⟨_, rfl⟩⟩
  · rw [hw] at hsound
    exact ⟨⟨rfl, rfl, rfl, rfl, hsound.1, rfl⟩, .inl ⟨_, rfl⟩⟩
  · rw [hw] at hsound
    exact ⟨⟨rfl, rfl, rfl, rfl, hsound.1, rfl⟩, .inr ⟨rfl, fun h => hsound.2 h.2 rfl⟩⟩

/-- A conversion with a glossary that is ready gives a text or nothing. -/
theorem convert_eq_ok {r : Resolver} {g : Glossary} (hg : g.ready = true) (file text : String)
    (j : Journal) : ∃ c, (r.convert g file text j).1 = .ok c := by
  by_cases hs : r.grammar.scan text = []
  · exact ⟨none, (convert_of_scan_eq_nil hs j).1⟩
  · obtain ⟨out, hout, -⟩ := convert_of_scan_ne_nil hg hs file j
    exact ⟨_, hout⟩

theorem stepsTo_processFile {r : Run} (hg : r.glossary.ready = true) (p : Path) :
    r.StepsTo (r.Clears p) (r.processFile p) := by
  rw [processFile, readText]
  rcases hread : r.files.read p.text with (⟨cause, q⟩ | -) | bytes
  · exact ⟨⟨rfl, rfl, rfl, rfl, rfl, rfl⟩, .inl ⟨_, rfl⟩⟩
  · exact ⟨.refl r, .inr ⟨rfl, fun h => FileTree.read_eq_nullCharacter.mp hread h.1.text⟩⟩
  · dsimp only
    rcases Utf8.decode bytes with f | text
    · exact ⟨⟨rfl, rfl, rfl, rfl, rfl, rfl⟩, .inl ⟨_, rfl⟩⟩
    · dsimp only
      obtain ⟨c, hc⟩ := convert_eq_ok (r := r.resolver) hg p.text (String.ofList text) r.journal
      rcases hr : r.resolver.convert r.glossary p.text (String.ofList text) r.journal with ⟨res, j⟩
      obtain rfl : res = .ok c := by rw [hr] at hc; exact hc
      rcases c with - | c
      · exact ⟨⟨rfl, rfl, rfl, rfl, rfl, rfl⟩, .inl ⟨_, rfl⟩⟩
      · obtain ⟨hkeeps, hstep⟩ := stepsTo_deliver { r with journal := j } p c
        exact ⟨⟨hkeeps.resolver, hkeeps.output, hkeeps.inputRoot, hkeeps.glossary, hkeeps.here,
          hkeeps.phase⟩, hstep⟩

/-- **A scan of files goes through, if their paths are clear of the null character.** -/
theorem stepsTo_processAll {r : Run} (hg : r.glossary.ready = true) (ps : List Path) (n : Nat) :
    r.StepsTo (∀ p ∈ ps, r.Clears p) (processAll ps n r) := by
  induction ps generalizing r n with
  | nil => exact ⟨.refl r, .inl ⟨n, rfl⟩⟩
  | cons p ps ih =>
    obtain ⟨hkeeps, hstep⟩ := stepsTo_processFile hg p
    rw [processAll]
    rcases hp : r.processFile p with ⟨res, s⟩
    rw [hp] at hkeeps hstep
    -- behind this file the scan goes on from a run that it has kept
    have hrest : ∀ n, r.StepsTo (∀ q ∈ p :: ps, r.Clears q) (processAll ps n s) := by
      intro n
      obtain ⟨hkeeps', hstep'⟩ := ih (r := s) (by rw [hkeeps.glossary]; exact hg) n
      refine ⟨hkeeps.trans hkeeps', hstep'.imp_right fun h => ⟨h.1, fun hclear => h.2 ?_⟩⟩
      exact fun q hq => hkeeps.clears (hclear q (List.mem_cons_of_mem _ hq))
    rcases hstep with ⟨a, ha⟩ | ⟨he, hclear⟩
    · obtain rfl : res = .ok a := ha
      rcases a with - | target
      · exact hrest n
      · exact hrest (n + 1)
    · obtain rfl : res = .error (.mishap .nullCharacter) := he
      exact ⟨hkeeps, .inr ⟨rfl, fun h => hclear (h p List.mem_cons_self)⟩⟩

/-! ### The whole run -/

/-- Nothing that paths are made of holds the null character: neither the settings of the run nor
the names of files. -/
structure NullFree (r : Run) : Prop where
  pattern : TermRef.NullFree r.pattern
  output : r.output.NullFree
  here : ∀ s ∈ r.files.here, TermRef.NullFree s
  files : r.files.NullFree

theorem NullFree.clears {r : Run} (h : r.NullFree) {p : Path} (hp : p.NullFree) : r.Clears p :=
  ⟨hp, h.output.below (nullFree_partsOf r.inputRoot h.here hp)⟩

/-- The run with its glossary loaded, as far as that goes. -/
def loaded (r : Run) : Run :=
  let l := r.glossary.load r.files r.journal
  { r with phase := .loading, glossary := l.glossary, journal := l.journal }

/-- The run as it starts to scan: with its glossary loaded. -/
def started (r : Run) : Run := { r.loaded.startNotes with phase := .scanning }

section Started

-- loading is not to be computed here
seal Glossary.load

theorem started_files (r : Run) : r.started.files = r.files := rfl

theorem started_resolver (r : Run) : r.started.resolver = r.resolver := rfl

theorem started_glossary (r : Run) :
    r.started.glossary = (r.glossary.load r.files r.journal).glossary := rfl

theorem started_report (r : Run) :
    r.started.journal.report = (r.glossary.load r.files r.journal).journal.report := rfl

/-- **A run loads its glossary, and goes on from there unless that fails.** -/
theorem resolve_eq (r : Run) : r.resolve =
    (r.glossary.load r.files r.journal).failure.elim r.started.scanAll fun f =>
      (.error f, if f.isForeseen then { r.loaded with phase := .failed } else r.loaded) := by
  delta Run.resolve Run.load started loaded
  dsimp only
  rcases r.glossary.load r.files r.journal with ⟨g, j, - | f⟩
  · rfl
  · rfl

variable {r : Run}

theorem resolve_of_failure {f : Failure}
    (h : (r.glossary.load r.files r.journal).failure = some f) : r.resolve =
      (.error f, if f.isForeseen then { r.loaded with phase := .failed } else r.loaded) := by
  rw [resolve_eq, h, Option.elim_some]

theorem files_of_failure {f : Failure}
    (h : (r.glossary.load r.files r.journal).failure = some f) :
    r.resolve.2.files = r.files := by
  rw [resolve_of_failure h]
  dsimp only
  split <;> rfl

theorem journal_of_failure {f : Failure}
    (h : (r.glossary.load r.files r.journal).failure = some f) :
    r.resolve.2.journal = (r.glossary.load r.files r.journal).journal := by
  rw [resolve_of_failure h]
  dsimp only
  split <;> rfl

theorem resolve_of_loaded (h : (r.glossary.load r.files r.journal).failure = none) :
    r.resolve = r.started.scanAll := by
  rw [resolve_eq, h, Option.elim_none]

theorem NullFree.started (h : r.NullFree) : r.started.NullFree :=
  ⟨h.pattern, h.output, h.here, h.files⟩

end Started

end Run

end TermRef
