/-
TermRef/Proofs/Command/Fatal.lean

Calls that fail.

A call gathers its settings, builds the parts of a run from them, loads the glossary, and only
then looks at files.  `Call.Stops` lists what can stop it before that: the settings, the paths
that they lack, one of the parts (`Unbuilt`), or the glossary.  Nothing has been written by then.

Once the glossary is ready, the only failure left is the null character in a path, for which
no provision is made (`scanAll_ok_or_nullCharacter`).  So the code one stands for what has
stopped a call early, and a call that returns it has left the files as they were
(`code_one_changes_nothing`).
-/
import TermRef.Command.Run
import TermRef.Proofs.Run.Visit

namespace TermRef

/-- A scan with a glossary that is ready goes through, or breaks off for the null character. -/
theorem Run.scanAll_ok_or_nullCharacter {r : Run} (hg : r.glossary.ready = true) :
    r.scanAll.1 = .ok () ∨ r.scanAll.1 = .error (.mishap .nullCharacter) := by
  rw [scanAll]
  rcases hl : r.listFiles with e | ps
  · rw [listFiles] at hl
    rcases hf : Glob.files r.files r.pattern with e' | ps
    · rw [hf] at hl
      exact .inr (congrArg Except.error (Except.error.inj hl).symm)
    · rw [hf] at hl
      cases hl
  · have hstep := (stepsTo_processAll hg ps 0).2
    dsimp only
    rcases hp : processAll ps 0 r with ⟨res, s⟩
    rw [hp] at hstep
    rcases hstep with ⟨n, rfl⟩ | ⟨rfl, -⟩
    · exact .inl rfl
    · exact .inr rfl

namespace Command

/-! ### The parts of a run -/

/-- One of the parts of a run cannot be built, while those before it can. -/
inductive Unbuilt (t : FileTree) (s : Settings) (scopedir : Path) : Failure → Prop
  /-- The administration of the scope is not in order. -/
  | administration {f} : Glossary.open? t scopedir {} = .error f → Unbuilt t s scopedir f
  /-- The text for the grammar writes none. -/
  | grammar {g e} : Glossary.open? t scopedir {} = .ok g →
      Grammar.ofText s.interpreter = .error e → Unbuilt t s scopedir (.grammar e)
  /-- The text for the style writes none. -/
  | style {g gr e} : Glossary.open? t scopedir {} = .ok g → Grammar.ofText s.interpreter = .ok gr →
      LinkStyle.ofText s.converter = .error e → Unbuilt t s scopedir (.style e)

section Parts

variable {t : FileTree} {s : Settings} {scopedir output : Path} {r : Run} {f : Failure}

/-- The parts of a run, one after the other. -/
theorem openRun_eq (t : FileTree) (s : Settings) (scopedir output : Path) :
    Call.openRun t s scopedir output =
      match Glossary.open? t scopedir {} with
      | .error e => .error (e, {})
      | .ok (glossary, journal) =>
        match Grammar.ofText s.interpreter with
        | .error e => .error (.grammar e, journal)
        | .ok grammar =>
          match LinkStyle.ofText s.converter with
          | .error e => .error (.style e, journal)
          | .ok style => .ok {
              resolver := { grammar, style, vsntag := s.vsntag }
              output, pattern := s.glob, inputRoot := ⟨.root, t.here⟩, glossary, files := t
              journal } := by
  rw [Call.openRun, mapError_bind]
  rcases Glossary.open? t scopedir {} with e | ⟨glossary, journal⟩
  · rfl
  · dsimp only
    rw [mapError_bind]
    rcases Grammar.ofText s.interpreter with e | grammar
    · rfl
    · dsimp only
      rw [mapError_bind]
      rcases LinkStyle.ofText s.converter with e | style <;> rfl

/-- **A run cannot be built for the part that cannot.** -/
theorem openRun_eq_error (output : Path) :
    (∃ j, Call.openRun t s scopedir output = .error (f, j)) ↔ Unbuilt t s scopedir f := by
  rw [openRun_eq]
  rcases ho : Glossary.open? t scopedir {} with e | ⟨glossary, journal⟩
  · constructor
    · rintro ⟨j, hj⟩
      cases hj
      exact .administration ho
    · rintro (h | ⟨h, -⟩ | ⟨h, -, -⟩)
      · exact ⟨{}, by rw [Except.error.inj (h.symm.trans ho)]⟩
      · cases ho.symm.trans h
      · cases ho.symm.trans h
  · rcases hg : Grammar.ofText s.interpreter with e | grammar
    · constructor
      · rintro ⟨j, hj⟩
        cases hj
        exact .grammar ho hg
      · rintro (h | ⟨-, h⟩ | ⟨-, h, -⟩)
        · cases ho.symm.trans h
        · exact ⟨journal, by rw [Except.error.inj (h.symm.trans hg)]⟩
        · cases hg.symm.trans h
    · rcases hs : LinkStyle.ofText s.converter with e | style
      · constructor
        · rintro ⟨j, hj⟩
          cases hj
          exact .style ho hg hs
        · rintro (h | ⟨-, h⟩ | ⟨-, -, h⟩)
          · cases ho.symm.trans h
          · cases hg.symm.trans h
          · exact ⟨journal, by rw [Except.error.inj (h.symm.trans hs)]⟩
      · constructor
        · rintro ⟨j, hj⟩
          cases hj
        · rintro (h | ⟨-, h⟩ | ⟨-, -, h⟩)
          · cases ho.symm.trans h
          · cases hg.symm.trans h
          · cases hs.symm.trans h

/-- A run starts with the administration, the pattern, the output and the files of its call. -/
theorem parts_of_openRun (h : Call.openRun t s scopedir output = .ok r) :
    Glossary.open? t scopedir {} = .ok (r.glossary, r.journal) ∧ r.pattern = s.glob ∧
      r.output = output ∧ r.files = t := by
  rw [openRun_eq] at h
  split at h
  · cases h
  · rename_i ho
    split at h
    · cases h
    · split at h
      · cases h
      · cases h
        exact ⟨ho, rfl, rfl, rfl⟩

theorem files_of_openRun (h : Call.openRun t s scopedir output = .ok r) : r.files = t :=
  (parts_of_openRun h).2.2.2

end Parts

/-! ### Calls -/

namespace Call

/-- A call has options that are in order, and so are the settings that they and the other
sources make up. -/
structure Prepares (c : Call) (s : Settings) (scopedir output : Path) (rank : Nat) : Prop where
  settings : ∃ o, Options.ofArguments c.arguments = .ok o ∧
    Settings.load c.files c.environment o.config (overrides o) = .ok s
  paths : s.paths = .ok (scopedir, output)
  rank : threshold s.logLevel = .ok rank

/-- A call begins a run, all parts of which have been built. -/
def Begins (locate : Path → Path) (c : Call) (r : Run) : Prop :=
  ∃ s scopedir output rank, c.Prepares s scopedir output rank ∧
    openRun c.files s (locate scopedir) (locate output) = .ok r

/-- What stops a call before it looks at files. -/
inductive Stops (locate : Path → Path) (c : Call) : Failure → Prop
  /-- The settings cannot be loaded. -/
  | settings {o f} : Options.ofArguments c.arguments = .ok o →
      Settings.load c.files c.environment o.config (overrides o) = .error f → c.Stops locate f
  /-- They lack a path. -/
  | paths {o s f} : Options.ofArguments c.arguments = .ok o →
      Settings.load c.files c.environment o.config (overrides o) = .ok s → s.paths = .error f →
      c.Stops locate f
  /-- A part of the run cannot be built from them. -/
  | part {s scopedir output rank f} : c.Prepares s scopedir output rank →
      Unbuilt c.files s (locate scopedir) f → c.Stops locate f
  /-- The glossary cannot be loaded. -/
  | glossary {r f} : c.Begins locate r → (r.glossary.load r.files r.journal).failure = some f →
      c.Stops locate f

variable {locate : Path → Path} {c : Call} {s : Settings} {scopedir output : Path} {rank : Nat}
  {r : Run} {f : Failure}

/-- The settings of a call, one thing after the other. -/
theorem settings_eq (c : Call) (o : Options) : c.settings o =
    match Settings.load c.files c.environment o.config (overrides o) with
    | .error f => .error f
    | .ok s =>
      match s.paths with
      | .error f => .error f
      | .ok p => .ok (s, p) := by
  rw [Call.settings]
  rcases Settings.load c.files c.environment o.config (overrides o) with f | s
  · rfl
  · show (s.paths >>= fun p => pure (s, p)) = _
    dsimp only
    rcases s.paths with f | p <;> rfl

/-- A call whose settings are in order goes on to its run. -/
theorem run_of_settings {o : Options} (ho : Options.ofArguments c.arguments = .ok o)
    (hs : c.settings o = .ok (s, scopedir, output)) (hrank : threshold s.logLevel = .ok rank) :
    c.run locate = c.runWith rank s (locate scopedir) (locate output) := by
  rw [Call.run, ho]
  dsimp only
  rw [hs]
  dsimp only
  rw [hrank]

/-- A level that is a layout breaks the call before that. -/
theorem ending_of_level {o : Options} {m : Mishap}
    (ho : Options.ofArguments c.arguments = .ok o)
    (hs : c.settings o = .ok (s, scopedir, output)) (hm : threshold s.logLevel = .error m) :
    (c.run locate).ending = .broken (.mishap m) := by
  rw [Call.run, ho]
  dsimp only
  rw [hs]
  dsimp only
  rw [hm]

theorem run_of_prepares (h : c.Prepares s scopedir output rank) :
    c.run locate = c.runWith rank s (locate scopedir) (locate output) := by
  obtain ⟨⟨o, ho, hs⟩, hpaths, hrank⟩ := h
  refine run_of_settings ho ?_ hrank
  rw [settings_eq, hs]
  dsimp only
  rw [hpaths]

/-- The failure that a run ends with, if it fails. -/
def failure? : Except Failure Unit → Option Failure
  | .ok () => none
  | .error f => some f

/-- A call builds its run, and concludes with what that comes to. -/
theorem runWith_eq (c : Call) (rank : Nat) (s : Settings) (scopedir output : Path) :
    c.runWith rank s scopedir output =
      match openRun c.files s scopedir output with
      | .error e => conclude rank c.files e.2 (some e.1)
      | .ok r => conclude rank r.resolve.2.files r.resolve.2.journal (failure? r.resolve.1) := by
  delta runWith
  rcases openRun c.files s scopedir output with ⟨f, j⟩ | r
  · rfl
  · dsimp only
    rcases r.resolve with ⟨_ | _, r'⟩ <;> rfl

theorem runWith_of_error {j : Journal}
    (h : openRun c.files s scopedir output = .error (f, j)) :
    c.runWith rank s scopedir output = conclude rank c.files j (some f) := by
  rw [runWith_eq, h]

theorem runWith_of_ok (h : openRun c.files s scopedir output = .ok r) :
    c.runWith rank s scopedir output =
      conclude rank r.resolve.2.files r.resolve.2.journal (failure? r.resolve.1) := by
  rw [runWith_eq, h]

/-- What a failure makes of a call. -/
def endingOf (f : Failure) : Ending := if f.isForeseen then .returned 1 else .broken f

theorem fail_eq (c : Call) (f : Failure) :
    (c.fail f).ending = endingOf f ∧ (c.fail f).files = c.files := by
  rw [Call.fail, endingOf]
  split <;> exact ⟨rfl, rfl⟩

theorem conclude_eq (rank : Nat) (t : FileTree) (j : Journal) (f : Failure) :
    (conclude rank t j (some f)).ending = endingOf f ∧ (conclude rank t j (some f)).files = t := by
  rw [conclude, endingOf]
  split <;> exact ⟨rfl, rfl⟩

/-- **What stops a call early decides how it ends, and no file has changed.** -/
theorem run_of_stops (h : c.Stops locate f) :
    (c.run locate).ending = endingOf f ∧ (c.run locate).files = c.files := by
  cases h with
  | settings ho hs =>
    rw [Call.run, ho]
    dsimp only
    rw [settings_eq, hs]
    exact fail_eq c f
  | paths ho hs hp =>
    rw [Call.run, ho]
    dsimp only
    rw [settings_eq, hs]
    dsimp only
    rw [hp]
    exact fail_eq c f
  | @part s scopedir output rank f hc hf =>
    obtain ⟨j, hj⟩ := (openRun_eq_error (locate output)).mpr hf
    rw [run_of_prepares hc, runWith_of_error hj]
    exact conclude_eq rank c.files j f
  | @glossary r f hr hf =>
    obtain ⟨s, scopedir, output, rank, hc, hopen⟩ := hr
    rw [run_of_prepares hc, runWith_of_ok hopen, Run.files_of_failure hf,
      Run.resolve_of_failure hf, files_of_openRun hopen]
    exact conclude_eq rank c.files _ f

/-- **Once the glossary is loaded, a call goes through**, or breaks for the null character. -/
theorem run_of_loaded (hr : c.Begins locate r)
    (hl : (r.glossary.load r.files r.journal).failure = none) :
    (c.run locate).ending = .returned 0 ∧ r.resolve.1 = .ok () ∨
      (c.run locate).ending = .broken (.mishap .nullCharacter) ∧
        r.resolve.1 = .error (.mishap .nullCharacter) := by
  obtain ⟨s, scopedir, output, rank, hc, hopen⟩ := hr
  have hscan : r.resolve.1 = .ok () ∨ r.resolve.1 = .error (.mishap .nullCharacter) := by
    rw [Run.resolve_of_loaded hl]
    refine Run.scanAll_ok_or_nullCharacter ?_
    rw [Run.started_glossary]
    exact Glossary.ready_of_load hl
  rw [run_of_prepares hc, runWith_of_ok hopen]
  rcases hscan with h | h
  · rw [h]
    exact .inl ⟨rfl, rfl⟩
  · rw [h]
    exact .inr ⟨rfl, rfl⟩

/-- How far a call comes: its arguments or its level end it, something stops it, or it loads the
glossary of a run. -/
theorem stops_or_loads (locate : Path → Path) (c : Call) :
    (∃ n, (c.run locate).ending = .exited n) ∨
      (∃ m, (c.run locate).ending = .broken (.mishap m) ∧ ∃ o s scopedir output,
        Options.ofArguments c.arguments = .ok o ∧
        c.settings o = .ok (s, scopedir, output) ∧ threshold s.logLevel = .error m) ∨
      (∃ f, c.Stops locate f) ∨
      ∃ r, c.Begins locate r ∧ (r.glossary.load r.files r.journal).failure = none := by
  rcases ho : Options.ofArguments c.arguments with stop | o
  · left
    rw [Call.run, ho]
    cases stop <;> exact ⟨_, rfl⟩
  · rcases hs : Settings.load c.files c.environment o.config (overrides o) with f | s
    · exact .inr (.inr (.inl ⟨f, .settings ho hs⟩))
    · rcases hp : s.paths with f | ⟨scopedir, output⟩
      · exact .inr (.inr (.inl ⟨f, .paths ho hs hp⟩))
      · have hsettings : c.settings o = .ok (s, scopedir, output) := by
          rw [settings_eq, hs]
          dsimp only
          rw [hp]
        rcases hl : threshold s.logLevel with m | rank
        · exact .inr (.inl ⟨m, ending_of_level ho hsettings hl, o, s, scopedir, output, rfl,
            hsettings, hl⟩)
        · have hc : c.Prepares s scopedir output rank := ⟨⟨o, ho, hs⟩, hp, hl⟩
          rcases hopen : openRun c.files s (locate scopedir) (locate output) with ⟨f, j⟩ | r
          · exact .inr (.inr (.inl ⟨f, .part hc ((openRun_eq_error _).mp ⟨j, hopen⟩)⟩))
          · have hr : c.Begins locate r := ⟨s, scopedir, output, rank, hc, hopen⟩
            rcases hf : (r.glossary.load r.files r.journal).failure with - | f
            · exact .inr (.inr (.inr ⟨r, hr, hf⟩))
            · exact .inr (.inr (.inl ⟨f, .glossary hr hf⟩))

/-- **A call that returns one has changed no file.**  It returns one exactly if it has been
stopped before it looks at files, by a failure that provision is made for; once the glossary of
its run is loaded it returns zero, whatever the files hold, or breaks for the null character in
a path. -/
theorem code_one_changes_nothing (locate : Path → Path) (c : Call) :
    ((c.run locate).ending = .returned 1 → (c.run locate).files = c.files) ∧
      ((c.run locate).ending = .returned 1 ↔ ∃ f, c.Stops locate f ∧ f.isForeseen = true) ∧
      ∀ r, c.Begins locate r → (r.glossary.load r.files r.journal).failure = none →
        (c.run locate).ending = .returned 0 ∨
          (c.run locate).ending = .broken (.mishap .nullCharacter) := by
  have hstopped : (c.run locate).ending = .returned 1 →
      ∃ f, c.Stops locate f ∧ f.isForeseen = true := by
    intro h
    rcases c.stops_or_loads locate with ⟨n, hn⟩ | ⟨m, hm, -⟩ | ⟨f, hf⟩ | ⟨r, hr, hl⟩
    · rw [h] at hn
      cases hn
    · rw [h] at hm
      cases hm
    · refine ⟨f, hf, ?_⟩
      by_contra hforeseen
      rw [(run_of_stops hf).1, endingOf, if_neg hforeseen] at h
      cases h
    · rcases run_of_loaded hr hl with ⟨hz, -⟩ | ⟨hb, -⟩
      · rw [h] at hz
        cases hz
      · rw [h] at hb
        cases hb
  refine ⟨fun h => ?_, ⟨hstopped, ?_⟩, fun r hr hl => (run_of_loaded hr hl).imp And.left And.left⟩
  · obtain ⟨f, hf, -⟩ := hstopped h
    exact (run_of_stops hf).2
  · rintro ⟨f, hf, hforeseen⟩
    rw [(run_of_stops hf).1, endingOf, if_pos hforeseen]

end Call

end Command

end TermRef
