/-
TermRef/Proofs/Run/Visit.lean

The visits that a run pays to files.

`Visits` lists what the visit of a file can come to, with what it leaves in the report and
among the files: the file cannot be read, it holds no reference, its conversion is written, or
its conversion cannot be written.  The four exclude one another, and the file settles which of
them it is (`Visits.unique`).  A reference has one resolution in each visit, so the visit
carries them in pairs.

`Tour` strings visits together: each starts from the run that the one before has left.  With a
glossary that is ready, a scan of files is a tour (`processAll_tour`).  It takes in all files,
or breaks off at one whose path, or that of its conversion, holds the null character; even then
nothing but directories can have been made after the last visit.  A whole run is a tour from
where its glossary has been loaded (`resolve_tour`).
-/
import TermRef.Proofs.Files.Change
import TermRef.Proofs.Glossary.Build
import TermRef.Proofs.Run.Outcome
import TermRef.Proofs.Text.Utf8

namespace TermRef

open FileTree

/-! ### Visits -/

/-- What the visit of a file comes to. -/
inductive Visit where
  /-- The file cannot be read, or is no text. -/
  | unreadable (error : Diagnostic)
  /-- It holds no reference. -/
  | plain
  /-- Its conversion is written to a place; the references have these resolutions. -/
  | written (place : Place) (bytes : List UInt8) (os : List (Occurrence × Resolution))
  /-- Its conversion cannot be written. -/
  | unwritable (error : Diagnostic) (os : List (Occurrence × Resolution))

namespace Visit

/-- The references of the file, with their resolutions. -/
def references : Visit → List (Occurrence × Resolution)
  | written _ _ os => os
  | unwritable _ os => os
  | _ => []

/-- The terms that count as converted: those linked in what is written. -/
def terms : Visit → List String
  | written _ _ os => os.filterMap fun o => o.2.term?
  | _ => []

/-- The warnings given. -/
def warnings (v : Visit) : List Diagnostic := v.references.filterMap fun o => o.2.warning?

/-- The errors met. -/
def errors : Visit → List Diagnostic
  | unreadable e => [e]
  | unwritable e _ => [e]
  | _ => []

/-- The references that are replaced in what is written, with their links. -/
def replaced : Visit → List (Occurrence × String)
  | written _ _ os => os.filterMap fun o => o.2.link?.map fun l => (o.1, l)
  | _ => []

/-- What is stored, and where. -/
def stored? : Visit → Option (Place × List UInt8)
  | written p b _ => some (p, b)
  | _ => none

/-- What is stored at a place. -/
def storedAt (v : Visit) (q : Place) : Option (List UInt8) :=
  v.stored?.bind fun x => if x.1 = q then some x.2 else none

end Visit

/-- A text converts to another one: every reference that a scan finds in it has its resolution,
and those with a link are replaced. -/
structure Converts (r : Resolver) (g : Glossary) (file text : String)
    (os : List (Occurrence × Resolution)) (out : String) : Prop where
  scanned : os.map Prod.fst = r.grammar.scan text
  nonempty : os ≠ []
  resolved : ∀ o ∈ os, HasResolution r g file text o.1 o.2
  spliced : Spliced 0 text.toList (os.map fun o => (o.1, o.2.link?)) out.toList

namespace Run

/-- The file at a path holds a text, in UTF-8. -/
def Holds (r : Run) (p : Path) (text : String) : Prop :=
  r.files.read p.text = .ok (Utf8.encode text.toList)

/-- The file at a path gives no text, for a reason. -/
inductive Unreadable (r : Run) (p : Path) : String → Prop
  /-- It cannot be read. -/
  | file {e} : r.files.read p.text = .error e → e ≠ .nullCharacter → r.Unreadable p e.message
  /-- Its bytes are those of no text. -/
  | bytes {b f} : r.files.read p.text = .ok b → (∀ s, b ≠ Utf8.encode s) →
      Utf8.decode b = .error f → r.Unreadable p f.message

/-- The visit of a file, and the run after it. -/
inductive Visits (r : Run) (p : Path) : Visit → Run → Prop
  /-- One error is recorded, and nothing else. -/
  | unreadable {why e s} : r.Unreadable p why →
      e = ⟨.fileError, "Error reading file: " ++ why, some p.text, none⟩ →
      s.journal.report = { r.journal.report with errors := r.journal.report.errors ++ [e] } →
      s.files = r.files → r.Visits p (.unreadable e) s
  /-- Nothing is recorded. -/
  | plain {text s} : r.Holds p text → r.resolver.grammar.scan text = [] →
      s.journal.report = r.journal.report → s.files = r.files → r.Visits p .plain s
  /-- The terms linked and the warnings are recorded, and one file is stored. -/
  | written {text os out place s} : r.Holds p text →
      Converts r.resolver r.glossary p.text text os out →
      writeBytes r.files (r.outputPath p) (Utf8.encode out.toList) = (s.files, none) →
      r.files.Stores (r.outputPath p).text place (Utf8.encode out.toList) s.files →
      s.journal.report = { r.journal.report with
        converted := r.journal.report.converted ++ os.filterMap fun o => o.2.term?
        diagnostics := r.journal.report.diagnostics ++ os.filterMap fun o => o.2.warning? } →
      r.Visits p (.written place (Utf8.encode out.toList) os) s
  /-- The warnings are recorded, and one error; directories may have been made. -/
  | unwritable {text os out cause e s} : r.Holds p text →
      Converts r.resolver r.glossary p.text text os out →
      writeBytes r.files (r.outputPath p) (Utf8.encode out.toList) = (s.files, some cause) →
      cause ≠ .nullCharacter →
      e = ⟨.fileError, "Error writing file " ++ (r.outputPath p).text ++ ": " ++ cause.message,
        some p.text, none⟩ →
      r.files.GrowsOutside [] s.files →
      s.journal.report = { r.journal.report with
        diagnostics := r.journal.report.diagnostics ++ os.filterMap fun o => o.2.warning?
        errors := r.journal.report.errors ++ [e] } →
      r.Visits p (.unwritable e os) s

end Run

/-! ### One of four -/

/-- A text has one conversion. -/
theorem Converts.unique {r : Resolver} {g : Glossary} {file text out out' : String}
    {os os' : List (Occurrence × Resolution)} (h : Converts r g file text os out)
    (h' : Converts r g file text os' out') : os = os' ∧ out = out' := by
  have hos : os = os' := by
    have hfst : os.map Prod.fst = os'.map Prod.fst := h.scanned.trans h'.scanned.symm
    refine List.ext_getElem (by simpa using congrArg List.length hfst) fun n hn hn' => ?_
    have ho : os[n].1 = os'[n].1 := by
      have hget : (os.map Prod.fst)[n]? = (os'.map Prod.fst)[n]? := by rw [hfst]
      simpa [hn, hn'] using hget
    have hres := h.resolved os[n] (List.getElem_mem hn)
    have hres' := h'.resolved os'[n] (List.getElem_mem hn')
    rw [← ho] at hres'
    exact Prod.ext ho (hres.unique hres')
  subst hos
  exact ⟨rfl, String.toList_injective (h.spliced.unique h'.spliced)⟩

namespace Run

variable {r s u : Run} {p : Path} {v w : Visit}

theorem Holds.unique {text text' : String} (h : r.Holds p text) (h' : r.Holds p text') :
    text = text' :=
  String.toList_injective (Utf8.encode_injective (Except.ok.inj (h.symm.trans h')))

theorem Unreadable.not_holds {why text : String} (h : r.Unreadable p why) : ¬ r.Holds p text := by
  intro hholds
  cases h with
  | file he =>
    rw [Holds, he] at hholds
    cases hholds
  | bytes hb hnone =>
    rw [Holds, hb] at hholds
    exact hnone _ (Except.ok.inj hholds)

theorem Unreadable.unique {why why' : String} (h : r.Unreadable p why)
    (h' : r.Unreadable p why') : why = why' := by
  cases h with
  | file he =>
    cases h' with
    | file he' => rw [Except.error.inj (he.symm.trans he')]
    | bytes hb' =>
      rw [he] at hb'
      cases hb'
  | bytes hb _ hf =>
    cases h' with
    | file he' =>
      rw [hb] at he'
      cases he'
    | bytes hb' _ hf' =>
      obtain rfl := Except.ok.inj (hb.symm.trans hb')
      rw [Except.error.inj (hf.symm.trans hf')]

/-- A file that converts has a reference. -/
theorem scan_ne_nil {text out : String} {os : List (Occurrence × Resolution)}
    (h : Converts r.resolver r.glossary p.text text os out) : r.resolver.grammar.scan text ≠ [] := by
  rw [← h.scanned]
  exact fun hnil => h.nonempty (List.map_eq_nil_iff.mp hnil)

section Held

variable {text text' out out' : String} {os os' : List (Occurrence × Resolution)}

/-- A file has one conversion. -/
theorem Holds.converts_unique (h : r.Holds p text) (h' : r.Holds p text')
    (hc : Converts r.resolver r.glossary p.text text os out)
    (hc' : Converts r.resolver r.glossary p.text text' os' out') : os = os' ∧ out = out' := by
  obtain rfl := h.unique h'
  exact hc.unique hc'

/-- A file without references has none. -/
theorem Holds.not_converts (h : r.Holds p text) (h' : r.Holds p text')
    (hscan : r.resolver.grammar.scan text = []) :
    ¬ Converts r.resolver r.glossary p.text text' os out := by
  intro hc
  rw [h.unique h'] at hscan
  exact scan_ne_nil hc hscan

end Held

/-- **A visit comes to one thing only.** -/
theorem Visits.unique (h : r.Visits p v s) (h' : r.Visits p w u) : v = w := by
  cases h with
  | unreadable hun he =>
    cases h' with
    | unreadable hun' he' => rw [he, he', hun.unique hun']
    | plain hholds => exact absurd hholds hun.not_holds
    | written hholds => exact absurd hholds hun.not_holds
    | unwritable hholds => exact absurd hholds hun.not_holds
  | plain hholds hscan =>
    cases h' with
    | unreadable hun => exact absurd hholds hun.not_holds
    | plain => rfl
    | written hholds' hconv => exact absurd hconv (hholds.not_converts hholds' hscan)
    | unwritable hholds' hconv => exact absurd hconv (hholds.not_converts hholds' hscan)
  | written hholds hconv hwrite hstores =>
    cases h' with
    | unreadable hun => exact absurd hholds hun.not_holds
    | plain hholds' hscan => exact absurd hconv (hholds'.not_converts hholds hscan)
    | written hholds' hconv' hwrite' hstores' =>
      -- the path leads to the same place in the files after either visit
      obtain ⟨rfl, rfl⟩ := hholds.converts_unique hholds' hconv hconv'
      have hfiles : s.files = u.files := (Prod.mk.inj (hwrite.symm.trans hwrite')).1
      have hplace := hstores.leads
      rw [hfiles, hstores'.leads] at hplace
      rw [(Prod.mk.inj (Except.ok.inj hplace)).1]
    | unwritable hholds' hconv' hwrite' =>
      obtain ⟨rfl, rfl⟩ := hholds.converts_unique hholds' hconv hconv'
      cases (Prod.mk.inj (hwrite.symm.trans hwrite')).2
  | unwritable hholds hconv hwrite _ he =>
    cases h' with
    | unreadable hun => exact absurd hholds hun.not_holds
    | plain hholds' hscan => exact absurd hconv (hholds'.not_converts hholds hscan)
    | written hholds' hconv' hwrite' =>
      obtain ⟨rfl, rfl⟩ := hholds.converts_unique hholds' hconv hconv'
      cases (Prod.mk.inj (hwrite.symm.trans hwrite')).2
    | unwritable hholds' hconv' hwrite' _ he' =>
      obtain ⟨rfl, rfl⟩ := hholds.converts_unique hholds' hconv hconv'
      rw [he, he', Option.some.inj (Prod.mk.inj (hwrite.symm.trans hwrite')).2]

/-! ### What a visit does -/

/-- The report after a visit. -/
theorem Visits.report (h : r.Visits p v s) : s.journal.report =
    { converted := r.journal.report.converted ++ v.terms
      diagnostics := r.journal.report.diagnostics ++ v.warnings
      errors := r.journal.report.errors ++ v.errors } := by
  cases h with
  | unreadable _ _ hreport =>
    rw [hreport]
    show _ = (⟨_ ++ [], _ ++ [], _ ++ [_]⟩ : Report)
    rw [List.append_nil, List.append_nil]
  | plain _ _ hreport =>
    rw [hreport]
    show _ = (⟨_ ++ [], _ ++ [], _ ++ []⟩ : Report)
    rw [List.append_nil, List.append_nil, List.append_nil]
  | written _ _ _ _ hreport =>
    rw [hreport]
    show _ = (⟨_ ++ _, _ ++ _, _ ++ []⟩ : Report)
    rw [List.append_nil]
    rfl
  | unwritable _ _ _ _ _ _ hreport =>
    rw [hreport]
    show _ = (⟨_ ++ [], _ ++ _, _ ++ [_]⟩ : Report)
    rw [List.append_nil]
    rfl

/-- What a visit makes of a place among the files. -/
theorem Visits.becomes (h : r.Visits p v s) (q : Place) :
    Becomes q r.files s.files (v.storedAt q) := by
  cases h with
  | unreadable _ _ _ hfiles =>
    rw [hfiles]
    exact .inl rfl
  | plain _ _ _ hfiles =>
    rw [hfiles]
    exact .inl rfl
  | @written _ _ out place _ _ _ _ hstores =>
    show Becomes q _ _ (if place = q then some (Utf8.encode out.toList) else none)
    by_cases hq : place = q
    · rw [if_pos hq, ← hq]
      exact hstores.becomes
    · rw [if_neg hq]
      exact hstores.grows.item? q (by simpa using Ne.symm hq)
  | unwritable _ _ _ _ _ hgrows => exact hgrows.item? q (by simp)

/-! ### Files are visited -/

/-- A step of a run is a visit, or it breaks off for the null character, and then directories
have been made at most. -/
def Ends (r : Run) (p : Path) (x : Except Failure (Option Path) × Run) : Prop :=
  (∃ v a, r.Visits p v x.2 ∧ x.1 = .ok a) ∨
    x.1 = .error (.mishap .nullCharacter) ∧ r.files.GrowsOutside [] x.2.files

/-- Delivering a conversion ends the visit of its file. -/
theorem ends_deliver {text out : String} {os : List (Occurrence × Resolution)} {j : Journal}
    (hholds : r.Holds p text) (hconv : Converts r.resolver r.glossary p.text text os out)
    (hreport : j.report = { r.journal.report with
      diagnostics := r.journal.report.diagnostics ++ os.filterMap fun o => o.2.warning? }) :
    r.Ends p (({ r with journal := j } : Run).deliver p ⟨out, os.filterMap fun o => o.2.term?⟩) := by
  rw [deliver]
  dsimp only
  rw [show ({ r with journal := j } : Run).outputPath p = r.outputPath p from rfl]
  rcases hw : writeBytes r.files (r.outputPath p) (Utf8.encode out.toList) with
    ⟨t, - | (⟨cause, q⟩ | -)⟩
  · obtain ⟨place, hstores⟩ := stores_writeBytes hw
    refine .inl ⟨_, _, .written hholds hconv hw hstores ?_, rfl⟩
    show ((os.filterMap fun o => o.2.term?).foldl Journal.converted j).report = _
    rw [foldl_converted_report, hreport]
  · refine .inl ⟨_, _, .unwritable hholds hconv hw (by simp) rfl (growsOutside_writeBytes hw) ?_,
      rfl⟩
    show j.report.addError _ = _
    rw [hreport]
    rfl
  · exact .inr ⟨rfl, growsOutside_writeBytes hw⟩

/-- The conversion of a text with references, as the visit of its file sees it. -/
theorem convert_converts {r : Resolver} {g : Glossary} {text : String} (hg : g.ready = true)
    (hs : r.grammar.scan text ≠ []) (file : String) (j : Journal) :
    ∃ out os, (r.convert g file text j).1 = .ok (some ⟨out, os.filterMap fun o => o.2.term?⟩) ∧
      (r.convert g file text j).2.report = { j.report with
        diagnostics := j.report.diagnostics ++ os.filterMap fun o => o.2.warning? } ∧
      Converts r g file text os out := by
  obtain ⟨out, hout, hreport, hspliced⟩ := convert_of_scan_ne_nil hg hs file j
  refine ⟨out, (r.grammar.scan text).map fun o => (o, r.resolution g file text o), ?_, ?_, ?_⟩
  · rw [hout, List.filterMap_map, List.filterMap_map]
    rfl
  · rw [hreport, List.filterMap_map, List.filterMap_map]
    rfl
  · refine ⟨?_, by simpa using hs, fun q hq => ?_, ?_⟩
    · rw [List.map_map]
      exact List.map_id _
    · obtain ⟨o, ho, rfl⟩ := List.mem_map.mp hq
      obtain ⟨-, d, -, hd⟩ := (r.grammar.picks_scan text).interpreted o ho
      obtain ⟨hscope, hversion⟩ := interpret_present r.grammar d
      exact hasResolution_resolution hg (hd ▸ hscope) (hd ▸ hversion)
    · rw [List.map_map]
      simpa only [Function.comp_def, link?_resolution] using hspliced

/-- **Processing a file is a visit**, unless it breaks off. -/
theorem ends_processFile (hg : r.glossary.ready = true) (p : Path) :
    r.Ends p (r.processFile p) := by
  rw [processFile, readText]
  rcases hread : r.files.read p.text with (⟨cause, q⟩ | -) | b
  · exact .inl ⟨_, _, .unreadable (.file hread (by simp)) rfl rfl rfl, rfl⟩
  · exact .inr ⟨rfl, .refl [] _⟩
  · dsimp only
    rcases hd : Utf8.decode b with f | text
    · have hnone : ∀ s, b ≠ Utf8.encode s := Utf8.decode_eq_error_iff.mp ⟨f, hd⟩
      exact .inl ⟨_, _, .unreadable (.bytes hread hnone hd) rfl rfl rfl, rfl⟩
    · have hholds : r.Holds p (String.ofList text) := by
        rw [Holds, hread, Utf8.decode_eq_ok_iff.mp hd, String.toList_ofList]
      dsimp only
      rcases hc : r.resolver.convert r.glossary p.text (String.ofList text) r.journal with ⟨res, j⟩
      by_cases hs : r.resolver.grammar.scan (String.ofList text) = []
      · have hnothing :
            (r.resolver.convert r.glossary p.text (String.ofList text) r.journal).1 = .ok none ∧
              (r.resolver.convert r.glossary p.text (String.ofList text) r.journal).2.report =
                r.journal.report := convert_of_scan_eq_nil hs r.journal
        rw [hc] at hnothing
        obtain ⟨hnone, hreport⟩ := hnothing
        obtain rfl : res = .ok none := hnone
        exact .inl ⟨_, _, .plain hholds hs hreport rfl, rfl⟩
      · obtain ⟨out, os, hout, hreport, hconv⟩ := convert_converts hg hs p.text r.journal
        rw [hc] at hout hreport
        obtain rfl : res = .ok (some ⟨out, os.filterMap fun o => o.2.term?⟩) := hout
        exact ends_deliver hholds hconv hreport

/-! ### Tours -/

/-- Files visited one after the other. -/
inductive Tour : Run → List (Path × Visit) → Run → Prop
  | done {start} : Tour start [] start
  | visit {start next last path visit rest} : start.Visits path visit next → start.Keeps next →
      Tour next rest last → Tour start ((path, visit) :: rest) last

/-- **A scan of files is a tour.**  It takes them all in, or breaks off at one of them. -/
theorem processAll_tour (hg : r.glossary.ready = true) (ps : List Path) (n : Nat) :
    ∃ vs last, r.Tour vs last ∧
      ((∃ m, processAll ps n r = (.ok m, last) ∧ vs.map Prod.fst = ps) ∨
        (processAll ps n r).1 = .error (.mishap .nullCharacter) ∧ vs.map Prod.fst <+: ps ∧
          last.files.GrowsOutside [] (processAll ps n r).2.files) := by
  induction ps generalizing r n with
  | nil => exact ⟨[], r, .done, .inl ⟨n, rfl, rfl⟩⟩
  | cons p ps ih =>
    have hkeeps := (stepsTo_processFile hg p).1
    have hends := ends_processFile hg p
    rw [processAll]
    rcases hp : r.processFile p with ⟨res, s⟩
    rw [hp] at hkeeps hends
    rcases hends with ⟨v, a, hv, ha⟩ | ⟨he, hgrows⟩
    · -- behind this visit the tour goes on
      have hrest : ∀ n, ∃ vs last, r.Tour vs last ∧
          ((∃ m, processAll ps n s = (.ok m, last) ∧ vs.map Prod.fst = p :: ps) ∨
            (processAll ps n s).1 = .error (.mishap .nullCharacter) ∧
              vs.map Prod.fst <+: p :: ps ∧
              last.files.GrowsOutside [] (processAll ps n s).2.files) := by
        intro n
        obtain ⟨vs, last, htour, hrest⟩ := ih (r := s) (by rw [hkeeps.glossary]; exact hg) n
        refine ⟨(p, v) :: vs, last, .visit hv hkeeps htour, ?_⟩
        rcases hrest with ⟨m, hm, hvs⟩ | ⟨he, hvs, hgrows⟩
        · exact .inl ⟨m, hm, by rw [List.map_cons, hvs]⟩
        · exact .inr ⟨he, by simpa using hvs, hgrows⟩
      obtain rfl : res = .ok a := ha
      rcases a with - | target
      · exact hrest n
      · exact hrest (n + 1)
    · obtain rfl : res = .error (.mishap .nullCharacter) := he
      exact ⟨[], r, .done, .inr ⟨rfl, List.nil_prefix, hgrows⟩⟩

/-- **A run is a tour of the files listed**, from where its glossary has been loaded.  If it
succeeds, it takes them all in. -/
theorem resolve_tour (r : Run) : ∃ vs last, r.started.Tour vs last ∧
    (vs = [] ∨ ∃ ps, r.started.listFiles = .ok ps ∧ vs.map Prod.fst <+: ps) ∧
    last.files.GrowsOutside [] r.resolve.2.files ∧
    (r.resolve.1 = .ok () → r.started.listFiles = .ok (vs.map Prod.fst) ∧
      (r.glossary.load r.files r.journal).failure = none ∧
      r.resolve.2.journal.report = last.journal.report) := by
  rcases hloaded : (r.glossary.load r.files r.journal).failure with - | f
  · have hg : r.started.glossary.ready = true := by
      rw [started_glossary]
      exact Glossary.ready_of_load hloaded
    rw [resolve_of_loaded hloaded, scanAll]
    rcases hl : r.started.listFiles with e | ps
    · refine ⟨[], r.started, .done, .inl rfl, .refl [] _, fun hok => ?_⟩
      cases hok
    · obtain ⟨vs, last, htour, hend⟩ := processAll_tour hg ps 0
      dsimp only
      rcases hend with ⟨m, hm, hvs⟩ | ⟨he, hvs, hgrows⟩
      · rw [hm]
        exact ⟨vs, last, htour, .inr ⟨ps, rfl, hvs ▸ List.prefix_rfl⟩, .refl [] _,
          fun _ => ⟨by rw [hvs], rfl, rfl⟩⟩
      · rcases hp : processAll ps 0 r.started with ⟨res, s⟩
        rw [hp] at he hgrows
        obtain rfl : res = .error (.mishap .nullCharacter) := he
        refine ⟨vs, last, htour, .inr ⟨ps, rfl, hvs⟩, hgrows, fun hok => ?_⟩
        cases hok
  · refine ⟨[], r.started, .done, .inl rfl, ?_, fun hok => ?_⟩
    · rw [files_of_failure hloaded, started_files]
      exact .refl [] _
    · rw [resolve_of_failure hloaded] at hok
      cases hok

end Run

end TermRef
