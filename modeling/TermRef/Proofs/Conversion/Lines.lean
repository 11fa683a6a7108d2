/-
TermRef/Proofs/Conversion/Lines.lean

Converting a text line by line.

A scan with a named grammar picks line by line, and what becomes of a reference hangs on the
reference alone.  So the conversion of a text is made of those of its lines: texts spliced side by
side are spliced together (`Spliced.append`), wherever they stand (`Spliced.movedBy`), and a line
feed is in no span.  A warning names the line of its reference, which is the number of the line
that has it (`warnings_lines`).
-/
import TermRef.Proofs.Conversion.Rescan
import TermRef.Proofs.Reference.Lines

namespace TermRef

open Pattern

/-! ### Spliced texts side by side -/

namespace Spliced

variable {n : Nat} {s s' out out' : List Char} {ps ps' : List (Occurrence × Option String)}

theorem plain (n : Nat) (s : List Char) : Spliced n s [] s := by
  induction s generalizing n with
  | nil => exact .done
  | cons x s ih => exact .keep (ih (n + 1))

theorem append (h : Spliced n s ps out) (h' : Spliced (n + s.length) s' ps' out') :
    Spliced n (s ++ s') (ps ++ ps') (out ++ out') := by
  induction h with
  | done => exact h'
  | @keep n x s ps out _ ih =>
    refine .keep (ih ?_)
    rwa [List.length_cons, Nat.add_comm s.length, ← Nat.add_assoc] at h'
  | @span n o w l s ps out hstart hstop htext hw _ ih =>
    rw [List.append_assoc, List.append_assoc]
    refine .span hstart hstop htext hw (ih ?_)
    rwa [List.length_append, ← Nat.add_assoc, ← hstop] at h'

theorem movedBy (m : Nat) (h : Spliced n s ps out) :
    Spliced (n + m) s (ps.map fun p => (p.1.movedBy m, p.2)) out := by
  induction h with
  | done => exact .done
  | @keep n x s ps out _ ih =>
    rw [Nat.add_right_comm] at ih
    exact .keep ih
  | @span n o w l s ps out hstart hstop htext hw _ ih =>
    refine .span ?_ ?_ htext hw ih
    · show o.start + m = n + m
      rw [hstart]
    · show o.stop + m = n + m + w.length
      rw [hstop, Nat.add_right_comm]

/-- A text is spliced before a span and behind it, each part by itself. -/
theorem split {o : Occurrence} {l : Option String} (h : Spliced n s (ps ++ (o, l) :: ps') out) :
    ∃ u v a b, s = u ++ (o.text.toList ++ v) ∧ o.start = n + u.length ∧
      o.stop = o.start + o.text.toList.length ∧ o.text.toList ≠ [] ∧ Spliced n u ps a ∧
      Spliced o.stop v ps' b ∧ out = a ++ ((l.map String.toList).getD o.text.toList ++ b) := by
  generalize hqs : ps ++ (o, l) :: ps' = qs at h
  induction h generalizing ps with
  | done => simp at hqs
  | @keep n x s qs out _ ih =>
    obtain ⟨u, v, a, b, rfl, hstart, hstop, hne, ha, hb, rfl⟩ := ih hqs
    refine ⟨x :: u, v, x :: a, b, rfl, ?_, hstop, hne, .keep ha, hb, rfl⟩
    rw [hstart, List.length_cons]
    omega
  | @span n p w k s qs out hstart hstop htext hne hspliced ih =>
    rcases ps with - | ⟨q, ps⟩
    · obtain ⟨hp, rfl⟩ := List.cons.inj hqs
      obtain ⟨rfl, rfl⟩ := Prod.mk.inj hp
      subst htext
      exact ⟨[], s, [], out, rfl, hstart, hstart ▸ hstop, hne, .done, hspliced, rfl⟩
    · obtain ⟨rfl, htail⟩ := List.cons.inj hqs
      obtain ⟨u, v, a, b, rfl, hstart', hstop', hne', ha, hb, rfl⟩ := ih htail
      refine ⟨w ++ u, v, _, b, (List.append_assoc w u _).symm, ?_, hstop', hne',
        .span hstart hstop htext hne ha, hb, (List.append_assoc _ a _).symm⟩
      rw [hstart', hstop, List.length_append, Nat.add_assoc]

end Spliced

/-! ### What a conversion comes to -/

/-- A text after conversion: itself if there is no reference in it. -/
def Resolver.output (r : Resolver) (g : Glossary) (file text : String) : String :=
  match (r.convertText g file text {}).1 with
  | .ok (some out) => out
  | _ => text

/-- A warning as it is given on another line. -/
def Diagnostic.onLine (n : Nat) (d : Diagnostic) : Diagnostic := { d with line := some n }

/-- The terms linked in a text. -/
def Resolver.terms (r : Resolver) (g : Glossary) (text : String) : List String :=
  (r.grammar.scan text).filterMap fun o => (r.fate g o.reference).term?

/-- The warning of a reference in a text. -/
def Resolver.warning? (r : Resolver) (g : Glossary) (file : String) (text : List Char)
    (o : Occurrence) : Option Diagnostic :=
  (r.fate g o.reference).warning? file (Lines.lineOf text o.start) o

/-- The warnings of the references in a text. -/
def Resolver.warnings (r : Resolver) (g : Glossary) (file text : String) : List Diagnostic :=
  (r.grammar.scan text).filterMap (r.warning? g file text.toList)

variable {r : Resolver} {g : Glossary}

theorem terms_of_resolutions (file text : String) :
    ((r.grammar.scan text).map (r.resolution g file text)).filterMap Resolution.term? =
      r.terms g text := by
  rw [List.filterMap_map]
  exact List.filterMap_congr fun o _ => term?_resolution o

theorem warnings_of_resolutions (file text : String) :
    ((r.grammar.scan text).map (r.resolution g file text)).filterMap Resolution.warning? =
      r.warnings g file text := by
  rw [List.filterMap_map]
  exact List.filterMap_congr fun o _ => warning?_resolution o

theorem convertText_report (hg : g.ready = true) (file text : String) (j : Journal) :
    (r.convertText g file text j).2.report =
      { converted := j.report.converted ++ r.terms g text
        diagnostics := j.report.diagnostics ++ r.warnings g file text
        errors := j.report.errors } := by
  rw [Resolver.convertText]
  by_cases hs : r.grammar.scan text = []
  · obtain ⟨hnone, hreport⟩ : (r.convert g file text j).1 = .ok none ∧
        (r.convert g file text j).2.report = j.report := convert_of_scan_eq_nil hs j
    rcases hc : r.convert g file text j with ⟨res, j'⟩
    rw [hc] at hnone hreport
    obtain rfl : res = .ok none := hnone
    rw [Resolver.terms, Resolver.warnings, hs]
    simpa using hreport
  · obtain ⟨out, hout, hreport, -⟩ := convert_of_scan_ne_nil hg hs file j
    rw [terms_of_resolutions] at hout
    rw [warnings_of_resolutions] at hreport
    rcases hc : r.convert g file text j with ⟨res, j'⟩
    rw [hc] at hout hreport
    obtain rfl := hout
    show ((r.terms g text).foldl Journal.converted j').report = _
    rw [foldl_converted_report, hreport]

/-- With a loaded glossary, a text is spliced with the links to its references. -/
theorem convertText_spliced (hg : g.ready = true) (file text : String) (j : Journal) :
    (r.convertText g file text j).1 =
        .ok (if r.grammar.scan text = [] then none else some (r.output g file text)) ∧
      Spliced 0 text.toList ((r.grammar.scan text).map fun o => (o, (r.fate g o.reference).link?))
        (r.output g file text).toList := by
  have hout : ∀ j, ∃ out, (r.convertText g file text j).1 =
      .ok (if r.grammar.scan text = [] then none else some out) ∧
      Spliced 0 text.toList
        ((r.grammar.scan text).map fun o => (o, (r.fate g o.reference).link?)) out.toList ∧
      (r.grammar.scan text = [] → out = text) := by
    intro j
    by_cases hs : r.grammar.scan text = []
    · refine ⟨text, ?_, ?_, fun _ => rfl⟩
      · rw [convertText_eq, (convert_of_scan_eq_nil hs j).1, if_pos hs]
        rfl
      · rw [hs]
        exact .plain 0 _
    · obtain ⟨out, hout, -, hspliced⟩ := convert_of_scan_ne_nil hg hs file j
      refine ⟨out, ?_, hspliced, fun h => absurd h hs⟩
      rw [convertText_eq, hout, if_neg hs]
      rfl
  -- what a text becomes does not hang on the journal
  have heq : ∀ out, (r.convertText g file text {}).1 =
      .ok (if r.grammar.scan text = [] then none else some out) →
      (r.grammar.scan text = [] → out = text) → r.output g file text = out := by
    intro out hout htext
    rw [Resolver.output, hout]
    split
    · rename_i h
      split at h
      · cases h
      · exact (Option.some.inj (Except.ok.inj h)).symm
    · rename_i h
      by_cases hs : r.grammar.scan text = []
      · exact (htext hs).symm
      · exact absurd (by rw [if_neg hs]) (h out)
  obtain ⟨out, hconv, hspliced, htext⟩ := hout j
  obtain ⟨out', hconv', hspliced', htext'⟩ := hout {}
  obtain rfl : out = out' := String.toList_injective (hspliced.unique hspliced')
  rw [heq out hconv' htext']
  exact ⟨hconv, hspliced⟩

/-! ### Lines -/

theorem map_snd_placedFrom (n : Nat) (ls : List (List Char)) :
    (placedFrom n ls).map Prod.snd = ls := by
  induction ls generalizing n with
  | nil => rfl
  | cons l ls ih => rw [placedFrom, List.map_cons, ih]

/-- The terms linked in a text are those linked in its lines. -/
theorem terms_lines {text : String}
    (hscan : r.grammar.scan text = (placedLines text.toList).flatMap r.grammar.scanPlaced) :
    r.terms g text =
      (Pieces.cut '\n' text.toList).flatMap fun l => r.terms g (String.ofList l) := by
  have hline : ∀ p : Nat × List Char, (r.grammar.scanPlaced p).filterMap
      (fun o => (r.fate g o.reference).term?) = r.terms g (String.ofList p.2) := fun p => by
    rw [Grammar.scanPlaced, List.filterMap_map]
    rfl
  have hlines : (placedLines text.toList).map Prod.snd = Pieces.cut '\n' text.toList :=
    map_snd_placedFrom 0 _
  rw [Resolver.terms, hscan, List.filterMap_flatMap, ← hlines, List.flatMap_map]
  exact List.flatMap_congr fun p _ => hline p

/-- The warning of a reference in a line of a text is that of the reference in the line alone, on
the line of the text that it is. -/
theorem warning?_line {file : String} {pre l x : List Char} (hl : '\n' ∉ l) {o : Occurrence}
    (ho : o ∈ r.grammar.scan (String.ofList l)) :
    r.warning? g file (pre ++ (l ++ x)) (o.movedBy pre.length) =
      (r.warning? g file l o).map (Diagnostic.onLine (pre.count '\n' + 1)) := by
  have hstart : o.start ≤ l.length := by
    obtain ⟨-, hlt, hle⟩ := (r.grammar.picks_scan (String.ofList l)).ordered.1 o ho
    rw [Cursor.ofText_rest, String.toList_ofList] at hle
    simp only [Cursor.ofText] at hle
    omega
  have hline : Lines.lineOf (pre ++ (l ++ x)) (o.start + pre.length) = pre.count '\n' + 1 := by
    have htake : (pre ++ (l ++ x)).take (o.start + pre.length) = pre ++ l.take o.start := by
      rw [Nat.add_comm, List.take_length_add_append, List.take_append_of_le_length hstart]
    have hcount : (l.take o.start).count '\n' = 0 :=
      List.count_eq_zero.mpr fun h => hl (List.mem_of_mem_take h)
    rw [Lines.lineOf, htake, List.count_append, hcount, Nat.add_zero]
  show (r.fate g o.reference).warning? file
    (Lines.lineOf (pre ++ (l ++ x)) (o.start + pre.length)) (o.movedBy pre.length) = _
  rw [hline, Resolver.warning?]
  cases r.fate g o.reference <;> rfl

/-- **The warnings of a text are those of its lines**, each on the line that it is of. -/
theorem warnings_lines (file : String) (pre s : List Char) :
    ((placedFrom pre.length (Pieces.cut '\n' s)).flatMap r.grammar.scanPlaced).filterMap
        (r.warning? g file (pre ++ s)) =
      ((Pieces.cut '\n' s).zipIdx (pre.count '\n' + 1)).flatMap fun p =>
        (r.warnings g file (String.ofList p.1)).map (Diagnostic.onLine p.2) := by
  have hline : ∀ pre l x : List Char, '\n' ∉ l →
      (r.grammar.scanPlaced (pre.length, l)).filterMap (r.warning? g file (pre ++ (l ++ x))) =
        (r.warnings g file (String.ofList l)).map (Diagnostic.onLine (pre.count '\n' + 1)) := by
    intro pre l x hl
    rw [Resolver.warnings, String.toList_ofList, List.map_filterMap, Grammar.scanPlaced,
      List.filterMap_map]
    exact List.filterMap_congr fun o ho => warning?_line hl ho
  induction s using Pieces.cut_induction '\n' generalizing pre with
  | last l hl =>
    have hl' := hline pre l [] hl
    rw [List.append_nil] at hl'
    simp only [Pieces.cut_of_not_mem hl, placedFrom, List.zipIdx_cons, List.zipIdx_nil,
      List.flatMap_cons, List.flatMap_nil, List.append_nil]
    exact hl'
  | more l x hl ih =>
    have hl' := hline pre l ('\n' :: x) hl
    -- the next line begins after this one and a line feed
    have hnext := ih (pre ++ (l ++ ['\n']))
    have hlength : (pre ++ (l ++ ['\n'])).length = pre.length + l.length + 1 := by
      simp [Nat.add_assoc]
    have hcount : (pre ++ (l ++ ['\n'])).count '\n' = pre.count '\n' + 1 := by
      simp [List.count_eq_zero.mpr hl]
    have htext : pre ++ (l ++ ['\n']) ++ x = pre ++ (l ++ '\n' :: x) := by simp
    rw [hlength, hcount, htext] at hnext
    rw [Pieces.cut_append_cons hl, placedFrom, List.zipIdx_cons, List.flatMap_cons,
      List.flatMap_cons, List.filterMap_append, hl', hnext]

/-- **A text is spliced line by line.** -/
theorem spliced_lines (hg : g.ready = true) (file : String) (n : Nat) (s : List Char) :
    Spliced n s
      (((placedFrom n (Pieces.cut '\n' s)).flatMap r.grammar.scanPlaced).map fun o =>
        (o, (r.fate g o.reference).link?))
      (Pieces.join ['\n'] ((Pieces.cut '\n' s).map fun l =>
        (r.output g file (String.ofList l)).toList)) := by
  have hline : ∀ n l, Spliced n l
      ((r.grammar.scanPlaced (n, l)).map fun o => (o, (r.fate g o.reference).link?))
      (r.output g file (String.ofList l)).toList := by
    intro n l
    have hspliced := (convertText_spliced (r := r) hg file (String.ofList l) {}).2.movedBy n
    rw [String.toList_ofList, List.map_map, Nat.zero_add] at hspliced
    rw [Grammar.scanPlaced, List.map_map]
    exact hspliced
  induction s using Pieces.cut_induction '\n' generalizing n with
  | last l hl =>
    simpa [Pieces.cut_of_not_mem hl, placedFrom, Pieces.join] using hline n l
  | more l x hl ih =>
    obtain ⟨w, ws, hcut⟩ := List.exists_cons_of_ne_nil (Pieces.cut_ne_nil '\n' x)
    have hnext := (hline n l).append (.keep (x := '\n') (ih (n + l.length + 1)))
    rw [Pieces.cut_append_cons hl, placedFrom, List.flatMap_cons, List.map_append]
    rw [hcut] at hnext ⊢
    rw [List.map_cons, List.map_cons, Pieces.join, List.intercalate_cons_cons, List.append_assoc]
    exact hnext

/-! ### Texts line by line -/

/-- The lines of a text. -/
def textLines (text : String) : List String := (Pieces.cut '\n' text.toList).map String.ofList

section Lines

variable {text : String}

theorem convertText_eq_none_iff (hg : g.ready = true) (file text : String) (j : Journal) :
    (r.convertText g file text j).1 = .ok none ↔ r.grammar.scan text = [] := by
  rw [(convertText_spliced hg file text j).1]
  split <;> simp_all

/-- There is a reference in a text if there is one in a line. -/
theorem scan_eq_nil_iff_lines
    (hscan : r.grammar.scan text = (placedLines text.toList).flatMap r.grammar.scanPlaced) :
    r.grammar.scan text = [] ↔ ∀ l ∈ textLines text, r.grammar.scan l = [] := by
  have hlines : (placedLines text.toList).map Prod.snd = Pieces.cut '\n' text.toList :=
    map_snd_placedFrom 0 _
  rw [hscan, List.flatMap_eq_nil_iff, textLines, ← hlines]
  simp only [List.forall_mem_map, Grammar.scanPlaced, List.map_eq_nil_iff]

/-- The converted text is made of the converted lines. -/
theorem output_lines (hg : g.ready = true) (file : String)
    (hscan : r.grammar.scan text = (placedLines text.toList).flatMap r.grammar.scanPlaced) :
    r.output g file text = "\n".intercalate ((textLines text).map (r.output g file)) := by
  have hspliced := (convertText_spliced (r := r) hg file text {}).2
  rw [hscan] at hspliced
  refine String.toList_injective (hspliced.unique ?_)
  rw [String.toList_intercalate, textLines, List.map_map, List.map_map]
  exact spliced_lines hg file 0 text.toList

end Lines

/-- **A text is scanned and converted line by line.**  With a named grammar no match has a line
feed, and the matches of a text are those of its lines, moved by their places.  So with a loaded
glossary, whatever the style is, the converted text is made of the converted lines, and the report
has their terms and their warnings in order, each warning with the number of its line. -/
theorem scan_and_conversion_linewise (gr : Grammar) (hgr : gr = .standard ∨ gr = .alternate)
    (text : String) :
    (∀ o ∈ gr.scan text, '\n' ∉ o.text.toList) ∧
      gr.scan text = (placedLines text.toList).flatMap gr.scanPlaced ∧
      ∀ (style : LinkStyle) (vsntag : String) (g : Glossary) (file : String) (j : Journal),
        g.ready = true → let r : Resolver := ⟨gr, style, vsntag⟩
          (∃ out, (r.convertText g file text j).1 = .ok out ∧
            (out = none ↔ ∀ l ∈ textLines text, (r.convertText g file l {}).1 = .ok none) ∧
            out.getD text = "\n".intercalate ((textLines text).map (r.output g file))) ∧
          (r.convertText g file text j).2.report =
            { converted := j.report.converted ++ (textLines text).flatMap fun l =>
                (r.convertText g file l {}).2.report.converted
              diagnostics := j.report.diagnostics ++ ((textLines text).zipIdx 1).flatMap fun p =>
                (r.convertText g file p.1 {}).2.report.diagnostics.map (Diagnostic.onLine p.2)
              errors := j.report.errors } := by
  obtain ⟨Head, Tail, hb, hu⟩ := Grammar.unbroken_of_named hgr
  have hscan := hb.scan_lines hu text
  refine ⟨hb.newline_not_mem hu (gr.picks_scan text), hscan, ?_⟩
  intro style vsntag g file j hg r
  refine ⟨⟨_, (convertText_spliced hg file text j).1, ?_, ?_⟩, ?_⟩
  · simp only [convertText_eq_none_iff hg]
    rw [← scan_eq_nil_iff_lines hscan]
    simp
  · rw [← output_lines hg file hscan]
    by_cases hs : gr.scan text = []
    · rw [if_pos hs, Resolver.output, (convertText_eq_none_iff hg file text {}).mpr hs]
      rfl
    · rw [if_neg hs]
      rfl
  · have hwarnings : r.warnings g file text = ((textLines text).zipIdx 1).flatMap fun p =>
        (r.warnings g file p.1).map (Diagnostic.onLine p.2) := by
      rw [Resolver.warnings, hscan, textLines, List.zipIdx_map, List.flatMap_map]
      exact warnings_lines file [] text.toList
    simp only [convertText_report hg, List.nil_append]
    rw [terms_lines hscan, ← hwarnings, textLines, List.flatMap_map]

/-- Two lines with a reference each, of which the second stays. -/
theorem scan_and_conversion_linewise_two :
    (∃ out, (Resolver.plain.convertText .plain "f" "[a](@)\n[b](@)" {}).1 = .ok out ∧
      out.getD "[a](@)\n[b](@)" = "\n".intercalate
        ((textLines "[a](@)\n[b](@)").map (Resolver.plain.output .plain "f"))) ∧
      textLines "[a](@)\n[b](@)" = ["[a](@)", "[b](@)"] := by
  have hlinewise := scan_and_conversion_linewise .standard (.inl rfl) "[a](@)\n[b](@)"
  obtain ⟨⟨out, hout, -, htext⟩, -⟩ := hlinewise.2.2 .standard "latest" .plain "f" {} rfl
  exact ⟨⟨out, hout, htext⟩, by decide⟩

end TermRef
