/-
TermRef/Proofs/Reference/Passage.lean

Texts written as plain text and references in alternation, and what scans of them find.

A `Passage` has no text yet.  Written with references in the default syntax or in the
alternate one it has two, and each is read back by the grammar of its syntax: a scan finds
the references of the passage, in order, where they have been written
(`picks_written`).  The other grammar finds nothing in it, because the words of every
reference end at a mark that is not its own (`picks_nothing`).

Plain text holds no opening bracket, so every reference begins at a bracket of one that was
written.  Beyond that it only has to leave the references alone: not to escape the next one,
and not to begin with a parenthesis after one, which could be taken for its second half.
-/
import TermRef.Proofs.Reference.Words

namespace TermRef

open Pattern Grammar

/-! ### References in writing -/

/-- A reference as it is written: the words and where the term comes from, and what names
the term, if anything does. -/
structure Citation where
  mention : Mention
  naming : Option Naming

namespace Citation

/-- `[words](id#trait@scope:version)`. -/
def standardText (x : Citation) : List Char := x.mention.standardText (x.naming.getD .absent)

/-- `[words@scope:version](id#trait)`, without the second half if nothing names the term. -/
def alternateText (x : Citation) : List Char := x.mention.alternateText x.naming

/-- What the reference means, in either syntax. -/
def reference (x : Citation) : Reference := x.mention.reference (x.naming.getD .absent)

end Citation

/-! ### Passages -/

/-- References, each with the plain text before it, and the plain text at the end. -/
structure Passage where
  pieces : List (List Char × Citation)
  last : List Char
  /-- Plain text holds no opening bracket. -/
  plain : ∀ f ∈ pieces.map Prod.fst ++ [last], '[' ∉ f
  /-- It does not escape the reference after it. -/
  unescaped : ∀ p ∈ pieces, ∀ c ∈ p.1.getLast?, isEscape c = false
  /-- It does not begin with a parenthesis after a reference. -/
  apart : ∀ f ∈ (pieces.map Prod.fst ++ [last]).tail, f.head? ≠ some '('

/-- The text of pieces with references written in some way, up to a last text. -/
def written (write : Citation → List Char) (last : List Char) :
    List (List Char × Citation) → List Char
  | [] => last
  | (f, x) :: ps => f ++ (write x ++ written write last ps)

/-- Where the references of pieces stand in their text, which begins at position `n`. -/
def occurrencesFrom (write : Citation → List Char) :
    Nat → List (List Char × Citation) → List Occurrence
  | _, [] => []
  | n, (f, x) :: ps =>
    let start := n + f.length
    let stop := start + (write x).length
    ⟨start, stop, String.ofList (write x), x.reference⟩ :: occurrencesFrom write stop ps

namespace Passage

/-- The text with references in the default syntax. -/
def standardText (p : Passage) : String :=
  String.ofList (written Citation.standardText p.last p.pieces)

/-- The text with references in the alternate syntax. -/
def alternateText (p : Passage) : String :=
  String.ofList (written Citation.alternateText p.last p.pieces)

/-- The references where they stand in the text that `write` gives. -/
def occurrences (p : Passage) (write : Citation → List Char) : List Occurrence :=
  occurrencesFrom write 0 p.pieces

/-- The references, in order. -/
def references (p : Passage) : List Reference := p.pieces.map fun q => q.2.reference

end Passage

theorem map_reference_occurrencesFrom (write : Citation → List Char) (n : Nat)
    (ps : List (List Char × Citation)) :
    (occurrencesFrom write n ps).map Occurrence.reference = ps.map fun q => q.2.reference := by
  induction ps generalizing n with
  | nil => rfl
  | cons p ps ih => rw [occurrencesFrom, List.map_cons, List.map_cons, ih]

/-! ### Reading back -/

variable {g : Grammar} {Head Tail : List Char → Prop} {write : Citation → List Char} {c : Cursor}

/-- What follows could not be taken for the second half of a reference that has none. -/
def Citation.Ends (x : Citation) (r : List Char) : Prop :=
  x.naming = none → ∀ n : Naming, ¬ n.tailText <+: r

/-- A grammar matches references in writing, each up to its end, and nothing else. -/
structure Grammar.Cites (g : Grammar) (write : Citation → List Char) : Prop where
  /-- What a match takes is a reference in writing, and it means what that means. -/
  cited : ∀ {c d : Cursor}, g.pattern.matchAt? c = some d →
    ∃ x : Citation, c.rest = write x ++ d.rest ∧ x.Ends d.rest ∧ g.interpret d = x.reference
  /-- A reference in writing is matched. -/
  reads : ∀ {c : Cursor} {x : Citation} {r : List Char}, c.rest = write x ++ r → x.Ends r →
    ∃ d, g.pattern.matchAt? c = some d ∧ d.rest = r ∧ g.interpret d = x.reference

theorem standard_cites : standard.Cites Citation.standardText where
  cited := by
    intro c d hd
    obtain ⟨m, n, hr, href⟩ := standard_matchAt?_eq_some hd
    exact ⟨⟨m, some n⟩, hr, nofun, href⟩
  reads := by
    intro c x r hr _
    obtain ⟨d, hd⟩ := Option.isSome_iff_exists.mp (standard_matchAt?_isSome hr)
    obtain ⟨m, n, hr', href⟩ := standard_matchAt?_eq_some hd
    obtain ⟨rfl, rfl, hrest⟩ := Mention.standardText_append_inj (hr.symm.trans hr')
    exact ⟨d, hd, hrest.symm, href⟩

theorem alternate_cites : alternate.Cites Citation.alternateText where
  cited := by
    intro c d hd
    obtain ⟨m, t, took, href, hlast⟩ := alternate_matchAt?_eq_some hd
    exact ⟨⟨m, t⟩, took.rest, hlast, href⟩
  reads := by
    rintro c ⟨m, t⟩ r hr hends
    have hr : c.rest = m.headText ++ (t.elim [] Naming.tailText ++ r) := by
      rw [hr, Citation.alternateText, Mention.alternateText, List.append_assoc]
    obtain ⟨d, hd⟩ := Option.isSome_iff_exists.mp (alternate_matchAt?_isSome hr)
    obtain ⟨m', t', took, href, hlast⟩ := alternate_matchAt?_eq_some hd
    have hr' : c.rest = m'.headText ++ (t'.elim [] Naming.tailText ++ d.rest) := by
      rw [took.rest, Mention.alternateText, List.append_assoc]
    obtain ⟨rfl, htail⟩ := Mention.headText_append_inj (hr.symm.trans hr')
    -- the second half is there in the match if and only if it has been written
    rcases t with - | n <;> rcases t' with - | n'
    · exact ⟨d, hd, htail.symm, href⟩
    · exact absurd ⟨d.rest, htail.symm⟩ (hends rfl n')
    · exact absurd ⟨r, htail⟩ (hlast rfl n)
    · obtain ⟨rfl, hrest⟩ := Naming.tailText_append_inj htail
      exact ⟨d, hd, hrest.symm, href⟩

/-- The grammar matches all of a written reference, and reads what it means, wherever no
parenthesis follows. -/
def Grammar.Reads (g : Grammar) (write : Citation → List Char) : Prop :=
  ∀ {c : Cursor} {x : Citation} {r : List Char}, c.rest = write x ++ r → r.head? ≠ some '(' →
    ∃ d, g.pattern.matchAt? c = some d ∧ d.rest = r ∧ g.interpret d = x.reference

/-- Without a parenthesis no second half follows. -/
theorem Grammar.Cites.toReads (h : g.Cites write) : g.Reads write := by
  intro c x r hr hparen
  refine h.reads hr fun _ n hn => hparen ?_
  obtain ⟨s, rfl⟩ := hn
  rfl

/-- What is known of a match from the text that it takes. -/
theorem occurrence_of_rest {c d : Cursor} {w : List Char} {y : Char}
    (hd : g.pattern.matchAt? c = some d) (hc : isEscaped c = false) (hw : w.head? = some y)
    (hr : c.rest = w ++ d.rest) :
    d.pos = c.pos + w.length ∧ isPassedOver c d = false ∧
      g.occurrence c d = ⟨c.pos, c.pos + w.length, String.ofList w, g.interpret d⟩ := by
  obtain ⟨v, hv, -, hpos⟩ := Pattern.matchAt?_ahead hd
  obtain rfl : w = v := List.append_cancel_right (hr.symm.trans hv)
  have hne : w ≠ [] := by
    rintro rfl
    cases hw
  have hp : isPassedOver c d = false := by simp [isPassedOver, hc, hpos, hne]
  obtain ⟨u, -, hu, -, -, htext⟩ := ahead_of_not_passedOver (Pattern.matchAt?_ahead hd) hp
  obtain rfl : w = u := List.append_cancel_right (hr.symm.trans hu)
  exact ⟨hpos, hp, by rw [Grammar.occurrence, htext, hpos]⟩

/-- What comes after a reference begins with no parenthesis, if plain text does not. -/
theorem head?_written_ne (hwrite : ∀ x, (write x).head? = some '[') {last : List Char}
    {ps : List (List Char × Citation)}
    (hapart : ∀ f ∈ ps.map Prod.fst ++ [last], f.head? ≠ some '(') :
    (written write last ps).head? ≠ some '(' := by
  rcases ps with - | ⟨⟨f, x⟩, ps⟩
  · exact hapart last (by simp)
  · have hf : f.head? ≠ some '(' := hapart f (by simp)
    rcases f with - | ⟨y, f⟩
    · rw [written, List.nil_append, List.head?_append, hwrite x, Option.some_or]
      decide
    · exact hf

/-- **References are found where they have been written.** -/
theorem picks_written (hb : g.Bracketed Head Tail) (hread : g.Reads write)
    (hwrite : ∀ x, (write x).head? = some '[') {last : List Char}
    {ps : List (List Char × Citation)} (hplain : ∀ f ∈ ps.map Prod.fst ++ [last], '[' ∉ f)
    (hunescaped : ∀ p ∈ ps, ∀ c ∈ p.1.getLast?, isEscape c = false)
    (hapart : ∀ f ∈ (ps.map Prod.fst ++ [last]).tail, f.head? ≠ some '(')
    (hr : c.rest = written write last ps) (hc : isEscaped c = false) :
    g.Picks c (occurrencesFrom write c.pos ps) := by
  induction ps generalizing c with
  | nil =>
    have hr' : c.rest = last ++ [] := by rw [hr, written, List.append_nil]
    exact hb.picks_past (.of_not_mem (hplain last (by simp))) hr' (.done rfl)
  | cons p ps ih =>
    obtain ⟨f, x⟩ := p
    refine hb.picks_past (.of_not_mem (hplain f (by simp))) hr ?_
    -- the reference is not escaped, neither by the plain text nor by what comes before
    have hesc : isEscaped (c.past f (write x ++ written write last ps)) = false := by
      rcases List.eq_nil_or_concat f with rfl | ⟨f, y, rfl⟩
      · exact hc
      · have hy := hunescaped _ List.mem_cons_self y (by simp)
        simpa [isEscaped] using hy
    obtain ⟨d, hd, hrest, href⟩ := hread (c := c.past f (write x ++ written write last ps)) rfl
      (head?_written_ne hwrite hapart)
    obtain ⟨hpos, hp, hocc⟩ := occurrence_of_rest hd hesc (hwrite x) (hrest ▸ rfl)
    have hclosed : isEscaped d = false := hb.closed hd
    have hpicks := ih (c := d.clear) (fun f' hf' => hplain f' (List.mem_cons_of_mem _ hf'))
      (fun q hq => hunescaped q (List.mem_cons_of_mem _ hq))
      (fun f' hf' => hapart f' (List.mem_of_mem_tail hf')) hrest hclosed
    rw [Cursor.clear_pos, hpos] at hpicks
    rw [href] at hocc
    rw [occurrencesFrom, ← Cursor.past_pos c f, ← hocc]
    exact .pick hd hp hpicks

/-! ### The other grammar -/

/-- **A grammar finds nothing where the words of every reference end at another mark than
its own.** -/
theorem picks_nothing {mark x : Char} (hb : g.Bracketed Head Tail) (hw : Worded mark Head Tail)
    (hne : x ≠ mark) (hx : isShown x = false)
    (hwrite : ∀ y : Citation, ∃ r, write y = '[' :: (y.mention.shown ++ x :: r) ∧ '[' ∉ x :: r)
    {last : List Char} {ps : List (List Char × Citation)}
    (hplain : ∀ f ∈ ps.map Prod.fst ++ [last], '[' ∉ f) (hr : c.rest = written write last ps) :
    g.Picks c [] := by
  have hquiet : Quiet Head (written write last ps) [] := by
    clear hr
    induction ps with
    | nil => exact .of_not_mem (hplain last (by simp))
    | cons p ps ih =>
      obtain ⟨f, y⟩ := p
      obtain ⟨r, hy, hmem⟩ := hwrite y
      refine .append (.of_not_mem (hplain f (by simp))) (.append ?_ (ih fun f' hf' =>
        hplain f' (List.mem_cons_of_mem _ hf')))
      rw [hy]
      exact hw.quiet y.mention.shown_isShown hx hne hmem
  exact hb.picks_past hquiet (by rw [hr, List.append_nil]) (.done rfl)

/-! ### Both syntaxes -/

theorem Citation.head?_standardText (x : Citation) : x.standardText.head? = some '[' := rfl

theorem Citation.head?_alternateText (x : Citation) : x.alternateText.head? = some '[' := rfl

/-- In the default syntax the words of a reference end at a closing bracket. -/
theorem Citation.standardText_words (x : Citation) :
    ∃ r, x.standardText = '[' :: (x.mention.shown ++ ']' :: r) ∧ '[' ∉ ']' :: r := by
  refine ⟨'(' :: ((x.naming.getD .absent).text ++ '@' :: (x.mention.origin.text ++ [')'])), ?_, ?_⟩
  · simp [Citation.standardText, Mention.standardText]
  · simp [Naming.not_mem_text _ (x := '[') (by decide),
      Origin.not_mem_text _ (x := '[') (by decide)]

/-- In the alternate syntax the words of a reference end at an at sign. -/
theorem Citation.alternateText_words (x : Citation) :
    ∃ r, x.alternateText = '[' :: (x.mention.shown ++ '@' :: r) ∧ '[' ∉ '@' :: r := by
  refine ⟨x.mention.origin.text ++ ']' :: x.naming.elim [] Naming.tailText, ?_, ?_⟩
  · simp [Citation.alternateText, Mention.alternateText, Mention.headText]
  · have htail : '[' ∉ x.naming.elim [] Naming.tailText := by
      rcases x.naming with - | n
      · simp
      · exact alternate_bracketed.not_mem_tail ⟨n, rfl⟩
    simp [Origin.not_mem_text _ (x := '[') (by decide), htail]

/-- A scan of a passage in the default syntax finds its references. -/
theorem Passage.scan_standardText (p : Passage) :
    standard.scan p.standardText = p.occurrences Citation.standardText :=
  Picks.eq_scan <| picks_written standard_bracketed standard_cites.toReads
    Citation.head?_standardText p.plain p.unescaped p.apart String.toList_ofList rfl

/-- So does one in the alternate syntax. -/
theorem Passage.scan_alternateText (p : Passage) :
    alternate.scan p.alternateText = p.occurrences Citation.alternateText :=
  Picks.eq_scan <| picks_written alternate_bracketed alternate_cites.toReads
    Citation.head?_alternateText p.plain p.unescaped p.apart String.toList_ofList rfl

/-- **A passage is read back in both syntaxes, each by its own grammar only.**  A scan with
the grammar of the syntax finds the references of the passage, in order, with what they mean
and where they have been written; a scan with the other grammar finds nothing. -/
theorem Passage.scan_written (p : Passage) :
    standard.scan p.standardText = p.occurrences Citation.standardText ∧
      alternate.scan p.alternateText = p.occurrences Citation.alternateText ∧
      (standard.scan p.standardText).map Occurrence.reference = p.references ∧
      (alternate.scan p.alternateText).map Occurrence.reference = p.references ∧
      alternate.scan p.standardText = [] ∧ standard.scan p.alternateText = [] := by
  have hstandard := p.scan_standardText
  have halternate := p.scan_alternateText
  refine ⟨hstandard, halternate, ?_, ?_, ?_, ?_⟩
  · rw [hstandard]
    exact map_reference_occurrencesFrom _ 0 p.pieces
  · rw [halternate]
    exact map_reference_occurrencesFrom _ 0 p.pieces
  · exact Picks.eq_scan <| picks_nothing alternate_bracketed alternate_worded (by decide) rfl
      Citation.standardText_words p.plain String.toList_ofList
  · exact Picks.eq_scan <| picks_nothing standard_bracketed standard_worded (by decide) rfl
      Citation.alternateText_words p.plain String.toList_ofList

/-- Two references, the second of which names its term. -/
example : ∃ p : Passage, p.standardText = "a [b](@), [c](d@)." ∧
    p.alternateText = "a [b@], [c@](d)." :=
  ⟨{ pieces :=
      [(['a', ' '], ⟨⟨['b'], ⟨[], none, by simp, by simp⟩, by simp, by simp; rfl⟩, none⟩),
        ([',', ' '], ⟨⟨['c'], ⟨[], none, by simp, by simp⟩, by simp, by simp; rfl⟩,
          some ⟨['d'], none, by simp; rfl, by simp⟩⟩)]
     last := ['.']
     plain := by simp
     unescaped := by simp; rfl
     apart := by simp }, rfl, rfl⟩

end TermRef
