/-
TermRef/Proofs/Conversion/Defaults.lean

References that leave out their scope or their version, and the same references with the defaults
written out.

What a reference leaves out is the scope of the glossary and the version of the resolver.  Where
both can be written, the reference can say so itself (`Citation.filledBy`), and then it means what
the resolver made of it before (`Resolver.WritesDefaults.filledBy_reference`).  The naming stays as
it is, so in the alternate syntax a reference without a second half still has none, and what
follows it could still not be taken for one.

A longer reference moves what stands behind it.  The two scans go abreast up to the reference:
the texts agree up to a head in both, so no head begins before it in the one text only, and no
match before it ends otherwise (`Grammar.Bracketed.picks_cited_anew`).  What becomes of a reference
hangs on the reference alone, hence nothing else changes in the converted text
(`defaults_are_transparent`).
-/
import TermRef.Proofs.Conversion.Lines
import TermRef.Proofs.Conversion.Turns
import TermRef.Proofs.Reference.Escape
import TermRef.Proofs.Reference.Passage

namespace TermRef

open Pattern Grammar

/-! ### Writing out -/

/-- The origin, with what it leaves out taken from `d`. -/
def Origin.filledBy (o d : Origin) : Origin where
  scopetag := if o.scopetag = [] then d.scopetag else o.scopetag
  vsntag := o.vsntag.or d.vsntag
  scopetag_slug := by
    split
    · exact d.scopetag_slug
    · exact o.scopetag_slug
  vsntag_version := fun v hv => by
    rcases Option.or_eq_some_iff.mp hv with hv | ⟨-, hv⟩
    · exact o.vsntag_version v hv
    · exact d.vsntag_version v hv

/-- The reference, with what it leaves out of its origin written out as in `d`. -/
def Citation.filledBy (x : Citation) (d : Origin) : Citation where
  mention := { x.mention with origin := x.mention.origin.filledBy d }
  naming := x.naming

/-- A reference in the syntax of the grammar. -/
def Grammar.write (g : Grammar) (x : Citation) : List Char :=
  match g.kind with
  | .alternate => x.alternateText
  | _ => x.standardText

/-- The text with the span of a reference written as `w`. -/
def Occurrence.writtenIn (o : Occurrence) (s w : String) : String :=
  String.ofList (s.toList.take o.start ++ (w.toList ++ s.toList.drop o.stop))

theorem Origin.length_text_filledBy (o d : Origin) :
    o.text.length ≤ (o.filledBy d).text.length := by
  have hscope : o.scopetag.length ≤ (o.filledBy d).scopetag.length := by
    show o.scopetag.length ≤ (if o.scopetag = [] then d.scopetag else o.scopetag).length
    split
    · simp [*]
    · exact Nat.le_refl _
  have hversion : (markedText ':' o.vsntag).length ≤
      (markedText ':' (o.filledBy d).vsntag).length := by
    show _ ≤ (markedText ':' (o.vsntag.or d.vsntag)).length
    rcases o.vsntag with - | v
    · exact Nat.zero_le _
    · exact Nat.le_refl _
  rw [text, text, List.length_append, List.length_append]
  exact Nat.add_le_add hscope hversion

theorem Grammar.length_write_filledBy (g : Grammar) (x : Citation) (d : Origin) :
    (g.write x).length ≤ (g.write (x.filledBy d)).length := by
  have hle := x.mention.origin.length_text_filledBy d
  rw [write, write]
  split
  · simp only [Citation.alternateText, Mention.alternateText, Mention.headText,
      Citation.filledBy, List.length_append, List.length_cons]
    omega
  · simp only [Citation.standardText, Mention.standardText, Citation.filledBy, List.length_append,
      List.length_cons]
    omega

theorem Grammar.head?_write (g : Grammar) (x : Citation) : (g.write x).head? = some '[' := by
  rw [write]
  split <;> rfl

theorem Grammar.cites_of_named {g : Grammar} (h : g = .standard ∨ g = .alternate) :
    g.Cites g.write := by
  rcases h with rfl | rfl
  · exact standard_cites
  · exact alternate_cites

/-- What stands before a span and behind it. -/
theorem Occurrence.take_drop_of_span {o : Occurrence} {s : String} {u v w : List Char}
    (hs : s.toList = u ++ (w ++ v)) (hstart : o.start = u.length)
    (hstop : o.stop = o.start + w.length) :
    s.toList.take o.start = u ∧ s.toList.drop o.stop = v := by
  refine ⟨by rw [hs, hstart, List.take_left], ?_⟩
  rw [hs, hstop, hstart, ← List.append_assoc, ← List.length_append, List.drop_left]

theorem Occurrence.toList_writtenIn {o : Occurrence} {s : String} {u v w : List Char}
    (hs : s.toList = u ++ (w ++ v)) (hstart : o.start = u.length)
    (hstop : o.stop = o.start + w.length) (w' : String) :
    (o.writtenIn s w').toList = u ++ (w'.toList ++ v) := by
  obtain ⟨htake, hdrop⟩ := take_drop_of_span hs hstart hstop
  rw [writtenIn, String.toList_ofList, htake, hdrop]

/-! ### Another reference in its place -/

section Rewritten

variable {g : Grammar} {mark : Char} {Head Tail : List Char → Prop}
  {write : Citation → List Char} {c d k : Cursor} {u v : List Char} {x y : Citation}
  {os before after : List Occurrence} {o : Occurrence}

/-- Texts that begin with references in writing agree up to heads. -/
theorem Grammar.Cites.abreast (hcites : g.Cites write) (hb : g.Bracketed Head Tail)
    (hbracket : ∀ x, (write x).head? = some '[') (hx : x.Ends v) (y : Citation) :
    Abreast Head (write x ++ v) (write y ++ v) := by
  obtain ⟨d, hd, -⟩ := hcites.reads (c := .ofText (write x ++ v)) rfl hx
  obtain ⟨h, t, hh, -, hr, -⟩ := hb.took hd
  obtain ⟨w, hw⟩ : ∃ w, write y = '[' :: w := List.head?_eq_some_iff.mp (hbracket y)
  exact .inr ⟨[], h, t ++ d.rest, '[', w ++ v, by simpa using hr, by simp [hw], hh, .inl rfl⟩

/-- A reference further on is written as another one: what is picked before it is picked as it
was, and what is picked behind it is moved. -/
theorem Grammar.Bracketed.picks_cited_anew (hb : g.Bracketed Head Tail)
    (hw : Worded mark Head Tail) (hu : Unbroken Head Tail) (hcites : g.Cites write)
    (hbracket : ∀ x, (write x).head? = some '[') (hx : x.Ends v) (hy : y.Ends v) {n : Nat}
    (hlen : (write y).length = (write x).length + n) (h : g.Picks c os)
    (hos : os = before ++ o :: after) (hr : c.rest = u ++ (write x ++ v))
    (ho : o.start = c.pos + u.length) (hstop : o.stop = o.start + (write x).length)
    (hk : k.rest = u ++ (write y ++ v)) (hpos : k.pos = c.pos)
    (hesc : isEscaped k = isEscaped c) (hg : k.groups = []) :
    g.Picks k (before ++ ⟨o.start, o.start + (write y).length, String.ofList (write y),
      y.reference⟩ :: after.map (Occurrence.movedBy n)) := by
  have habreast := hcites.abreast hb hbracket hx y
  -- the two scans go abreast, and `u` is what stands between them and the reference
  induction h generalizing k before u with
  | done => simp at hos
  | @pass c a r os hr' hp hpicks ih =>
    have hlt := (hpicks.ordered.1 o (by simp [hos])).1
    rw [Cursor.past_pos, List.length_singleton] at hlt
    rcases u with - | ⟨b, u⟩
    · rw [List.length_nil] at ho
      omega
    · obtain ⟨rfl, rfl⟩ := List.cons.inj (hr'.symm.trans hr)
      rw [List.length_cons] at ho
      have hheads : ∀ h, Head h → h <+: k.rest → ∃ h', Head h' ∧ h' <+: c.rest :=
        fun h hh hpre => by
          rw [hr]
          exact (habreast.append (a :: u)).head hw hh (hk ▸ hpre)
      refine .pass hk (hb.isPassedOver_of_heads hheads hesc hp) (ih hos rfl ?_ rfl ?_ rfl hg)
      · rw [Cursor.past_pos, List.length_singleton]
        omega
      · rw [Cursor.past_pos, Cursor.past_pos, hpos]
  | @pick c d os hm hp hpicks ih =>
    obtain ⟨w, hne, hw', -, hposd, -⟩ := ahead_of_not_passedOver (Pattern.matchAt?_ahead hm) hp
    rcases before with - | ⟨b, before⟩
    · obtain ⟨rfl, rfl⟩ := List.cons.inj hos
      obtain rfl : u = [] := List.eq_nil_of_length_eq_zero (by simpa [Grammar.occurrence] using ho)
      -- the match takes the reference, and the other one in its place is matched as well
      obtain ⟨rfl, hrest⟩ : w = write x ∧ d.rest = v := by
        refine List.append_inj (hw'.symm.trans hr) ?_
        have hstop' : d.pos = c.pos + (write x).length := hstop
        omega
      obtain ⟨d', hd', hrest', href⟩ := hcites.reads (c := k) hk hy
      have hesc' : isEscaped k = false := by
        rw [hesc, ← hb.isPassedOver_eq hm, hp]
      obtain ⟨hpos', hp', hocc⟩ := occurrence_of_rest hd' hesc' (hbracket y) (hrest' ▸ hk)
      have hmoved : g.Picks d'.clear (os.map (Occurrence.movedBy n)) := by
        refine hb.picks_moved hu hpicks ?_ ?_ ((hb.closed hd').trans (hb.closed hm).symm) rfl
        · rw [Cursor.clear_pos, Cursor.clear_pos, hpos', hposd, hlen, hpos, Nat.add_assoc]
        · rw [Cursor.clear_rest, Cursor.clear_rest, hrest', hrest]
      have hpick := Picks.pick hd' hp' hmoved
      rw [hocc, href, hpos] at hpick
      exact hpick
    · -- a reference before it is picked where it was
      obtain ⟨rfl, rfl⟩ := List.cons.inj hos
      have hle := (hpicks.ordered.1 o (by simp)).1
      rw [Cursor.clear_pos, hposd, ho] at hle
      obtain ⟨u, rfl⟩ : w <+: u :=
        List.prefix_of_prefix_length_le ⟨_, hw'.symm⟩ ⟨_, hr.symm⟩ (Nat.le_of_add_le_add_left hle)
      rw [List.length_append] at ho
      rw [List.append_assoc] at hr hk
      have hrest : d.rest = u ++ (write x ++ v) := List.append_cancel_left (hw'.symm.trans hr)
      refine hb.pick_of_tails (n := 0) hm hp hw' hk (fun t ht hpre => ?_) hpos hesc hg
        (ih rfl hrest ?_ rfl ?_ ?_ hg)
      · rw [hrest]
        exact (habreast.append u).tail hw ht hpre
      · rw [Cursor.clear_pos, hposd, ho, Nat.add_assoc]
      · rw [Cursor.past_pos, Cursor.clear_pos, hpos, hposd]
      · exact (hb.isEscaped_past hm hp hw' k _).trans (hb.closed hm).symm

/-- **A reference of a text can be written as another one that is named alike and no shorter.**
The references before it stay, and those behind it are moved. -/
theorem Grammar.scan_writtenIn (hg : g = .standard ∨ g = .alternate) {s : String}
    (h : g.scan s = before ++ o :: after) :
    ∃ x : Citation, o.text = String.ofList (g.write x) ∧ o.reference = x.reference ∧
      ∀ y : Citation, y.naming = x.naming → (g.write x).length ≤ (g.write y).length →
        g.scan (o.writtenIn s (String.ofList (g.write y))) =
          before ++
            ⟨o.start, o.start + (g.write y).length, String.ofList (g.write y), y.reference⟩ ::
            after.map (Occurrence.movedBy ((g.write y).length - o.text.length)) := by
  obtain ⟨mark, Head, Tail, hb, hw, hu⟩ := heads_of_named hg
  have hcites := cites_of_named hg
  have hpicks : g.Picks (.ofText s.toList) (g.scan s) := g.picks_scan s
  obtain ⟨a, d, ⟨u, hr, -, hpos⟩, hd, hp, rfl⟩ := hpicks.exists_match o (by simp [h])
  obtain ⟨x, hx, hends, href⟩ := hcites.cited hd
  obtain ⟨w, -, hw', -, hposd, htext⟩ := ahead_of_not_passedOver (Pattern.matchAt?_ahead hd) hp
  obtain rfl : w = g.write x := List.append_cancel_right (hw'.symm.trans hx)
  have hs : s.toList = u ++ (g.write x ++ d.rest) := by rw [← hx]; exact hr
  have hstart : (g.occurrence a d).start = u.length := hpos.trans (Nat.zero_add _)
  have hstop : (g.occurrence a d).stop = (g.occurrence a d).start + (g.write x).length := hposd
  have htext : (g.occurrence a d).text = String.ofList (g.write x) := by
    rw [Grammar.occurrence, htext]
  refine ⟨x, htext, href, fun y hnaming hlen => ?_⟩
  have hput := Occurrence.toList_writtenIn hs hstart hstop (String.ofList (g.write y))
  rw [String.toList_ofList] at hput
  have hlen' : (g.occurrence a d).text.length = (g.write x).length := by
    rw [htext, String.length_ofList]
  refine Picks.eq_scan <| hb.picks_cited_anew hw hu hcites g.head?_write hends
    (fun hnone => hends (hnaming ▸ hnone)) ?_ hpicks h hs ?_ hstop hput rfl rfl rfl
  · rw [hlen']
    omega
  · rw [hstart]
    exact (Nat.zero_add _).symm

end Rewritten

/-! ### The defaults -/

/-- The scope of the glossary and the version of the resolver can be written in a reference. -/
structure Resolver.WritesDefaults (r : Resolver) (g : Glossary) : Prop where
  scopetag : g.scopetag ≠ "" ∧ ∀ c ∈ g.scopetag.toList, Slug.isSlugChar c = true
  vsntag : r.vsntag ≠ "" ∧ ∀ c ∈ r.vsntag.toList, isVersion c = true

namespace Resolver

variable {r : Resolver} {g : Glossary}

instance (r : Resolver) (g : Glossary) : Decidable (r.WritesDefaults g) :=
  decidable_of_iff ((g.scopetag ≠ "" ∧ g.scopetag.toList.all Slug.isSlugChar = true) ∧
      r.vsntag ≠ "" ∧ r.vsntag.toList.all isVersion = true) <| by
    simp only [List.all_eq_true]
    exact ⟨fun h => ⟨h.1, h.2⟩, fun h => ⟨h.scopetag, h.vsntag⟩⟩

/-- The scope of the glossary and the version of the resolver, as they are written. -/
def WritesDefaults.origin (h : r.WritesDefaults g) : Origin where
  scopetag := g.scopetag.toList
  vsntag := some r.vsntag.toList
  scopetag_slug := h.scopetag.2
  vsntag_version := by
    rintro v ⟨⟩
    exact ⟨mt String.toList_eq_nil_iff.mp h.vsntag.1, h.vsntag.2⟩

/-- **With the defaults written out a reference means what it was taken for without them.** -/
theorem WritesDefaults.filledBy_reference (h : r.WritesDefaults g) (x : Citation) :
    (x.filledBy h.origin).reference = r.filled g x.reference := by
  have hscope : presentPart (x.mention.origin.filledBy h.origin).scopetag =
      some ((presentPart x.mention.origin.scopetag).getD g.scopetag) := by
    show presentPart (if x.mention.origin.scopetag = [] then g.scopetag.toList
      else x.mention.origin.scopetag) = _
    by_cases hnil : x.mention.origin.scopetag = []
    · simp [hnil, presentPart, h.scopetag.1]
    · simp [hnil, presentPart]
  have hversion : (x.mention.origin.filledBy h.origin).vsntag.map String.ofList =
      some ((x.mention.origin.vsntag.map String.ofList).getD r.vsntag) := by
    show (x.mention.origin.vsntag.or (some r.vsntag.toList)).map String.ofList = _
    rcases x.mention.origin.vsntag with - | v
    · simp
    · rfl
  simp only [Citation.reference, Citation.filledBy, Mention.reference, filled, hscope, hversion]

/-- A reference that is filled in gets the same answer. -/
theorem answer_filled (ref : Reference) : r.answer g (r.filled g ref) = r.answer g ref := rfl

/-- What becomes of a reference becomes of it filled in. -/
theorem WritesDefaults.fate_filled (h : r.WritesDefaults g) {ref : Reference}
    (hs : ref.scopetag ≠ some "") (hv : ref.vsntag ≠ some "") :
    r.fate g (r.filled g ref) = r.fate g ref := by
  have present : ∀ {part : Option String} {whole : String}, part ≠ some "" → whole ≠ "" →
      some (part.getD whole) ≠ some "" := by
    rintro (- | s) whole hpart hwhole heq
    · exact hwhole (Option.some.inj heq)
    · exact hpart heq
  rw [fate_eq (present hs h.scopetag.1) (present hv h.vsntag.1), fate_eq hs hv]
  rfl

/-! ### Converted texts -/

/-- References with their links. -/
def linked (r : Resolver) (g : Glossary) (os : List Occurrence) :
    List (Occurrence × Option String) :=
  os.map fun o => (o, (r.fate g o.reference).link?)

/-- What a reference is put out as: its link, or its own text if it has none. -/
def putOut (r : Resolver) (g : Glossary) (o : Occurrence) : String :=
  (r.fate g o.reference).link?.getD o.text

theorem putOut_of_link {o : Occurrence} {l : String} (h : (r.fate g o.reference).link? = some l) :
    r.putOut g o = l := by
  rw [putOut, h, Option.getD_some]

theorem linked_movedBy (n : Nat) (os : List Occurrence) :
    r.linked g (os.map (Occurrence.movedBy n)) =
      (r.linked g os).map fun p => (p.1.movedBy n, p.2) := by
  simp only [linked, List.map_map]
  rfl

theorem toList_putOut (o : Occurrence) : (r.putOut g o).toList =
    ((r.fate g o.reference).link?.map String.toList).getD o.text.toList := by
  rw [putOut]
  cases (r.fate g o.reference).link? <;> rfl

/-- A text with references converts to what it is spliced to. -/
theorem convertText_of_spliced (hg : g.ready = true) {text out : String}
    (hne : r.grammar.scan text ≠ [])
    (h : Spliced 0 text.toList (r.linked g (r.grammar.scan text)) out.toList) (file : String)
    (j : Journal) : (r.convertText g file text j).1 = .ok (some out) := by
  obtain ⟨hconv, hspliced⟩ := convertText_spliced (r := r) hg file text j
  rw [hconv, if_neg hne, String.toList_injective (hspliced.unique h)]

/-- A reference is written as another one of the same fate, and the others are found as before:
then the text converts as before, around what the reference is put out as. -/
theorem convertText_writtenIn (hg : g.ready = true) {text : String}
    {before after : List Occurrence} {o o' : Occurrence} {n : Nat}
    (hscan : r.grammar.scan text = before ++ o :: after)
    (hscan' : r.grammar.scan (o.writtenIn text o'.text) =
      before ++ o' :: after.map (Occurrence.movedBy n))
    (hstart : o'.start = o.start) (hstop : o'.stop = o'.start + o'.text.toList.length)
    (hlen : o'.text.length = o.text.length + n) (hne : o'.text.toList ≠ [])
    (hfate : r.fate g o'.reference = r.fate g o.reference) :
    ∃ a b : String,
      Spliced 0 (text.toList.take o.start) (r.linked g before) a.toList ∧
      Spliced o.stop (text.toList.drop o.stop) (r.linked g after) b.toList ∧
      ∀ (file : String) (j : Journal),
        (r.convertText g file text j).1 = .ok (some (a ++ r.putOut g o ++ b)) ∧
        (r.convertText g file (o.writtenIn text o'.text) j).1 =
          .ok (some (a ++ r.putOut g o' ++ b)) ∧
        (r.convertText g file (o.writtenIn text o'.text) j).2.report.converted =
          (r.convertText g file text j).2.report.converted := by
  have hlinked : ∀ (p : Occurrence) (ps : List Occurrence), r.linked g (before ++ p :: ps) =
      r.linked g before ++ (p, (r.fate g p.reference).link?) :: r.linked g ps := by
    simp [linked]
  have hspliced : Spliced 0 text.toList (r.linked g (before ++ o :: after))
      (r.output g "" text).toList := hscan ▸ (convertText_spliced hg "" text {}).2
  -- the text is spliced before the reference and behind it
  have hsplit := hspliced
  rw [hlinked] at hsplit
  obtain ⟨u, v, a, b, hu, hstart', hstop', -, ha, hb, hout⟩ := hsplit.split
  have hspan : o.start = u.length := hstart'.trans (Nat.zero_add _)
  have hmoved : o'.stop = o.stop + n := by
    rw [hstop, hstart, hstop', String.length_toList, String.length_toList, hlen, Nat.add_assoc]
  obtain ⟨htake, hdrop⟩ := Occurrence.take_drop_of_span hu hspan hstop'
  have hput : ∀ p : Occurrence, (String.ofList a ++ r.putOut g p ++ String.ofList b).toList =
      a ++ (((r.fate g p.reference).link?.map String.toList).getD p.text.toList ++ b) := fun p => by
    simp only [String.toList_append, String.toList_ofList, toList_putOut, List.append_assoc]
  refine ⟨String.ofList a, String.ofList b, ?_, ?_, fun file j => ⟨?_, ?_, ?_⟩⟩
  · rwa [htake, String.toList_ofList]
  · rwa [hdrop, String.toList_ofList]
  · refine convertText_of_spliced hg (by simp [hscan]) ?_ file j
    rwa [hscan, hput, ← hout]
  · refine convertText_of_spliced hg (by simp [hscan']) ?_ file j
    rw [hscan', hput, hlinked, linked_movedBy, Occurrence.toList_writtenIn hu hspan hstop']
    exact ha.append (.span (hstart.trans hstart') (by rw [hstop, hstart, hstart']) rfl hne
      (hmoved ▸ hb.movedBy n))
  · have hterms : r.terms g (o.writtenIn text o'.text) = r.terms g text := by
      rw [terms, terms, hscan, hscan', List.filterMap_append, List.filterMap_append,
        List.filterMap_cons, List.filterMap_cons, hfate, List.filterMap_map]
      rfl
    rw [convertText_report hg, convertText_report hg, hterms]

end Resolver

/-- **Defaults are transparent.**  The glossary answers, and its scope and the version of the
resolver can be written in references.  Let any reference that a scan with a named grammar finds
be written with its defaults in their places.  Then it is found there, and means what it was
filled in to; it gets the same answer and has the same fate.  The other references stay, but for
being moved, and the text converts as before, around what the reference is put out as, and with
the same terms. -/
theorem defaults_are_transparent (r : Resolver) (g : Glossary)
    (hr : r.grammar = .standard ∨ r.grammar = .alternate) (hg : g.ready = true)
    (hd : r.WritesDefaults g) {text : String} {before after : List Occurrence} {o : Occurrence}
    (hscan : r.grammar.scan text = before ++ o :: after) :
    ∃ x : Citation, o.text = String.ofList (r.grammar.write x) ∧ o.reference = x.reference ∧
      let w := r.grammar.write (x.filledBy hd.origin)
      let o' : Occurrence :=
        ⟨o.start, o.start + w.length, String.ofList w, r.filled g o.reference⟩
      r.grammar.scan (o.writtenIn text o'.text) =
        before ++ o' :: after.map (Occurrence.movedBy (w.length - o.text.length)) ∧
      r.answer g o'.reference = r.answer g o.reference ∧
      r.fate g o'.reference = r.fate g o.reference ∧
      ∃ a b : String,
        Spliced 0 (text.toList.take o.start) (r.linked g before) a.toList ∧
        Spliced o.stop (text.toList.drop o.stop) (r.linked g after) b.toList ∧
        ∀ (file : String) (j : Journal),
          (r.convertText g file text j).1 = .ok (some (a ++ r.putOut g o ++ b)) ∧
          (r.convertText g file (o.writtenIn text o'.text) j).1 =
            .ok (some (a ++ r.putOut g o' ++ b)) ∧
          (r.convertText g file (o.writtenIn text o'.text) j).2.report.converted =
            (r.convertText g file text j).2.report.converted := by
  obtain ⟨x, htext, href, hagain⟩ := Grammar.scan_writtenIn hr hscan
  refine ⟨x, htext, href, ?_⟩
  intro w o'
  have hlonger : (r.grammar.write x).length ≤ w.length :=
    r.grammar.length_write_filledBy x hd.origin
  have hscan' := hagain (x.filledBy hd.origin) rfl hlonger
  rw [hd.filledBy_reference, ← href] at hscan'
  obtain ⟨hs, hv⟩ : o.reference.scopetag ≠ some "" ∧ o.reference.vsntag ≠ some "" := by
    obtain ⟨-, d, -, heq⟩ := (r.grammar.picks_scan text).interpreted o (by simp [hscan])
    exact heq ▸ interpret_present r.grammar d
  have hfate : r.fate g o'.reference = r.fate g o.reference := hd.fate_filled hs hv
  have hlist : o'.text.toList = w := String.toList_ofList
  have hlen : o'.text.length = o.text.length + (w.length - o.text.length) := by
    have hw : o'.text.length = w.length := String.length_ofList
    rw [hw, htext, String.length_ofList]
    omega
  have hne : w ≠ [] := by
    intro hnil
    have hhead : w.head? = some '[' := r.grammar.head?_write _
    rw [hnil] at hhead
    cases hhead
  exact ⟨hscan', Resolver.answer_filled _, hfate, Resolver.convertText_writtenIn hg hscan hscan'
    rfl (by rw [hlist]) hlen (hlist ▸ hne) hfate⟩

/-- A mention that says nothing of its origin. -/
def Mention.bare : Mention :=
  ⟨['a'], ⟨[], none, Naming.absent.id_slug, nofun⟩, List.cons_ne_nil _ _, List.all_eq_true.mp rfl⟩

/-- The first of two references is linked, and the text converts to the same when its scope and
its version are written out. -/
theorem defaults_are_transparent_first : ∃ out : String, ∀ (file : String) (j : Journal),
    (Resolver.plain.convertText .plain file "[a](@) [b](@)" j).1 = .ok (some out) ∧
      (Resolver.plain.convertText .plain file "[a](@s:latest) [b](@)" j).1 = .ok (some out) := by
  have hscan : Resolver.plain.grammar.scan "[a](@) [b](@)" =
      [] ++ ⟨0, 6, "[a](@)", "a", "a", none, none, none⟩ ::
        [⟨7, 13, "[b](@)", "b", "b", none, none, none⟩] := by decide +kernel
  have hd : Resolver.plain.WritesDefaults .plain := by decide
  obtain ⟨x, htext, -, -, -, hfate, a, b, -, -, hconv⟩ :=
    defaults_are_transparent .plain .plain (.inl rfl) rfl hd hscan
  -- the text of the reference tells which one it is
  have hwritten : x.mention.standardText (x.naming.getD .absent) ++ [] =
      Mention.bare.standardText .absent ++ [] := by
    rw [List.append_nil, List.append_nil]
    exact String.toList_ofList.symm.trans (congrArg String.toList htext.symm)
  obtain ⟨hmention, hnaming, -⟩ := Mention.standardText_append_inj hwritten
  have hw : String.ofList (Resolver.plain.grammar.write (x.filledBy hd.origin)) =
      "[a](@s:latest)" := by
    show String.ofList (Mention.standardText { x.mention with origin := _ }
      (x.naming.getD .absent)) = _
    rw [hnaming, hmention]
    rfl
  have hlink : (Resolver.plain.fate .plain ⟨"a", "a", none, none, none⟩).link? =
      some "[a](url)" := by decide +kernel
  have hput : Occurrence.writtenIn ⟨0, 6, "[a](@)", "a", "a", none, none, none⟩ "[a](@) [b](@)"
      "[a](@s:latest)" = "[a](@s:latest) [b](@)" := by decide
  refine ⟨a ++ "[a](url)" ++ b, fun file j => ?_⟩
  obtain ⟨hout, hout', -⟩ := hconv file j
  rw [Resolver.putOut_of_link hlink] at hout
  rw [Resolver.putOut_of_link ((congrArg Fate.link? hfate).trans hlink)] at hout'
  dsimp only at hout'
  rw [hw, hput] at hout'
  exact ⟨hout, hout'⟩

end TermRef
