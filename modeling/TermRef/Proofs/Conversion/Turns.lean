/-
TermRef/Proofs/Conversion/Turns.lean

Scanning a text some of whose references have been replaced, by whatever begins and ends like
a rendering (`Fenced`).

`Turns` holds the two texts side by side: the one that was scanned first, and what becomes of
it.  A second scan, of the new text, is at any time in one of two kinds of places (`Stands`).
It is beside a place of the first scan, or inside a replacement.  Beside the first scan it
picks what was picked there and has stayed: up to the next replacement the two texts agree,
and where words run on into a replacement in the new text, they run on into a head in the old
one (`Abreast`).

From inside a replacement a match may run out into what follows, and there it could end
anywhere, if it were not for what heads are made of.  It never ends within a reference that has
stayed, because that has a bracket, and from an inner bracket on a head is a head again
(`Worded.eq_of_inner`).  So behind it the scan is beside the first one once more, or inside
another replacement (`Turns.stands`).

What the second scan picks has therefore stayed, or begins inside a replacement
(`Grammar.Bracketed.picks_turned`).
-/
import TermRef.Proofs.Conversion.Splice
import TermRef.Proofs.Link.Anchor
import TermRef.Proofs.Reference.Words

namespace TermRef

open Pattern

/-! ### Heads within heads -/

section Heads

variable {g : Grammar} {mark : Char} {Head Tail : List Char → Prop}

/-- A match takes the text `w` in front of `r`: a head, and the tail after it if there is one. -/
def Covers (Head Tail : List Char → Prop) (w r : List Char) : Prop :=
  ∃ h t, w = h ++ t ∧ Head h ∧ (t = [] ∨ Tail t) ∧ (t = [] → ∀ x, Tail x → ¬ x <+: r)

theorem Grammar.Bracketed.covers (hb : g.Bracketed Head Tail) {c d : Cursor} {w : List Char}
    (hd : g.pattern.matchAt? c = some d) (hw : c.rest = w ++ d.rest) :
    Covers Head Tail w d.rest := by
  obtain ⟨h, t, hh, ht, hr, hlast⟩ := hb.took hd
  exact ⟨h, t, List.append_cancel_right (hw.symm.trans hr), hh, ht, hlast⟩

/-- A match that runs into another one does not end within it. -/
theorem Covers.eq_nil (hw : Worded mark Head Tail) (hb : g.Bracketed Head Tail)
    {p u v r s : List Char} (hu : u ≠ []) (hpu : Covers Head Tail (p ++ u) (v ++ r))
    (huv : Covers Head Tail (u ++ v) s) : v = [] := by
  obtain ⟨h, t, hht, hh, ht, hlast⟩ := hpu
  obtain ⟨h', t', hht', hh', ht', -⟩ := huv
  have htail : t ++ v = t' := (hw.split_of_inner hb hh ht hht.symm hu hh' hht'.symm).2.symm
  rcases ht' with rfl | ht'
  · exact (List.append_eq_nil_iff.mp htail).2
  · rcases ht with rfl | ht
    · exact absurd ⟨r, by rw [← htail, List.nil_append]⟩ (hlast rfl t' ht')
    · obtain rfl := hb.tail_inj ht ht' (htail.trans (List.append_nil t').symm)
      simpa using htail

end Heads

/-! ### Texts that agree up to a head -/

/-- Two texts are the same up to a place where the one has a head and the other a bracket,
square or pointed, if there is such a place. -/
def Abreast (Head : List Char → Prop) (s out : List Char) : Prop :=
  s = out ∨ ∃ p h y b x, s = p ++ (h ++ y) ∧ out = p ++ b :: x ∧ Head h ∧ (b = '[' ∨ b = '<')

namespace Abreast

variable {mark : Char} {Head Tail : List Char → Prop} {s out : List Char}

theorem append (w : List Char) (h : Abreast Head s out) : Abreast Head (w ++ s) (w ++ out) := by
  rcases h with rfl | ⟨p, h, y, b, x, rfl, rfl, hh, hbr⟩
  · exact .inl rfl
  · exact .inr ⟨w ++ p, h, y, b, x, by simp, by simp, hh, hbr⟩

/-- Where the one text begins with a head, the other does. -/
theorem head (ha : Abreast Head s out) (hw : Worded mark Head Tail) {h : List Char} (hh : Head h)
    (hp : h <+: out) : ∃ h', Head h' ∧ h' <+: s := by
  rcases ha with rfl | ⟨p, h₀, y, b, x, rfl, rfl, hh₀, hbr⟩
  · exact ⟨h, hh, hp⟩
  · obtain ⟨r, hr⟩ := hp
    rcases List.append_eq_append_iff.mp hr with ⟨as, rfl, -⟩ | ⟨q, rfl, hq⟩
    · exact ⟨h, hh, by simp⟩
    · rcases q with - | ⟨b', q⟩
      · exact ⟨p, by simpa using hh, by simp⟩
      · obtain ⟨rfl, -⟩ := List.cons.inj hq
        obtain ⟨shown, v, heq, -, hshown, hv⟩ := hw.split hh
        rcases p with - | ⟨z, p⟩
        · exact ⟨h₀, hh₀, by simp⟩
        · -- the words run on into the bracket, and in the other text into the head there
          have hmem : b ∉ mark :: v := by
            rcases hbr with rfl | rfl
            · exact fun hm => (hv _ hm).1 rfl
            · exact fun hm => (hv _ hm).2 rfl
          obtain ⟨rfl, hwords⟩ := List.cons.inj heq
          obtain ⟨u, rfl, -⟩ := append_eq_append_of_not_mem hmem hwords.symm
          obtain ⟨shown₀, v₀, rfl, -⟩ := hw.split hh₀
          have hp : ∀ c ∈ p, isShown c = true := fun c hc => hshown c (by simp [hc])
          exact ⟨_, hw.outer hp hh₀, by simp⟩

/-- Where the one text begins with a tail, the other does. -/
theorem tail (ha : Abreast Head s out) (hw : Worded mark Head Tail) {t : List Char} (ht : Tail t)
    (hp : t <+: out) : t <+: s := by
  rcases ha with rfl | ⟨p, h, y, b, x, rfl, rfl, -, hbr⟩
  · exact hp
  · have hmem : b ∉ t := by
      rcases hbr with rfl | rfl
      · exact fun hm => (hw.tail ht _ hm).1 rfl
      · exact fun hm => (hw.tail ht _ hm).2 rfl
    exact (prefix_of_not_mem hmem hp).trans (List.prefix_append _ _)

end Abreast

/-! ### What becomes of a text -/

/-- The replacements of references, each with the place where it begins in the new text, which
is ahead of the old one by `δ`. -/
def landings (f : Occurrence → Option String) : Int → List Occurrence → List (Int × String)
  | _, [] => []
  | δ, o :: os =>
    match f o with
    | none => landings f δ os
    | some l => (o.start + δ, l) :: landings f (δ + Edit.delta ⟨o.start, o.stop, l⟩) os

/-- What lands replaces a reference. -/
theorem mem_landings {f : Occurrence → Option String} {δ : Int} {os : List Occurrence}
    {p : Int × String} (h : p ∈ landings f δ os) : ∃ o ∈ os, f o = some p.2 := by
  induction os generalizing δ with
  | nil => cases h
  | cons o os ih =>
    rcases hfo : f o with - | l
    · rw [landings, hfo] at h
      obtain ⟨o', ho', hp⟩ := ih h
      exact ⟨o', List.mem_cons_of_mem _ ho', hp⟩
    · rw [landings, hfo] at h
      rcases List.mem_cons.mp h with rfl | h
      · exact ⟨o, List.mem_cons_self, hfo⟩
      · obtain ⟨o', ho', hp⟩ := ih h
        exact ⟨o', List.mem_cons_of_mem _ ho', hp⟩

/-- What lands stands in the new text where it is said to. -/
theorem Spliced.landed {f : Occurrence → Option String} {n : Nat} {s out : List Char}
    {os : List Occurrence} (h : Spliced n s (os.map fun o => (o, f o)) out) (δ : Int) :
    ∀ p ∈ landings f δ os, ∃ u v, out = u ++ (p.2.toList ++ v) ∧ p.1 = n + δ + u.length := by
  generalize hps : os.map (fun o => (o, f o)) = ps at h
  induction h generalizing os δ with
  | done =>
    obtain rfl := List.map_eq_nil_iff.mp hps
    simp [landings]
  | @keep n x s ps out _ ih =>
    intro p hp
    obtain ⟨u, v, rfl, hpos⟩ := ih δ hps p hp
    refine ⟨x :: u, v, rfl, ?_⟩
    rw [hpos, List.length_cons]
    omega
  | @span n o w l s ps out hstart hstop _ _ _ ih =>
    obtain ⟨o, os, rfl, ho, rfl⟩ := List.map_eq_cons_iff.mp hps
    obtain ⟨rfl, rfl⟩ := Prod.mk.inj ho
    intro p hp
    rcases hfo : f o with - | l
    · rw [landings, hfo] at hp
      obtain ⟨u, v, rfl, hpos⟩ := ih δ rfl p hp
      refine ⟨w ++ u, v, by simp, ?_⟩
      rw [hpos, List.length_append]
      omega
    · rw [landings, hfo] at hp
      rcases List.mem_cons.mp hp with rfl | hp
      · exact ⟨[], out, rfl, by simp [hstart]⟩
      · obtain ⟨u, v, rfl, hpos⟩ := ih _ rfl p hp
        refine ⟨l.toList ++ u, v, by simp, ?_⟩
        rw [hpos, List.length_append, String.length_toList]
        dsimp only [Edit.delta]
        omega

/-- What follows a place turns into `out`, from position `n` of the new text on.  References
that stay are in `Stays`, and replacements, with the places where they begin, in `Lands`. -/
inductive Grammar.Turns (g : Grammar) (Stays : Reference → Prop) (Lands : Nat → String → Prop) :
    Nat → Cursor → List Char → Prop
  /-- The text ends. -/
  | done {n c} : c.rest = [] → g.Turns Stays Lands n c []
  /-- Nothing is picked here, and a character is kept. -/
  | pass {n c x r out} : c.rest = x :: r →
      (∀ d, g.pattern.matchAt? c = some d → isPassedOver c d = true) →
      g.Turns Stays Lands (n + 1) (c.past [x] r) out → g.Turns Stays Lands n c (x :: out)
  /-- A reference is picked, and stays. -/
  | stay {n c d w out} : g.pattern.matchAt? c = some d → isPassedOver c d = false →
      c.rest = w ++ d.rest → Stays (g.interpret d) →
      g.Turns Stays Lands (n + w.length) d.clear out → g.Turns Stays Lands n c (w ++ out)
  /-- A reference is picked, and replaced. -/
  | land {n c d l out} : g.pattern.matchAt? c = some d → isPassedOver c d = false → Lands n l →
      g.Turns Stays Lands (n + l.length) d.clear out → g.Turns Stays Lands n c (l.toList ++ out)

variable {g : Grammar} {mark : Char} {Head Tail : List Char → Prop}
  {Stays : Reference → Prop} {Lands : Nat → String → Prop} {n : Nat} {c d k : Cursor}
  {s out : List Char} {os : List Occurrence} {f : Occurrence → Option String}

/-- A text with what is picked replaced is what the text turns into. -/
theorem Grammar.Picks.turns (h : g.Picks c os) (Stays : Reference → Prop)
    (Lands : Nat → String → Prop) (n : Nat) (hstays : ∀ o ∈ os, f o = none → Stays o.reference)
    (hlands : ∀ (m : Nat) l, ((m : Int), l) ∈ landings f (n - c.pos) os → Lands m l) :
    ∃ out, Spliced c.pos c.rest (os.map fun o => (o, f o)) out ∧ g.Turns Stays Lands n c out := by
  induction h generalizing n with
  | @done c hr =>
    rw [hr]
    exact ⟨[], .done, .done hr⟩
  | @pass c x r os hr hp _ ih =>
    have hδ : ((n + 1 : Nat) : Int) - (c.past [x] r).pos = n - c.pos := by
      simp only [Cursor.past_pos, List.length_singleton]
      omega
    obtain ⟨out, hout, hturns⟩ := ih (n + 1) hstays (by rwa [hδ])
    exact ⟨x :: out, hr ▸ .keep hout, .pass hr hp hturns⟩
  | @pick c d os hm hp _ ih =>
    obtain ⟨w, hw, hr, -, hpos, htext⟩ := ahead_of_not_passedOver (Pattern.matchAt?_ahead hm) hp
    have hrest : ∀ o ∈ os, f o = none → Stays o.reference := fun o ho => hstays o (by simp [ho])
    rcases hfo : f (g.occurrence c d) with - | l
    · have hδ : ((n + w.length : Nat) : Int) - d.clear.pos = n - c.pos := by
        rw [Cursor.clear_pos, hpos]
        omega
      rw [landings, hfo] at hlands
      obtain ⟨out, hout, hturns⟩ := ih (n + w.length) hrest (by rwa [hδ])
      have hspliced := Spliced.pick hm hp hout (f (g.occurrence c d))
      rw [hfo, htext] at hspliced
      exact ⟨w ++ out, by simpa [hfo] using hspliced,
        .stay hm hp hr (hstays _ List.mem_cons_self hfo) hturns⟩
    · have hδ : ((n + l.length : Nat) : Int) - d.clear.pos =
          n - c.pos + Edit.delta ⟨c.pos, d.pos, l⟩ := by
        simp only [Cursor.clear_pos, Edit.delta]
        omega
      have hstart : ((g.occurrence c d).start : Int) + (n - c.pos) = n := by
        simp only [Grammar.occurrence]
        omega
      rw [landings, hfo] at hlands
      simp only [hstart, List.mem_cons] at hlands
      obtain ⟨out, hout, hturns⟩ := ih (n + l.length) hrest fun m l' hm' =>
        hlands m l' (.inr (by rwa [hδ] at hm'))
      have hspliced := Spliced.pick hm hp hout (f (g.occurrence c d))
      rw [hfo] at hspliced
      exact ⟨l.toList ++ out, by simpa [hfo] using hspliced,
        .land hm hp (hlands n l (.inl rfl)) hturns⟩

/-- The old text and the new one agree up to a head that is replaced. -/
theorem Grammar.Turns.abreast (hb : g.Bracketed Head Tail)
    (hfenced : ∀ m l, Lands m l → Fenced l.toList) (ht : g.Turns Stays Lands n c out) :
    Abreast Head c.rest out := by
  induction ht with
  | done hr => exact .inl hr
  | pass hr _ _ ih => exact hr ▸ ih.append [_]
  | stay _ _ hr _ _ ih => exact hr ▸ ih.append _
  | land hm _ hl _ _ =>
    obtain ⟨h, t, hh, -, hr, -⟩ := hb.took hm
    obtain ⟨b, m, z, hl, hbr, -⟩ := hfenced _ _ hl
    rw [hr, hl, List.append_assoc]
    exact .inr ⟨[], h, _, b, _, rfl, rfl, hh, hbr⟩

/-! ### Where a second scan stands -/

/-- The place is inside a replacement, and some of it is left. -/
inductive Grammar.Inside (g : Grammar) (Stays : Reference → Prop) (Lands : Nat → String → Prop)
    (k : Cursor) : Prop
  | intro {n : Nat} {c : Cursor} {l : String} {u v out : List Char} : Lands n l →
      l.toList = u ++ v → v ≠ [] → k.pos = n + u.length → k.rest = v ++ out →
      g.Turns Stays Lands (n + l.length) c out → isEscaped c = false → g.Inside Stays Lands k

/-- The place is beside one of the first scan, or inside a replacement. -/
inductive Grammar.Stands (g : Grammar) (Stays : Reference → Prop) (Lands : Nat → String → Prop)
    (k : Cursor) : Prop
  | beside {c : Cursor} : g.Turns Stays Lands k.pos c k.rest → isEscaped k = isEscaped c →
      g.Stands Stays Lands k
  | inside : g.Inside Stays Lands k → g.Stands Stays Lands k

/-- After a replacement nothing is escaped. -/
theorem Fenced.isEscaped_past {u v : List Char} (hl : Fenced (u ++ v)) (hne : v ≠ []) (k : Cursor)
    (r : List Char) : isEscaped (k.past v r) = false := by
  obtain ⟨b, m, z, hl, -, hz⟩ := hl
  obtain ⟨v, y, rfl⟩ := (List.eq_nil_or_concat v).resolve_left hne
  obtain rfl : y = z := by
    rw [List.concat_eq_append, ← List.append_assoc, ← List.cons_append] at hl
    simpa using (List.append_inj' hl rfl).2
  simpa [isEscaped] using hz

/-- A text taken from inside a replacement on ends in it, or goes on behind it. -/
theorem Grammar.stands_of_inside {l : String} {u v w r : List Char} (hfenced : Fenced l.toList)
    (hl : Lands n l) (hsplit : l.toList = u ++ v) (hne : v ≠ []) (hk : k.pos = n + u.length)
    (ht : g.Turns Stays Lands (n + l.length) c out) (hesc : isEscaped c = false)
    (hs : v ++ out = w ++ r)
    (hgo : ∀ {k : Cursor} {t : List Char}, w = v ++ t → out = t ++ r → k.pos = n + l.length →
      isEscaped k = isEscaped c → g.Stands Stays Lands (k.past t r)) :
    g.Stands Stays Lands (k.past w r) := by
  have hlen : l.length = u.length + v.length := by
    rw [← String.length_toList, hsplit, List.length_append]
  have hbehind : ∀ t, w = v ++ t → out = t ++ r → g.Stands Stays Lands (k.past w r) := by
    rintro t rfl rfl
    have hlast : isEscaped (k.past v (t ++ r)) = false :=
      Fenced.isEscaped_past (hsplit ▸ hfenced) hne k _
    have hplace := hgo (k := k.past v (t ++ r)) rfl rfl
      (by rw [Cursor.past_pos, hk, hlen, Nat.add_assoc]) (hlast.trans hesc.symm)
    rwa [Cursor.past_past] at hplace
  rcases List.append_eq_append_iff.mp hs with ⟨t, hw, hout⟩ | ⟨v', hv, hr⟩
  · exact hbehind t hw hout
  · rcases v' with - | ⟨y, v'⟩
    · exact hbehind [] (by simp [hv]) hr.symm
    · have hsplit' : l.toList = (u ++ w) ++ y :: v' := by rw [hsplit, hv, List.append_assoc]
      refine .inside ⟨hl, hsplit', by simp, ?_, hr, ht, hesc⟩
      rw [Cursor.past_pos, hk, List.length_append, Nat.add_assoc]

/-- Behind a match that begins before this place, a scan of the new text stands beside the
first scan or inside a replacement. -/
theorem Grammar.Turns.stands (hb : g.Bracketed Head Tail) (hw : Worded mark Head Tail)
    (hfenced : ∀ m l, Lands m l → Fenced l.toList) (ht : g.Turns Stays Lands n c s)
    {p u r : List Char} (hs : s = u ++ r) (hk : k.pos = n) (he : isEscaped k = isEscaped c)
    (hcovers : Covers Head Tail (p ++ u) r) : g.Stands Stays Lands (k.past u r) := by
  -- the match takes `p` before this place, and `u` from here on
  induction ht generalizing k p u with
  | @done n c hr =>
    obtain ⟨rfl, rfl⟩ := List.append_eq_nil_iff.mp hs.symm
    exact .beside (.done hr) he
  | @pass n c x out' out hr hpass h ih =>
    rcases u with - | ⟨y, u⟩
    · obtain rfl : r = x :: out := hs.symm
      exact .beside (.pass hr hpass (by simpa [hk] using h)) he
    · obtain ⟨rfl, rfl⟩ := List.cons.inj hs
      have hplace := ih (k := k.past [x] (u ++ r)) (p := p ++ [x]) rfl (by simp [hk]) rfl
        (by simpa using hcovers)
      rwa [Cursor.past_past] at hplace
  | @stay n c d w out hm hpass hr hstays h ih =>
    by_cases hu : u = []
    · obtain ⟨rfl, rfl⟩ : u = [] ∧ r = w ++ out := ⟨hu, by rw [hs, hu, List.nil_append]⟩
      exact .beside (.stay hm hpass hr hstays (by simpa [hk] using h)) he
    · -- the match does not end within the reference that stays
      obtain ⟨t, rfl, rfl⟩ : ∃ t, u = w ++ t ∧ out = t ++ r := by
        rcases List.append_eq_append_iff.mp hs with ⟨t, rfl, rfl⟩ | ⟨v, rfl, rfl⟩
        · exact ⟨t, rfl, rfl⟩
        · obtain rfl := hcovers.eq_nil hw hb hu (hb.covers hm hr)
          exact ⟨[], by simp, by simp⟩
      have hplace := ih (k := k.past w (t ++ r)) (p := p ++ w) rfl (by simp [hk])
        ((hb.isEscaped_past hm hpass hr k _).trans (hb.closed hm).symm) (by simpa using hcovers)
      rwa [Cursor.past_past] at hplace
  | @land n c d l out hm hpass hl h ih =>
    have hclosed : isEscaped d = false := hb.closed hm
    have hne : l.toList ≠ [] := (hfenced _ _ hl).ne_nil
    refine stands_of_inside (hfenced _ _ hl) hl (List.nil_append _).symm hne hk h hclosed hs ?_
    rintro k t rfl rfl hk' he'
    exact ih (p := p ++ l.toList) rfl hk' he' (by simpa using hcovers)

/-! ### The steps of a second scan -/

/-- What begins at position `i` begins inside a replacement, and a head begins in that. -/
def BeginsIn (Head : List Char → Prop) (Lands : Nat → String → Prop) (i : Nat) : Prop :=
  ∃ n l, Lands n l ∧ n ≤ i ∧ i < n + l.length ∧ ∃ x, ¬ Quiet Head l.toList x

namespace Grammar.Inside

/-- Passing by a character inside a replacement. -/
theorem pass (hfenced : ∀ m l, Lands m l → Fenced l.toList) (h : g.Inside Stays Lands k) {x : Char}
    {r : List Char} (hr : k.rest = x :: r) : g.Stands Stays Lands (k.past [x] r) := by
  obtain @⟨n, c, l, u, v, out, hl, hsplit, hne, hk, hrest, ht, hesc⟩ := h
  refine stands_of_inside (hfenced _ _ hl) hl hsplit hne hk ht hesc (hrest.symm.trans hr) ?_
  intro k' t hv hout hk' he'
  -- the character was the last of the replacement
  obtain rfl : t = [] := by
    obtain ⟨y, v, rfl⟩ := List.exists_cons_of_ne_nil hne
    exact (List.append_eq_nil_iff.mp (List.cons.inj hv).2.symm).2
  obtain rfl : out = r := hout
  refine .beside (c := c) ?_ he'
  rwa [Cursor.past_pos, hk']

/-- A match inside a replacement, which may end outside of it. -/
theorem pick (hb : g.Bracketed Head Tail) (hw : Worded mark Head Tail)
    (hfenced : ∀ m l, Lands m l → Fenced l.toList) (h : g.Inside Stays Lands k)
    (hm : g.pattern.matchAt? k = some d) (hp : isPassedOver k d = false) :
    g.Stands Stays Lands d.clear ∧ BeginsIn Head Lands k.pos := by
  obtain @⟨n, c, l, u, v, out, hl, hsplit, hne, hk, hrest, ht, hesc⟩ := h
  obtain ⟨w, -, hr, hbefore, hpos, -⟩ := ahead_of_not_passedOver (Pattern.matchAt?_ahead hm) hp
  have hcovers := hb.covers hm hr
  constructor
  · have hd : d.clear = k.clear.past w d.rest := by
      rw [Cursor.clear, hbefore, hpos]
      rfl
    rw [hd]
    refine stands_of_inside (hfenced _ _ hl) hl hsplit hne hk ht hesc (hrest.symm.trans hr) ?_
    rintro k' t rfl rfl hk' he'
    exact ht.stands hb hw hfenced rfl hk' he' hcovers
  · -- a head begins at the match
    have hlen : l.length = u.length + v.length := by
      rw [← String.length_toList, hsplit, List.length_append]
    obtain ⟨h, t, rfl, hh, -⟩ := hcovers
    obtain ⟨x, v, rfl⟩ := List.exists_cons_of_ne_nil hne
    have hr' : x :: v ++ out = h ++ (t ++ d.rest) := by
      rw [← hrest, hr, List.append_assoc]
    obtain ⟨y, hy⟩ := hb.bracket hm
    obtain rfl : x = '[' := (List.cons.inj (hrest.symm.trans hy)).1
    refine ⟨n, l, hl, by omega, by simp [hlen, hk], out, fun hq => hq u v hsplit _ hh ?_⟩
    exact ⟨t ++ d.rest, hr'.symm⟩

end Grammar.Inside

/-- A replacement that begins at the place. -/
theorem Grammar.Turns.inside (hb : g.Bracketed Head Tail)
    (hfenced : ∀ m l, Lands m l → Fenced l.toList) {l : String}
    (hm : g.pattern.matchAt? c = some d) (hl : Lands k.pos l)
    (ht : g.Turns Stays Lands (k.pos + l.length) d.clear out) (hr : k.rest = l.toList ++ out) :
    g.Inside Stays Lands k := by
  have hclosed : isEscaped d = false := hb.closed hm
  exact ⟨hl, (List.nil_append _).symm, (hfenced _ _ hl).ne_nil, by simp, hr, ht, hclosed⟩

namespace Grammar.Stands

/-- Passing by a character. -/
theorem pass (hb : g.Bracketed Head Tail) (hw : Worded mark Head Tail)
    (hfenced : ∀ m l, Lands m l → Fenced l.toList) (h : g.Stands Stays Lands k) {x : Char}
    {r : List Char} (hr : k.rest = x :: r)
    (hp : ∀ d, g.pattern.matchAt? k = some d → isPassedOver k d = true) :
    g.Stands Stays Lands (k.past [x] r) := by
  rcases h with @⟨c, ht, he⟩ | h
  · generalize hs : k.rest = s at ht
    cases ht with
    | done => rw [hr] at hs; cases hs
    | pass _ _ h =>
      obtain ⟨rfl, rfl⟩ := List.cons.inj (hr.symm.trans hs)
      exact .beside h rfl
    | stay hm hpass hrest _ h =>
      -- what is picked in the old text would be picked in the new one
      obtain ⟨d', hd', -⟩ := hb.matchAt?_of_tails hm hrest hs fun t ht =>
        (h.abreast hb hfenced).tail hw ht
      have hpassed := hp d' hd'
      rw [hb.isPassedOver_eq hd', he, ← hb.isPassedOver_eq hm, hpass] at hpassed
      cases hpassed
    | land hm _ hl h => exact (h.inside hb hfenced hm hl hs).pass hfenced hr
  · exact h.pass hfenced hr

/-- Picking a match. -/
theorem pick (hb : g.Bracketed Head Tail) (hw : Worded mark Head Tail)
    (hfenced : ∀ m l, Lands m l → Fenced l.toList) (h : g.Stands Stays Lands k)
    (hm : g.pattern.matchAt? k = some d) (hp : isPassedOver k d = false) :
    g.Stands Stays Lands d.clear ∧ (Stays (g.interpret d) ∨ BeginsIn Head Lands k.pos) := by
  rcases h with @⟨c, ht, he⟩ | h
  · have ha := ht.abreast hb hfenced
    generalize hs : k.rest = s at ht ha
    cases ht with
    | done =>
      obtain ⟨w, hne, hr, -⟩ := ahead_of_not_passedOver (Pattern.matchAt?_ahead hm) hp
      exact absurd (List.append_eq_nil_iff.mp (hr.symm.trans hs)).1 hne
    | pass _ hpass _ =>
      have hpassed := hb.isPassedOver_of_heads (fun h hh hpre => ha.head hw hh (hs ▸ hpre)) he
        hpass d hm
      rw [hp] at hpassed
      cases hpassed
    | @stay _ _ e w out hm' _ hrest hstays h =>
      -- the match is the one in the old text
      obtain ⟨d', hd', hout⟩ := hb.matchAt?_of_tails hm' hrest hs fun t ht =>
        (h.abreast hb hfenced).tail hw ht
      obtain rfl := Option.some.inj (hd'.symm.trans hm)
      obtain ⟨v, hv, -, hpos⟩ := Pattern.matchAt?_ahead hm
      obtain rfl : w = v := List.append_cancel_right (hs.symm.trans (hout ▸ hv))
      refine ⟨.beside (c := e.clear) ?_ ((hb.closed hm).trans (hb.closed hm').symm), .inl ?_⟩
      · rwa [Cursor.clear_pos, Cursor.clear_rest, hpos, hout]
      · rwa [hb.same hm hm' hv hrest]
    | land hm' _ hl h =>
      obtain ⟨hplace, hbegins⟩ := (h.inside hb hfenced hm' hl hs).pick hb hw hfenced hm hp
      exact ⟨hplace, .inr hbegins⟩
  · obtain ⟨hplace, hbegins⟩ := h.pick hb hw hfenced hm hp
    exact ⟨hplace, .inr hbegins⟩

end Grammar.Stands

/-- **What a second scan picks has stayed, or begins inside a replacement.** -/
theorem Grammar.Bracketed.picks_turned (hb : g.Bracketed Head Tail) (hw : Worded mark Head Tail)
    (hfenced : ∀ m l, Lands m l → Fenced l.toList) (hpicks : g.Picks k os)
    (h : g.Stands Stays Lands k) :
    ∀ o ∈ os, Stays o.reference ∨ BeginsIn Head Lands o.start := by
  induction hpicks with
  | done => simp
  | pass hr hp _ ih => exact ih (h.pass hb hw hfenced hr hp)
  | pick hm hp _ ih =>
    obtain ⟨hplace, hwhere⟩ := h.pick hb hw hfenced hm hp
    intro o ho
    rcases List.mem_cons.mp ho with rfl | ho
    · exact hwhere
    · exact ih hplace o ho

end TermRef
