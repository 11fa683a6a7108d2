/-
TermRef/Proofs/Reference/Parts.lean

The parts that the two named grammars are made of.

Their sets of characters are the alphabets of `Mention` and `Naming`
(`mem_tagSet`, `mem_versionSet`, `mem_showSet`).  Both write a further part behind a mark in
the same shape, an optional group after the mark, of which `walk_marked_eq_some` and
`walk_marked_isSome` say what it takes.  And both name their groups alike, so that a
match whose groups read as a mention and a naming denotes their reference
(`interpret_eq_reference`).
-/
import TermRef.Proofs.Pattern.Taken
import TermRef.Proofs.Reference.Mention
import TermRef.Reference.Scan

namespace TermRef

open Pattern Grammar Function

/-! ### Sets -/

theorem isSlugChar_eq_within (c : Char) :
    Slug.isSlugChar c = (within 97 122 c.toNat || within 48 57 c.toNat || c == '_' || c == '-') := by
  have lower : c.isLower = within 97 122 c.toNat := by
    show (decide (c.val ≥ 'a'.val) && decide (c.val ≤ 'z'.val)) = within 97 122 c.toNat
    rw [Bool.eq_iff_iff]
    simp [within, UInt32.le_iff_toNat_le]
  have digit : c.isDigit = within 48 57 c.toNat := by
    rw [Bool.eq_iff_iff]
    simp [Char.isDigit, within, UInt32.le_iff_toNat_le]
  rw [Slug.isSlugChar, lower, digit]

theorem beq_toNat (c x : Char) : (c.toNat == x.toNat) = (c == x) := by
  rw [Bool.eq_iff_iff]
  simp [Char.toNat_inj]

theorem any_code_eq_contains (c : Char) (cs : List Char) :
    (cs.map fun x => SetItem.code x.toNat).any (SetItem.mem c) = cs.contains c := by
  induction cs with
  | nil => rfl
  | cons x cs ih =>
    rw [List.map_cons, List.any_cons, List.contains_cons, ih, SetItem.mem, beq_toNat]

theorem mem_tagSet (more : List Char) (c : Char) :
    (tagSet more).mem c = (Slug.isSlugChar c || more.contains c) := by
  have h₁ : (c.toNat == 95) = (c == '_') := beq_toNat c '_'
  have h₂ : (c.toNat == 45) = (c == '-') := beq_toNat c '-'
  simp only [CharSet.mem, tagSet, tagItems, Fold.apply, Char.ofNat_toNat, List.any_append,
    any_code_eq_contains, List.any_cons, List.any_nil, SetItem.mem, isSlugChar_eq_within, h₁, h₂,
    Bool.bne_false, Bool.or_false, Bool.or_assoc]

theorem mem_notIn (cs : List Char) (c : Char) : (notIn cs).mem c = !cs.contains c := by
  simp only [CharSet.mem, notIn, Fold.apply, Char.ofNat_toNat, any_code_eq_contains, Bool.bne_true]

theorem mem_slugSet (c : Char) : (tagSet []).mem c = Slug.isSlugChar c := by
  simp [mem_tagSet]

theorem mem_versionSet (c : Char) : (tagSet ['.']).mem c = isVersion c := by
  simp only [mem_tagSet, isVersion, List.contains_cons, List.contains_nil, Bool.or_false]

theorem mem_showSet (c : Char) : showSet.mem c = isShown c := by
  rw [showSet, mem_notIn, Bool.eq_iff_iff]
  simp [isShown, and_assoc]

theorem mem_aheadShowSet {c : Char} (h : isShown c = true) : aheadShowSet.mem c = true := by
  rw [aheadShowSet, mem_notIn]
  simp only [isShown, Bool.and_eq_true, bne_iff_ne, ne_eq] at h
  simp [h.1.2, h.2]

/-! ### Marked parts -/

/-- A part behind a mark, kept as a group, that may be absent. -/
def markedNode (mode : Mode) (mark : Char) (i : Nat) (s : CharSet) : Node :=
  .optional (.chain [.char mark, .group i (.run mode 1 none s)])

variable {k : Rest} {c d : Cursor} {mode : Mode} {mark : Char} {i : Nat} {s : CharSet}

theorem walk_marked_eq_some (h : (markedNode mode mark i s).walk k c = some d)
    (hi : c.read i = []) :
    ∃ e t, c.Took e (markedText mark t) (update c.read i (t.getD [])) ∧
      (∀ w ∈ t, w ≠ [] ∧ ∀ x ∈ w, s.mem x = true) ∧ k e = some d := by
  rcases walk_optional_eq_some h with h | h
  · simp only [Node.chain, walk_seq] at h
    obtain ⟨e, te, -, h⟩ := walk_char_eq_some h
    obtain ⟨f, w, tf, hlen, hw, hk⟩ := walk_group_run_eq_some h
    refine ⟨f, some w, ?_, ?_, hk⟩
    · rw [te.reads] at tf
      exact te.trans tf
    · intro v hv
      obtain rfl := Option.some.inj hv
      exact ⟨List.ne_nil_of_length_pos hlen, hw⟩
  · exact ⟨c, none, .skip hi, by simp, h⟩

theorem walk_marked_isSome {t : Option (List Char)} {r : List Char} (hm : mode ≠ .possessive)
    (h : c.rest = markedText mark t ++ r) (ht : ∀ w ∈ t, w ≠ [] ∧ ∀ x ∈ w, s.mem x = true)
    (hi : c.read i = [])
    (hk : ∀ e, c.Took e (markedText mark t) (update c.read i (t.getD [])) → e.rest = r →
      (k e).isSome) :
    ((markedNode mode mark i s).walk k c).isSome := by
  cases t with
  | none =>
    exact walk_optional_isSome_right (hk c (.skip hi) h)
  | some w =>
    obtain ⟨hne, hw⟩ := ht w rfl
    apply walk_optional_isSome_left
    simp only [Node.chain, walk_seq]
    refine walk_char_isSome h fun e te he => ?_
    refine walk_group_run_isSome hm he (List.length_pos_iff.mpr hne) hw fun f tf hf => hk f ?_ hf
    rw [te.reads] at tf
    exact te.trans tf

theorem walk_marked_lazy_eq_greedy (h : k.Refuses s.mem) :
    (markedNode .lazy mark i s).walk k = (markedNode .greedy mark i s).walk k := by
  funext c
  simp only [markedNode, walk_optional, Node.chain, walk_seq, walk_group_lazy_eq_greedy h]

/-- How the groups of a naming read after it. -/
def namingReads (i j : Nat) (f : Nat → List Char) (n : Naming) : Nat → List Char :=
  update (update f i n.id) j (n.trait.getD [])

theorem markedText_all {p : Char → Bool} {t : Option (List Char)}
    (hmark : p mark = true) (ht : ∀ w ∈ t, ∀ x ∈ w, p x = true) :
    ∀ x ∈ markedText mark t, p x = true := by
  cases t with
  | none => simp [markedText]
  | some w => simpa [markedText, hmark] using ht w rfl

theorem Naming.text_all (n : Naming) : ∀ x ∈ n.text, (tagSet ['#']).mem x = true := by
  have slug : ∀ x, Slug.isSlugChar x = true → (tagSet ['#']).mem x = true := by
    intro x hx
    rw [mem_tagSet, hx, Bool.true_or]
  intro x hx
  rcases List.mem_append.mp hx with hx | hx
  · exact slug x (n.id_slug x hx)
  · exact markedText_all (by simp [mem_tagSet])
      (fun w hw y hy => slug y ((n.trait_slug w hw).2 y hy)) x hx

theorem Origin.text_all (o : Origin) : ∀ x ∈ o.text, (tagSet [':', '.']).mem x = true := by
  have version : ∀ x, isVersion x = true → (tagSet [':', '.']).mem x = true := by
    intro x hx
    simp only [isVersion, Bool.or_eq_true, beq_iff_eq] at hx
    rcases hx with hx | rfl <;> simp [mem_tagSet, *]
  intro x hx
  rcases List.mem_append.mp hx with hx | hx
  · exact version x (by rw [isVersion, o.scopetag_slug x hx, Bool.true_or])
  · exact markedText_all (by simp [mem_tagSet])
      (fun w hw y hy => version y ((o.vsntag_version w hw).2 y hy)) x hx

/-! ### References from groups -/

theorem presentPart_of_ne_nil {w : List Char} (h : w ≠ []) :
    presentPart w = some (String.ofList w) := if_neg h

theorem filter_map_ofList (o : Option (List Char)) :
    ((o.map String.ofList).filter fun s => !s.isEmpty) = presentPart (o.getD []) := by
  rcases o with - | w
  · rfl
  · rcases w with - | ⟨x, w⟩
    · rfl
    · simp [Option.filter, presentPart]

/-- A match whose groups read as a mention and a naming denotes their reference. -/
theorem interpret_eq_reference {g : Grammar} {m : Mention} {n : Naming}
    (hshown : (g.pattern.group? d "showtext").getD [] = m.shown)
    (hid : (g.pattern.group? d "id").getD [] = n.id)
    (htrait : (g.pattern.group? d "trait").getD [] = n.trait.getD [])
    (hscope : (g.pattern.group? d "scopetag").getD [] = m.origin.scopetag)
    (hversion : (g.pattern.group? d "vsntag").getD [] = m.origin.vsntag.getD []) :
    g.interpret d = m.reference n := by
  have present : ∀ t : Option (List Char), (∀ w ∈ t, w ≠ []) →
      presentPart (t.getD []) = t.map String.ofList := by
    rintro (- | w) h
    · rfl
    · exact presentPart_of_ne_nil (h w rfl)
  simp only [Grammar.interpret, Reference.ofParts, filter_map_ofList, hshown, hid, htrait, hscope,
    hversion, Mention.reference, presentPart_of_ne_nil m.shown_ne_nil, Option.getD_some,
    present _ fun w hw => (n.trait_slug w hw).1,
    present _ fun w hw => (m.origin.vsntag_version w hw).1]

end TermRef
