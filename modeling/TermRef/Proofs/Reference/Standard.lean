/-
TermRef/Proofs/Reference/Standard.lean

The default grammar, exactly.

The pattern looks ahead over the whole reference with wide sets, and then takes it
apart with nested parts that may be absent.  None of this shows: it matches where a
mention is written out with a naming, and nowhere else.

* `standard_matchAt?_eq_some` — a match has taken a written reference, and denotes it;
* `standard_matchAt?_isSome` — a written reference is matched.

The body of the pattern accepts what the condition before it accepts
(`standardAhead_isSome`), so the condition can be dropped.  An identifier that is left
out can be skipped in three ways, which all leave its group without text; this is why
the first fact speaks of readings and not of the groups themselves.
-/
import TermRef.Proofs.Reference.Parts

namespace TermRef

open Pattern Grammar Function

variable {k : Rest} {c d : Cursor}

/-! ### The parts of the pattern -/

/-- The condition on what follows the opening bracket. -/
def standardAhead : Node :=
  .chain [several aheadShowSet, .char ']', .char '(', many (tagSet ['#']), .char '@',
    many (tagSet [':', '.']), .char ')']

/-- `id#trait`, all of which may be absent. -/
def standardNaming : Node :=
  .optional (.chain [.optional (.group 2 (many (tagSet []))),
    markedNode .greedy '#' 3 (tagSet [])])

/-- What follows the condition. -/
def standardBody : Node :=
  .chain [.group 1 (several showSet), .char ']', .char '(', standardNaming, .char '@',
    .group 4 (many (tagSet [])), markedNode .greedy ':' 5 (tagSet ['.']), .char ')']

theorem standardNode_eq :
    standardNode = .seq (.char '[') (.seq (.look none true standardAhead) standardBody) := rfl

theorem standardNaming_eq_some (h : standardNaming.walk k c = some d) (h₂ : c.read 2 = [])
    (h₃ : c.read 3 = []) :
    ∃ e n, c.Took e n.text (namingReads 2 3 c.read n) ∧ k e = some d := by
  -- a trait after an identifier that has been taken up to `e`
  have trait : ∀ {e w}, c.Took e w (update c.read 2 w) → (∀ x ∈ w, Slug.isSlugChar x = true) →
      (markedNode .greedy '#' 3 (tagSet [])).walk k e = some d →
      ∃ e n, c.Took e n.text (namingReads 2 3 c.read n) ∧ k e = some d := by
    intro e w te hw h
    have he : e.read 3 = [] := by rw [te.reads, update_of_ne (by decide), h₃]
    obtain ⟨f, t, tf, ht, hk⟩ := walk_marked_eq_some h he
    refine ⟨f, ⟨w, t, hw, fun v hv => ?_⟩, ?_, hk⟩
    · simpa only [mem_slugSet] using ht v hv
    · rw [te.reads] at tf
      exact te.trans tf
  have skip : c.Took c [] (update c.read 2 []) := .skip h₂
  rcases walk_optional_eq_some h with h | h
  · simp only [Node.chain, walk_seq] at h
    rcases walk_optional_eq_some h with h | h
    · obtain ⟨e, w, te, -, hw, h⟩ := walk_group_run_eq_some h
      exact trait te (by simpa only [mem_slugSet] using hw) h
    · exact trait skip (by simp) h
  · refine ⟨c, .absent, ?_, h⟩
    exact skip.update_nil (by rw [update_of_ne (by decide), h₃])

theorem standardNaming_isSome (n : Naming) {r : List Char} (h : c.rest = n.text ++ r)
    (h₃ : c.read 3 = [])
    (hk : ∀ e, c.Took e n.text (namingReads 2 3 c.read n) → e.rest = r → (k e).isSome) :
    (standardNaming.walk k c).isSome := by
  apply walk_optional_isSome_left
  simp only [Node.chain, walk_seq]
  apply walk_optional_isSome_left
  have h' : c.rest = n.id ++ (markedText '#' n.trait ++ r) := by
    rw [h, Naming.text, List.append_assoc]
  refine walk_group_run_isSome (by decide) h' (Nat.zero_le _)
    (by simpa only [mem_slugSet] using n.id_slug) fun e te he => ?_
  have he₃ : e.read 3 = [] := by rw [te.reads, update_of_ne (by decide), h₃]
  refine walk_marked_isSome (by decide) he
    (by simpa only [mem_slugSet] using n.trait_slug) he₃ fun f tf hf => hk f ?_ hf
  rw [te.reads] at tf
  exact te.trans tf

/-! ### The body -/

/-- How the groups read after a reference. -/
def standardReads (m : Mention) (n : Naming) : Nat → List Char :=
  update (update (namingReads 2 3 (update (fun _ => []) 1 m.shown) n) 4 m.origin.scopetag) 5
    (m.origin.vsntag.getD [])

theorem standardBody_eq_some (hc : c.read = fun _ => []) (h : standardBody.walk some c = some d) :
    ∃ m n, c.Took d (m.shown ++ ']' :: '(' :: n.text ++ '@' :: m.origin.text ++ [')'])
      (standardReads m n) := by
  simp only [standardBody, Node.chain, walk_seq] at h
  obtain ⟨e₁, shown, t₁, hlen, hshown, h⟩ := walk_group_run_eq_some h
  obtain ⟨e₂, t₂, -, h⟩ := walk_char_eq_some h
  obtain ⟨e₃, t₃, -, h⟩ := walk_char_eq_some h
  have r₃ : e₃.read = update (fun _ => []) 1 shown := by rw [t₃.reads, t₂.reads, t₁.reads, hc]
  obtain ⟨e₄, n, t₄, h⟩ := standardNaming_eq_some h (by rw [r₃]; rfl) (by rw [r₃]; rfl)
  obtain ⟨e₅, t₅, -, h⟩ := walk_char_eq_some h
  obtain ⟨e₆, scope, t₆, -, hscope, h⟩ := walk_group_run_eq_some h
  have r₆ : e₆.read 5 = [] := by
    rw [t₆.reads, t₅.reads, t₄.reads, r₃]
    rfl
  obtain ⟨e₇, version, t₇, hversion, h⟩ := walk_marked_eq_some h r₆
  obtain ⟨e₈, t₈, -, h⟩ := walk_char_eq_some h
  obtain rfl := Option.some.inj h
  refine ⟨⟨shown, ⟨scope, version, ?_, ?_⟩, ?_, ?_⟩, n, ?_⟩
  · simpa only [mem_slugSet] using hscope
  · simpa only [mem_versionSet] using hversion
  · exact List.ne_nil_of_length_pos hlen
  · simpa only [mem_showSet] using hshown
  · have t := t₁.trans <| t₂.trans <| t₃.trans <| t₄.trans <| t₅.trans <| t₆.trans <| t₇.trans t₈
    rw [t₇.reads, t₆.reads, t₅.reads, t₄.reads, r₃] at t
    simpa [standardReads, Origin.text] using t

theorem standardBody_isSome (m : Mention) (n : Naming) {r : List Char} (hc : c.read = fun _ => [])
    (h : c.rest = m.shown ++ ']' :: '(' :: n.text ++ '@' :: m.origin.text ++ ')' :: r) :
    (standardBody.walk some c).isSome := by
  have h' : c.rest = m.shown ++ (']' :: '(' :: (n.text ++ '@' :: (m.origin.scopetag ++
      (markedText ':' m.origin.vsntag ++ ')' :: r)))) := by
    simpa [Origin.text] using h
  simp only [standardBody, Node.chain, walk_seq]
  refine walk_group_run_isSome (by decide) h' (List.length_pos_iff.mpr m.shown_ne_nil)
    (by simpa only [mem_showSet] using m.shown_isShown) fun e₁ t₁ h₁ => ?_
  refine walk_char_isSome h₁ fun e₂ t₂ h₂ => walk_char_isSome h₂ fun e₃ t₃ h₃ => ?_
  have r₃ : e₃.read = update (fun _ => []) 1 m.shown := by rw [t₃.reads, t₂.reads, t₁.reads, hc]
  refine standardNaming_isSome n h₃ (by rw [r₃]; rfl) fun e₄ t₄ h₄ => ?_
  refine walk_char_isSome h₄ fun e₅ t₅ h₅ => ?_
  refine walk_group_run_isSome (by decide) h₅ (Nat.zero_le _)
    (by simpa only [mem_slugSet] using m.origin.scopetag_slug) fun e₆ t₆ h₆ => ?_
  have r₆ : e₆.read 5 = [] := by
    rw [t₆.reads, t₅.reads, t₄.reads, r₃]
    rfl
  refine walk_marked_isSome (by decide) h₆
    (by simpa only [mem_versionSet] using m.origin.vsntag_version) r₆ fun e₇ _ h₇ => ?_
  exact walk_char_isSome h₇ fun _ _ _ => rfl

/-! ### The condition -/

/-- The condition holds before everything that the body accepts. -/
theorem standardAhead_isSome (hc : c.read = fun _ => [])
    (h : standardBody.walk some c = some d) : (standardAhead.walk some c).isSome := by
  obtain ⟨m, n, t⟩ := standardBody_eq_some hc h
  have h' : c.rest =
      m.shown ++ (']' :: '(' :: (n.text ++ '@' :: (m.origin.text ++ ')' :: d.rest))) := by
    simpa using t.rest
  simp only [standardAhead, Node.chain, walk_seq]
  refine walk_run_isSome (by decide) h' (List.length_pos_iff.mpr m.shown_ne_nil)
    (fun x hx => mem_aheadShowSet (m.shown_isShown x hx)) fun _ _ h₁ => ?_
  refine walk_char_isSome h₁ fun _ _ h₂ => walk_char_isSome h₂ fun _ _ h₃ => ?_
  refine walk_run_isSome (by decide) h₃ (Nat.zero_le _) n.text_all fun _ _ h₄ => ?_
  refine walk_char_isSome h₄ fun _ _ h₅ => ?_
  refine walk_run_isSome (by decide) h₅ (Nat.zero_le _) m.origin.text_all fun _ _ h₆ => ?_
  exact walk_char_isSome h₆ fun _ _ _ => rfl

theorem standardAhead_keeps : standardAhead.Keeps := by
  simp only [standardAhead, Node.chain]
  exact .seq .run <| .seq .char <| .seq .char <| .seq .run <| .seq .char <|
    .seq .run .char

/-- The pattern with its condition matches like the bracket and the body alone. -/
theorem standardNode_walk (hc : c.read = fun _ => []) :
    standardNode.walk some c = (Node.seq (.char '[') standardBody).walk some c := by
  rw [standardNode_eq, walk_seq, walk_seq, walk_seq]
  refine walk_char_congr fun e te => ?_
  have he : e.read = fun _ => [] := te.reads.trans hc
  exact walk_look_eq standardAhead_keeps fun _ => standardAhead_isSome he

/-! ### Matches -/

theorem standard_matchAt?_took (h : standard.pattern.matchAt? c = some d) :
    ∃ m n, c.Took d (m.standardText n) (standardReads m n) := by
  have h' : standardNode.walk some c.clear = some d := h
  rw [standardNode_walk c.read_clear, walk_seq] at h'
  obtain ⟨e, te, -, h'⟩ := walk_char_eq_some h'
  obtain ⟨m, n, t⟩ := standardBody_eq_some (te.reads.trans c.read_clear) h'
  have t' := te.trans t
  exact ⟨m, n, t'.rest, t'.before, t'.pos, t'.reads⟩

/-- A match with the default grammar has taken a written reference, and denotes it. -/
theorem standard_matchAt?_eq_some (h : standard.pattern.matchAt? c = some d) :
    ∃ m n, c.rest = Mention.standardText m n ++ d.rest ∧ standard.interpret d = m.reference n := by
  obtain ⟨m, n, t⟩ := standard_matchAt?_took h
  have reads : ∀ i, ((d.group? i).map Capture.text).getD [] = standardReads m n i :=
    congrFun t.reads
  exact ⟨m, n, t.rest, interpret_eq_reference (reads 1) (reads 2) (reads 3) (reads 4) (reads 5)⟩

/-- Where a reference is written, the default grammar matches. -/
theorem standard_matchAt?_isSome {m : Mention} {n : Naming} {r : List Char}
    (h : c.rest = m.standardText n ++ r) : (standard.pattern.matchAt? c).isSome := by
  have h' : c.clear.rest = '[' :: (m.shown ++ ']' :: '(' :: n.text ++ '@' :: m.origin.text ++
      ')' :: r) := by
    rw [show c.clear.rest = c.rest from rfl, h]
    simp [Mention.standardText]
  show (standardNode.walk some c.clear).isSome
  rw [standardNode_walk c.read_clear, walk_seq]
  exact walk_char_isSome h' fun e te he => standardBody_isSome m n (te.reads.trans c.read_clear) he

/-- The grammar has nothing to say on a place with a reference but how it is written: the
pattern matches where one is, takes all of it, and denotes it; and it would do so without
looking ahead. -/
theorem standard_matches_exactly (s : String) (i : Nat) :
    ((∃ d, standard.pattern.matchAt? (.inText s.toList i) = some d) ↔
        ∃ m n, Mention.standardText m n <+: s.toList.drop i) ∧
      (∀ m n m' n', Mention.standardText m n <+: s.toList.drop i →
        Mention.standardText m' n' <+: s.toList.drop i → m = m' ∧ n = n') ∧
      (∀ m n, Mention.standardText m n <+: s.toList.drop i →
        ∃ d, standard.pattern.matchAt? (.inText s.toList i) = some d ∧
          d.pos = i + (m.standardText n).length ∧
          (Cursor.inText s.toList i).textFrom d = m.standardText n ∧
          standard.interpret d = m.reference n) ∧
      Pattern.matchAt? ⟨standardNode.dropLooks, standard.pattern.names⟩ (.inText s.toList i) =
        standard.pattern.matchAt? (.inText s.toList i) := by
  have unique : ∀ m n m' n', Mention.standardText m n <+: s.toList.drop i →
      Mention.standardText m' n' <+: s.toList.drop i → m = m' ∧ n = n' := by
    rintro m n m' n' ⟨r, hr⟩ ⟨r', hr'⟩
    obtain ⟨hm, hn, -⟩ := Mention.standardText_append_inj (hr.trans hr'.symm)
    exact ⟨hm, hn⟩
  refine ⟨⟨?_, ?_⟩, unique, ?_, ?_⟩
  · rintro ⟨d, hd⟩
    obtain ⟨m, n, hr, -⟩ := standard_matchAt?_eq_some hd
    exact ⟨m, n, d.rest, hr.symm⟩
  · rintro ⟨m, n, r, hr⟩
    exact Option.isSome_iff_exists.mp (standard_matchAt?_isSome hr.symm)
  · intro m n hmn
    obtain ⟨r, hr⟩ := hmn
    obtain ⟨d, hd⟩ := Option.isSome_iff_exists.mp
      (standard_matchAt?_isSome (c := .inText s.toList i) hr.symm)
    obtain ⟨m', n', t⟩ := standard_matchAt?_took hd
    obtain ⟨m'', n'', hr', hd'⟩ := standard_matchAt?_eq_some hd
    obtain ⟨rfl, rfl, hrest⟩ := Mention.standardText_append_inj (hr.trans t.rest)
    obtain ⟨rfl, rfl, -⟩ := Mention.standardText_append_inj (hr.trans hr')
    exact ⟨d, hd, t.pos_inText (by simp [Mention.standardText]), t.textFrom, hd'⟩
  · exact (standardNode_walk (Cursor.read_clear _)).symm

end TermRef
