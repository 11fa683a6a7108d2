/-
TermRef/Proofs/Reference/Alternate.lean

The alternate grammar, exactly.

The pattern matches where the first half of a reference is written, and takes the second
half too wherever it follows.  The first half is settled as in the default grammar, by
what a match has taken and what is matched.  The second half is where preference counts:
it may be absent as far as the pattern goes, and is taken because it is tried first.

* `alternate_matchAt?_eq_some` — a match has taken a written reference, and what follows
  it is no second half unless it has taken one;
* `alternate_matchAt?_isSome` — the first half of a reference is matched.

Each lazy run stands before a character outside of its set, so that it ends where a
greedy one would (`alternateBody_eager`).
-/
import TermRef.Proofs.Reference.Parts

namespace TermRef

open Pattern Grammar Function

variable {k : Rest} {c d : Cursor}

/-! ### The parts of the pattern -/

/-- The condition on what follows the opening bracket. -/
def alternateAhead : Node :=
  .chain [several aheadShowSet, .char '@', many (tagSet [':', '.']), .char ']',
    .optional (.chain [.char '(', several (tagSet ['#']), .char ')'])]

/-- `(id#trait)`. -/
def alternateNaming : Node :=
  .chain [.char '(', .group 4 (many (tagSet [])), markedNode .lazy '#' 5 (tagSet []), .char ')']

/-- What follows the condition. -/
def alternateBody : Node :=
  .chain [.group 1 (.run .lazy 1 none showSet), .char '@', .group 2 (many (tagSet [])),
    markedNode .lazy ':' 3 (tagSet ['.']), .char ']', .optional alternateNaming]

theorem alternateNode_eq :
    alternateNode = .seq (.char '[') (.seq (.look none true alternateAhead) alternateBody) := rfl

theorem alternateNaming_eq_some (h : alternateNaming.walk some c = some d) (h₅ : c.read 5 = []) :
    ∃ n, c.Took d n.tailText (namingReads 4 5 c.read n) := by
  simp only [alternateNaming, Node.chain, walk_seq] at h
  obtain ⟨e₁, t₁, -, h⟩ := walk_char_eq_some h
  obtain ⟨e₂, id, t₂, -, hid, h⟩ := walk_group_run_eq_some h
  have r₂ : e₂.read 5 = [] := by rw [t₂.reads, update_of_ne (by decide), t₁.reads, h₅]
  obtain ⟨e₃, trait, t₃, htrait, h⟩ := walk_marked_eq_some h r₂
  obtain ⟨e₄, t₄, -, h⟩ := walk_char_eq_some h
  obtain rfl := Option.some.inj h
  refine ⟨⟨id, trait, ?_, ?_⟩, ?_⟩
  · simpa only [mem_slugSet] using hid
  · simpa only [mem_slugSet] using htrait
  · have t := t₁.trans <| t₂.trans <| t₃.trans t₄
    rw [t₃.reads, t₂.reads, t₁.reads] at t
    simpa [namingReads, Naming.tailText, Naming.text] using t

theorem alternateNaming_isSome (n : Naming) {r : List Char} (h : c.rest = n.tailText ++ r)
    (h₅ : c.read 5 = []) : (alternateNaming.walk some c).isSome := by
  have h' : c.rest = '(' :: (n.id ++ (markedText '#' n.trait ++ ')' :: r)) := by
    simpa [Naming.tailText, Naming.text] using h
  simp only [alternateNaming, Node.chain, walk_seq]
  refine walk_char_isSome h' fun e₁ t₁ h₁ => ?_
  refine walk_group_run_isSome (by decide) h₁ (Nat.zero_le _)
    (by simpa only [mem_slugSet] using n.id_slug) fun e₂ t₂ h₂ => ?_
  have r₂ : e₂.read 5 = [] := by rw [t₂.reads, update_of_ne (by decide), t₁.reads, h₅]
  refine walk_marked_isSome (by decide) h₂
    (by simpa only [mem_slugSet] using n.trait_slug) r₂ fun e₃ _ h₃ => ?_
  exact walk_char_isSome h₃ fun _ _ _ => rfl

/-- The second half is taken if and only if it follows. -/
theorem alternateTail_eq_some (h : (Node.optional alternateNaming).walk some c = some d)
    (h₄ : c.read 4 = []) (h₅ : c.read 5 = []) :
    ∃ t : Option Naming,
      c.Took d (t.elim [] Naming.tailText) (namingReads 4 5 c.read (t.getD .absent)) ∧
      (t = none → ∀ n : Naming, ¬ n.tailText <+: d.rest) := by
  rw [walk_optional] at h
  rcases e : alternateNaming.walk some c with - | c'
  · rw [e, Option.none_or] at h
    obtain rfl := Option.some.inj h
    refine ⟨none, ?_, ?_⟩
    · have skip : c.Took c [] (update c.read 4 []) := .skip h₄
      exact skip.update_nil (by rw [update_of_ne (by decide), h₅])
    · -- a second half that follows would have been taken first
      rintro - n ⟨r, hr⟩
      have := alternateNaming_isSome n hr.symm h₅
      rw [e] at this
      cases this
  · rw [e, Option.some_or] at h
    obtain rfl := Option.some.inj h
    obtain ⟨n, t⟩ := alternateNaming_eq_some e h₅
    exact ⟨some n, t, by simp⟩

/-! ### The body -/

/-- How the groups read after the first half. -/
def headReads (m : Mention) : Nat → List Char :=
  update (update (update (fun _ => []) 1 m.shown) 2 m.origin.scopetag) 3 (m.origin.vsntag.getD [])

/-- How the groups read after a reference. -/
def alternateReads (m : Mention) (t : Option Naming) : Nat → List Char :=
  namingReads 4 5 (headReads m) (t.getD .absent)

theorem alternateBody_eq_some (hc : c.read = fun _ => [])
    (h : alternateBody.walk some c = some d) :
    ∃ m t, c.Took d (m.shown ++ '@' :: m.origin.text ++ ']' :: t.elim [] Naming.tailText)
        (alternateReads m t) ∧
      (t = none → ∀ n : Naming, ¬ n.tailText <+: d.rest) := by
  simp only [alternateBody, Node.chain, walk_seq] at h
  obtain ⟨e₁, shown, t₁, hlen, hshown, h⟩ := walk_group_run_eq_some h
  obtain ⟨e₂, t₂, -, h⟩ := walk_char_eq_some h
  obtain ⟨e₃, scope, t₃, -, hscope, h⟩ := walk_group_run_eq_some h
  have r₃ : e₃.read 3 = [] := by
    rw [t₃.reads, t₂.reads, t₁.reads, hc]
    rfl
  obtain ⟨e₄, version, t₄, hversion, h⟩ := walk_marked_eq_some h r₃
  obtain ⟨e₅, t₅, -, h⟩ := walk_char_eq_some h
  let m : Mention := ⟨shown, ⟨scope, version, by simpa only [mem_slugSet] using hscope,
    by simpa only [mem_versionSet] using hversion⟩, List.ne_nil_of_length_pos hlen,
    by simpa only [mem_showSet] using hshown⟩
  have r₅ : e₅.read = headReads m := by
    rw [t₅.reads, t₄.reads, t₃.reads, t₂.reads, t₁.reads, hc]
    rfl
  obtain ⟨t, t₆, hlast⟩ := alternateTail_eq_some h (by rw [r₅]; rfl) (by rw [r₅]; rfl)
  refine ⟨m, t, ?_, hlast⟩
  have t := t₁.trans <| t₂.trans <| t₃.trans <| t₄.trans <| t₅.trans t₆
  rw [r₅] at t
  simpa [alternateReads, Origin.text, m] using t

theorem alternateBody_isSome (m : Mention) {r : List Char} (hc : c.read = fun _ => [])
    (h : c.rest = m.shown ++ '@' :: m.origin.text ++ ']' :: r) :
    (alternateBody.walk some c).isSome := by
  have h' : c.rest = m.shown ++ ('@' :: (m.origin.scopetag ++
      (markedText ':' m.origin.vsntag ++ ']' :: r))) := by
    simpa [Origin.text] using h
  simp only [alternateBody, Node.chain, walk_seq]
  refine walk_group_run_isSome (by decide) h' (List.length_pos_iff.mpr m.shown_ne_nil)
    (by simpa only [mem_showSet] using m.shown_isShown) fun e₁ t₁ h₁ => ?_
  refine walk_char_isSome h₁ fun e₂ t₂ h₂ => ?_
  refine walk_group_run_isSome (by decide) h₂ (Nat.zero_le _)
    (by simpa only [mem_slugSet] using m.origin.scopetag_slug) fun e₃ t₃ h₃ => ?_
  have r₃ : e₃.read 3 = [] := by
    rw [t₃.reads, t₂.reads, t₁.reads, hc]
    rfl
  refine walk_marked_isSome (by decide) h₃
    (by simpa only [mem_versionSet] using m.origin.vsntag_version) r₃ fun e₄ _ h₄ => ?_
  exact walk_char_isSome h₄ fun _ _ _ => walk_optional_isSome_right rfl

/-! ### The condition and the modes -/

/-- The condition holds before everything that the body accepts. -/
theorem alternateAhead_isSome (hc : c.read = fun _ => [])
    (h : alternateBody.walk some c = some d) : (alternateAhead.walk some c).isSome := by
  obtain ⟨m, t, took, -⟩ := alternateBody_eq_some hc h
  have h' : c.rest = m.shown ++ ('@' :: (m.origin.text ++ (']' :: (t.elim [] Naming.tailText ++
      d.rest)))) := by
    simpa using took.rest
  simp only [alternateAhead, Node.chain, walk_seq]
  refine walk_run_isSome (by decide) h' (List.length_pos_iff.mpr m.shown_ne_nil)
    (fun x hx => mem_aheadShowSet (m.shown_isShown x hx)) fun _ _ h₁ => ?_
  refine walk_char_isSome h₁ fun _ _ h₂ => ?_
  refine walk_run_isSome (by decide) h₂ (Nat.zero_le _) m.origin.text_all fun _ _ h₃ => ?_
  exact walk_char_isSome h₃ fun _ _ _ => walk_optional_isSome_right rfl

theorem alternateAhead_keeps : alternateAhead.Keeps := by
  simp only [alternateAhead, Node.chain]
  exact .seq .run <| .seq .char <| .seq .run <| .seq .char <|
    .optional <| .seq .char <| .seq .run .char

/-- The pattern with its condition matches like the bracket and the body alone. -/
theorem alternateNode_walk (hc : c.read = fun _ => []) :
    alternateNode.walk some c = (Node.seq (.char '[') alternateBody).walk some c := by
  rw [alternateNode_eq, walk_seq, walk_seq, walk_seq]
  refine walk_char_congr fun e te => ?_
  have he : e.read = fun _ => [] := te.reads.trans hc
  exact walk_look_eq alternateAhead_keeps fun _ => alternateAhead_isSome he

theorem alternateBody_eager : alternateBody.eager.walk some = alternateBody.walk some := by
  have version : Rest.Refuses ((Node.char ']').walk ((Node.optional alternateNaming).walk some))
      (tagSet ['.']).mem := refuses_char (by simp [mem_tagSet, Slug.isSlugChar]) _
  have trait : Rest.Refuses ((Node.char ')').walk some) (tagSet []).mem :=
    refuses_char (by simp [mem_tagSet, Slug.isSlugChar]) _
  have words : ∀ k, Rest.Refuses ((Node.char '@').walk k) showSet.mem :=
    refuses_char (by simp [mem_showSet, isShown])
  have tail : (Node.optional alternateNaming.eager).walk some =
      (Node.optional alternateNaming).walk some := by
    funext c
    rw [walk_optional, walk_optional]
    simp only [alternateNaming, Node.chain, walk_seq, walk_marked_lazy_eq_greedy trait]
    rfl
  calc alternateBody.eager.walk some
      = (Node.group 1 (.run .greedy 1 none showSet)).walk ((Node.char '@').walk
          ((Node.group 2 (many (tagSet []))).walk
            ((markedNode .greedy ':' 3 (tagSet ['.'])).walk
              ((Node.char ']').walk ((Node.optional alternateNaming.eager).walk some))))) := rfl
    _ = alternateBody.walk some := by
      rw [tail, ← walk_marked_lazy_eq_greedy version, ← walk_group_lazy_eq_greedy (words _)]
      rfl

/-! ### Matches -/

/-- A match with the alternate grammar has taken a written reference and denotes it; it
leaves out the second half only where none follows. -/
theorem alternate_matchAt?_eq_some (h : alternate.pattern.matchAt? c = some d) :
    ∃ m t, c.Took d (Mention.alternateText m t) (alternateReads m t) ∧
      alternate.interpret d = m.reference (t.getD .absent) ∧
      (t = none → ∀ n : Naming, ¬ n.tailText <+: d.rest) := by
  have h' : alternateNode.walk some c.clear = some d := h
  rw [alternateNode_walk c.read_clear, walk_seq] at h'
  obtain ⟨e, te, -, h'⟩ := walk_char_eq_some h'
  obtain ⟨m, t, took, hlast⟩ := alternateBody_eq_some (te.reads.trans c.read_clear) h'
  have took' : c.clear.Took d (m.alternateText t) (alternateReads m t) := by
    simpa [Mention.alternateText, Mention.headText] using te.trans took
  have reads : ∀ i, ((d.group? i).map Capture.text).getD [] = alternateReads m t i :=
    congrFun took'.reads
  exact ⟨m, t, ⟨took'.rest, took'.before, took'.pos, took'.reads⟩,
    interpret_eq_reference (reads 1) (reads 4) (reads 5) (reads 2) (reads 3), hlast⟩

/-- Where the first half of a reference is written, the alternate grammar matches. -/
theorem alternate_matchAt?_isSome {m : Mention} {r : List Char}
    (h : c.rest = m.headText ++ r) : (alternate.pattern.matchAt? c).isSome := by
  have h' : c.clear.rest = '[' :: (m.shown ++ '@' :: m.origin.text ++ ']' :: r) := by
    rw [show c.clear.rest = c.rest from rfl, h]
    simp [Mention.headText]
  show (alternateNode.walk some c.clear).isSome
  rw [alternateNode_walk c.read_clear, walk_seq]
  exact walk_char_isSome h' fun e te he => alternateBody_isSome m (te.reads.trans c.read_clear) he

/-- The grammar has nothing to say on a place with a reference but how it is written: the
pattern matches where the first half of one is, takes the second half if and only if it
follows, and denotes what both say; and it would do so without looking ahead, and taking
as much as possible first wherever it takes as little. -/
theorem alternate_matches_exactly (s : String) (i : Nat) :
    ((∃ d, alternate.pattern.matchAt? (.inText s.toList i) = some d) ↔
        ∃ m, Mention.headText m <+: s.toList.drop i) ∧
      (∀ m m', Mention.headText m <+: s.toList.drop i →
        Mention.headText m' <+: s.toList.drop i → m = m') ∧
      (∀ m, Mention.headText m <+: s.toList.drop i →
        ∃ d t, alternate.pattern.matchAt? (.inText s.toList i) = some d ∧
          (∀ n, m.headText ++ Naming.tailText n <+: s.toList.drop i ↔ t = some n) ∧
          d.pos = i + (m.alternateText t).length ∧
          (Cursor.inText s.toList i).textFrom d = m.alternateText t ∧
          alternate.interpret d = m.reference (t.getD .absent)) ∧
      Pattern.matchAt? ⟨alternateNode.dropLooks.eager, alternate.pattern.names⟩
          (.inText s.toList i) =
        alternate.pattern.matchAt? (.inText s.toList i) := by
  refine ⟨⟨?_, ?_⟩, ?_, ?_, ?_⟩
  · rintro ⟨d, hd⟩
    obtain ⟨m, t, took, -⟩ := alternate_matchAt?_eq_some hd
    refine ⟨m, t.elim [] Naming.tailText ++ d.rest, ?_⟩
    rw [← List.append_assoc]
    exact took.rest.symm
  · rintro ⟨m, r, hr⟩
    exact Option.isSome_iff_exists.mp (alternate_matchAt?_isSome hr.symm)
  · rintro m m' ⟨r, hr⟩ ⟨r', hr'⟩
    exact (Mention.headText_append_inj (hr.trans hr'.symm)).1
  · rintro m ⟨r, hr⟩
    obtain ⟨d, hd⟩ := Option.isSome_iff_exists.mp
      (alternate_matchAt?_isSome (c := .inText s.toList i) hr.symm)
    obtain ⟨m', t, took, href, hlast⟩ := alternate_matchAt?_eq_some hd
    have hrest : s.toList.drop i = m'.headText ++ (t.elim [] Naming.tailText ++ d.rest) := by
      rw [← List.append_assoc]
      exact took.rest
    obtain ⟨rfl, -⟩ := Mention.headText_append_inj (hr.trans hrest)
    refine ⟨d, t, hd, ?_, ?_, took.textFrom, href⟩
    · intro n
      rw [hrest, List.prefix_append_right_inj]
      constructor
      · rintro ⟨r', hr'⟩
        cases t with
        | none => exact absurd ⟨r', hr'⟩ (hlast rfl n)
        | some n' => rw [(Naming.tailText_append_inj hr').1]
      · rintro rfl
        exact List.prefix_append _ _
    · exact took.pos_inText (by simp [Mention.alternateText, Mention.headText])
  · calc Pattern.matchAt? ⟨alternateNode.dropLooks.eager, alternate.pattern.names⟩
          (.inText s.toList i)
        = (Node.char '[').walk (alternateBody.eager.walk some) (.inText s.toList i) := rfl
      _ = (Node.seq (.char '[') alternateBody).walk some (.inText s.toList i) := by
        rw [alternateBody_eager, walk_seq]
      _ = alternateNode.walk some (.inText s.toList i) :=
        (alternateNode_walk (Cursor.read_clear (.inText s.toList i))).symm

end TermRef
