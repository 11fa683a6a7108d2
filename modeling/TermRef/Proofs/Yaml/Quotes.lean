/-
TermRef/Proofs/Yaml/Quotes.lean

Quotes about versions.

A bare version is a text by its spelling, and with quotes it is one anyway.  So whoever makes a
tree from tokens may put the quotes in or leave them out.  A reader of tokens that does not tell
the difference `Ignores` them: it goes on in the same way, with quotes about the versions that are
left.  What is put together from such readers is such a reader (`Ignores.bind`,
`Ignores.peek_bind`), and those that make trees are so by induction on the fuel (`allIgnore`).

A document therefore has the same tree whether a version in it is written with quotes or without
(`ofTokens_scalar`).
-/
import TermRef.Proofs.Yaml.Bare

namespace TermRef.Yaml

open Build

/-! ### Readers that ignore quotes -/

/-- A token with quotes, if it is a version that can be written without. -/
def Token.quoted : Token → Token
  | .scalar s plain => .scalar s (plain && !decide (IsBare s))
  | t => t

/-- What is kept while a tree is read, with quotes about versions. -/
def Builder.quoted (b : Builder) : Builder := { b with tokens := b.tokens.map Token.quoted }

/-- Quotes about versions make no difference to a reader. -/
def Ignores {α : Type} (m : Build α) : Prop :=
  ∀ b : Builder, m.run b.quoted = (m.run b).map fun x => (x.1, x.2.quoted)

namespace Ignores

variable {α β : Type} {m : Build α} {f : α → Build β} {a : α}

theorem pure (a : α) : Ignores (Pure.pure a : Build α) := fun _ => rfl

theorem throw (f : Fault) : Ignores (throw f : Build α) := fun _ => rfl

theorem fail : Ignores (Build.fail : Build α) := throw _

theorem bind (hm : Ignores m) (hf : ∀ a, Ignores (f a)) : Ignores (m >>= f) := by
  intro b
  rw [StateT.run_bind, StateT.run_bind, hm b]
  rcases m.run b with e | ⟨a, b'⟩
  · rfl
  · exact hf a b'

theorem modify {g : Builder → Builder} (hg : ∀ b, g b.quoted = (g b).quoted) :
    Ignores (modify g : Build Unit) := by
  intro b
  exact congrArg (fun b' => Except.ok ((), b')) (hg b)

theorem advance : Ignores Build.advance :=
  modify fun b => by simp [Builder.quoted]

theorem peek_run (b : Builder) : Build.peek.run b = .ok (b.tokens.headD .streamEnd, b) := by
  obtain ⟨_ | ⟨t, ts⟩, _, _⟩ := b <;> rfl

/-- What comes next decides how a reader goes on, and whether a version has quotes does not. -/
theorem peek_bind {f : Token → Build β}
    (hq : ∀ s, IsBare s → f (.scalar s true) = f (.scalar s false)) (hf : ∀ t, Ignores (f t)) :
    Ignores (peek >>= f) := by
  have hquoted : ∀ t : Token, f t.quoted = f t := by
    intro t
    cases t with
    | scalar s plain =>
      by_cases hs : IsBare s
      · cases plain <;> simp [Token.quoted, hs, hq]
      · simp [Token.quoted, hs]
    | _ => rfl
  intro b
  have hhead : b.quoted.tokens.headD .streamEnd = (b.tokens.headD .streamEnd).quoted := by
    obtain ⟨_ | ⟨t, ts⟩, _, _⟩ := b <;> rfl
  rw [StateT.run_bind, StateT.run_bind, peek_run, peek_run, hhead]
  show (f (b.tokens.headD .streamEnd).quoted).run b.quoted = _
  rw [hquoted]
  exact hf _ b

theorem expect {t : Token} (ht : ∀ s plain, t ≠ .scalar s plain) : Ignores (Build.expect t) := by
  rw [Build.expect]
  refine peek_bind (fun s _ => ?_) fun t' => ?_
  · rw [if_neg (ht s true).symm, if_neg (ht s false).symm]
  · split
    · exact advance
    · exact fail

/-- Between brackets, what is not the first item stands behind a separator. -/
theorem separated {first : Bool} {t : Token} {k : Unit → Build α}
    (ht : ∀ s plain, t ≠ .scalar s plain) (hk : Ignores (k ())) :
    Ignores (if (!first) = true then Build.expect t >>= k else k ()) := by
  split
  · exact (expect ht).bind fun _ => hk
  · exact hk

/-- Handles and anchors are the same with quotes. -/
theorem get_bind {f : Builder → Build β} (hq : ∀ b, f b.quoted = f b) (hf : ∀ b, Ignores (f b)) :
    Ignores (get >>= f) := by
  intro b
  have hrun : ∀ b : Builder, (get >>= f : Build β).run b = (f b).run b := fun _ => rfl
  rw [hrun, hrun, hq]
  exact hf b b

theorem expand (handle : Option String) (rest : String) : Ignores (Build.expand handle rest) := by
  cases handle with
  | none => exact pure rest
  | some h =>
    refine get_bind (fun _ => rfl) fun b => ?_
    split
    · exact pure _
    · exact fail

theorem properties : Ignores Build.properties := by
  refine peek_bind (fun _ _ => rfl) fun t => ?_
  cases t with
  | anchor a =>
    refine advance.bind fun _ => peek_bind (fun _ _ => rfl) fun t' => ?_
    cases t' with
    | tag h r => exact advance.bind fun _ => (expand _ _).bind fun _ => pure _
    | _ => exact pure _
  | tag h r =>
    refine advance.bind fun _ => peek_bind (fun _ _ => rfl) fun t' => ?_
    cases t' with
    | anchor a => exact advance.bind fun _ => (expand _ _).bind fun _ => pure _
    | _ => exact (expand _ _).bind fun _ => pure _
  | _ => exact pure _

theorem openAnchor (a : Option String) : Ignores (Build.openAnchor a) := by
  cases a with
  | none => exact pure ()
  | some name =>
    intro b
    have hquoted : b.quoted.anchors = b.anchors := rfl
    by_cases hused : (b.anchors.any fun x => x.1 == name) = true
    · simp only [Build.openAnchor, StateT.run_bind, StateT.run_get, pure_bind, hquoted,
        if_pos hused]
      rfl
    · simp only [Build.openAnchor, StateT.run_bind, StateT.run_get, pure_bind, hquoted,
        if_neg hused]
      rfl

theorem closeAnchor (a : Option String) (t : Tree) : Ignores (Build.closeAnchor a t) := by
  cases a with
  | none => exact pure t
  | some name =>
    refine Ignores.bind (Ignores.modify fun _ => ?_) fun _ => pure t
    rfl

theorem aliased (name : String) : Ignores (Build.aliased name) := by
  refine get_bind (fun _ => rfl) fun b => ?_
  split
  · exact pure _
  · exact throw _
  · exact fail

end Ignores

/-! ### Trees -/

/-- The readers of trees ignore quotes, as far as they go. -/
structure AllIgnore (fuel : Nat) : Prop where
  tree : ∀ block flat, Ignores (tree fuel block flat)
  treeUnless : ∀ stops block flat, (∀ s plain, .scalar s plain ∉ stops) →
    Ignores (treeUnless fuel stops block flat)
  blockItems : ∀ done, Ignores (blockItems fuel done)
  flatEntries : ∀ done, Ignores (flatEntries fuel done)
  blockEntries : ∀ done, Ignores (blockEntries fuel done)
  blockValue : Ignores (blockValue fuel)
  flowItems : ∀ first done, Ignores (flowItems fuel first done)
  flowValue : ∀ close, (∀ s plain, close ≠ .scalar s plain) → Ignores (flowValue fuel close)
  flowEntries : ∀ first done, Ignores (flowEntries fuel first done)

namespace AllIgnore

theorem zero : AllIgnore 0 where
  tree _ _ := by rw [Build.tree]; exact .fail
  treeUnless _ _ _ _ := by rw [Build.treeUnless]; exact .fail
  blockItems _ := by rw [Build.blockItems]; exact .fail
  flatEntries _ := by rw [Build.flatEntries]; exact .fail
  blockEntries _ := by rw [Build.blockEntries]; exact .fail
  blockValue := by rw [Build.blockValue]; exact .fail
  flowItems _ _ := by rw [Build.flowItems]; exact .fail
  flowValue _ _ := by rw [Build.flowValue]; exact .fail
  flowEntries _ _ := by rw [Build.flowEntries]; exact .fail

variable {fuel : Nat}

theorem scalarTag_of_isBare {s : String} (hs : IsBare s) (tag : Option String) :
    scalarTag tag true s = scalarTag tag false s := by
  unfold scalarTag
  split
  · simpa using plainTag_of_isBare hs
  · rfl
  · rfl

/-- A tree behind its anchor and its tag. -/
theorem node (h : AllIgnore fuel) (block : Bool) (anchor tag : Option String) : Ignores (do
    match ← peek, block with
    | .scalar s plain, _ =>
      advance
      closeAnchor anchor (.scalar (scalarTag tag plain s) s)
    | .flowSequenceStart, _ =>
      advance
      closeAnchor anchor (.sequence (blockTag tag "seq") (← Build.flowItems fuel true []))
    | .flowMappingStart, _ =>
      advance
      closeAnchor anchor (.mapping (blockTag tag "map") (← Build.flowEntries fuel true []))
    | .blockSequenceStart, true =>
      advance
      closeAnchor anchor (.sequence (blockTag tag "seq") (← Build.blockItems fuel []))
    | .blockMappingStart, true =>
      advance
      closeAnchor anchor (.mapping (blockTag tag "map") (← Build.blockEntries fuel []))
    | _, _ =>
      if anchor.isSome || tag.isSome then
        let s := match tag with
          | none => emptyScalar
          | some "!" => emptyScalar
          | some t => .scalar t ""
        closeAnchor anchor s
      else fail) := by
  refine .peek_bind (fun s hs => ?_) fun t => ?_
  · simp only [scalarTag_of_isBare hs]
  have hother : Ignores (if anchor.isSome || tag.isSome then
      let s := match tag with
        | none => emptyScalar
        | some "!" => emptyScalar
        | some t => .scalar t ""
      closeAnchor anchor s
    else fail) := by
    split
    · exact .closeAnchor _ _
    · exact .fail
  cases t with
  | scalar s plain => exact Ignores.advance.bind fun _ => .closeAnchor _ _
  | flowSequenceStart =>
    exact Ignores.advance.bind fun _ => (h.flowItems _ _).bind fun _ => .closeAnchor _ _
  | flowMappingStart =>
    exact Ignores.advance.bind fun _ => (h.flowEntries _ _).bind fun _ => .closeAnchor _ _
  | blockSequenceStart =>
    cases block
    · exact hother
    · exact Ignores.advance.bind fun _ => (h.blockItems _).bind fun _ => .closeAnchor _ _
  | blockMappingStart =>
    cases block
    · exact hother
    · exact Ignores.advance.bind fun _ => (h.blockEntries _).bind fun _ => .closeAnchor _ _
  | _ => exact hother

theorem tree_succ (h : AllIgnore fuel) (block flat : Bool) :
    Ignores (Build.tree (fuel + 1) block flat) := by
  rw [Build.tree]
  refine .peek_bind (fun _ _ => rfl) fun t => ?_
  split
  · exact Ignores.advance.bind fun _ => .aliased _
  refine Ignores.properties.bind fun x => ?_
  obtain ⟨anchor, tag⟩ := x
  refine (Ignores.openAnchor anchor).bind fun _ => .peek_bind (fun _ _ => rfl) fun t => ?_
  cases t with
  | blockEntry =>
    cases flat
    · exact h.node block anchor tag
    · exact (h.flatEntries _).bind fun _ => .closeAnchor _ _
  | _ => exact h.node block anchor tag

theorem treeUnless_succ (h : AllIgnore fuel) {stops : List Token} (block flat : Bool)
    (hstops : ∀ s plain, .scalar s plain ∉ stops) :
    Ignores (Build.treeUnless (fuel + 1) stops block flat) := by
  rw [Build.treeUnless]
  refine .peek_bind (fun s _ => ?_) fun t => ?_
  · simp [hstops]
  · split
    · exact .pure _
    · exact h.tree block flat

theorem blockItems_succ (h : AllIgnore fuel) (done : List Tree) :
    Ignores (Build.blockItems (fuel + 1) done) := by
  rw [Build.blockItems]
  refine .peek_bind (fun _ _ => rfl) fun t => ?_
  cases t with
  | blockEntry =>
    exact Ignores.advance.bind fun _ => (h.treeUnless _ _ _ (by simp)).bind fun _ => h.blockItems _
  | _ => exact (Ignores.expect (by simp)).bind fun _ => .pure _

theorem flatEntries_succ (h : AllIgnore fuel) (done : List Tree) :
    Ignores (Build.flatEntries (fuel + 1) done) := by
  rw [Build.flatEntries]
  refine .peek_bind (fun _ _ => rfl) fun t => ?_
  cases t with
  | blockEntry =>
    exact Ignores.advance.bind fun _ => (h.treeUnless _ _ _ (by simp)).bind fun _ => h.flatEntries _
  | _ => exact .pure _

theorem blockEntries_succ (h : AllIgnore fuel) (done : List (Tree × Tree)) :
    Ignores (Build.blockEntries (fuel + 1) done) := by
  rw [Build.blockEntries]
  refine .peek_bind (fun _ _ => rfl) fun t => ?_
  cases t with
  | key =>
    exact Ignores.advance.bind fun _ => (h.treeUnless _ _ _ (by simp)).bind fun _ =>
      h.blockValue.bind fun _ => h.blockEntries _
  | _ => exact (Ignores.expect (by simp)).bind fun _ => .pure _

theorem blockValue_succ (h : AllIgnore fuel) : Ignores (Build.blockValue (fuel + 1)) := by
  rw [Build.blockValue]
  refine .peek_bind (fun _ _ => rfl) fun t => ?_
  cases t with
  | value => exact Ignores.advance.bind fun _ => h.treeUnless _ _ _ (by simp)
  | _ => exact .pure _

theorem flowItems_succ (h : AllIgnore fuel) (first : Bool) (done : List Tree) :
    Ignores (Build.flowItems (fuel + 1) first done) := by
  rw [Build.flowItems]
  refine .peek_bind (fun _ _ => by simp) fun t => ?_
  split
  · exact Ignores.advance.bind fun _ => .pure _
  refine .separated (by simp) (.peek_bind (fun _ _ => rfl) fun t => ?_)
  cases t with
  | flowSequenceEnd => exact Ignores.advance.bind fun _ => .pure _
  | key =>
    exact Ignores.advance.bind fun _ => (h.treeUnless _ _ _ (by simp)).bind fun _ =>
      (h.flowValue _ (by simp)).bind fun _ => h.flowItems _ _
  | _ => exact (h.tree _ _).bind fun _ => h.flowItems _ _

theorem flowValue_succ (h : AllIgnore fuel) {close : Token}
    (hclose : ∀ s plain, close ≠ .scalar s plain) : Ignores (Build.flowValue (fuel + 1) close) := by
  rw [Build.flowValue]
  refine .peek_bind (fun _ _ => rfl) fun t => ?_
  cases t with
  | value =>
    exact Ignores.advance.bind fun _ => h.treeUnless _ _ _ (by simpa [eq_comm] using hclose)
  | _ => exact .pure _

theorem flowEntries_succ (h : AllIgnore fuel) (first : Bool) (done : List (Tree × Tree)) :
    Ignores (Build.flowEntries (fuel + 1) first done) := by
  rw [Build.flowEntries]
  refine .peek_bind (fun _ _ => by simp) fun t => ?_
  split
  · exact Ignores.advance.bind fun _ => .pure _
  refine .separated (by simp) (.peek_bind (fun _ _ => rfl) fun t => ?_)
  cases t with
  | flowMappingEnd => exact Ignores.advance.bind fun _ => .pure _
  | key =>
    exact Ignores.advance.bind fun _ => (h.treeUnless _ _ _ (by simp)).bind fun _ =>
      (h.flowValue _ (by simp)).bind fun _ => h.flowEntries _ _
  | _ => exact (h.tree _ _).bind fun _ => h.flowEntries _ _

end AllIgnore

theorem allIgnore (fuel : Nat) : AllIgnore fuel := by
  induction fuel with
  | zero => exact .zero
  | succ fuel h => exact {
      tree := h.tree_succ
      treeUnless := fun _ block flat hstops => h.treeUnless_succ block flat hstops
      blockItems := h.blockItems_succ
      flatEntries := h.flatEntries_succ
      blockEntries := h.blockEntries_succ
      blockValue := h.blockValue_succ
      flowItems := h.flowItems_succ
      flowValue := fun _ hclose => h.flowValue_succ hclose
      flowEntries := h.flowEntries_succ }

/-! ### Documents -/

namespace Ignores

theorem directives (fuel : Nat) (versioned : Bool) (handles : List (String × String)) :
    Ignores (Build.directives fuel versioned handles) := by
  induction fuel generalizing versioned handles with
  | zero =>
    rw [Build.directives]
    exact fail
  | succ fuel ih =>
    rw [Build.directives]
    refine peek_bind (fun _ _ => rfl) fun t => ?_
    cases t with
    | directive d =>
      refine advance.bind fun _ => ?_
      cases d with
      | version major minor =>
        dsimp only
        split
        · exact fail
        · exact ih true handles
      | tag h lead =>
        dsimp only
        split
        · exact fail
        · exact ih versioned _
      | other => exact ih versioned handles
    | _ => exact pure handles

theorem skipEnds (fuel : Nat) : Ignores (Build.skipEnds fuel) := by
  induction fuel with
  | zero =>
    rw [Build.skipEnds]
    exact fail
  | succ fuel ih =>
    rw [Build.skipEnds]
    refine peek_bind (fun _ _ => by simp) fun t => ?_
    split
    · exact advance.bind fun _ => ih
    · exact pure ()

theorem startDocument (fuel : Nat) : Ignores (Build.startDocument fuel) := by
  refine (directives fuel false []).bind fun own => (expect (by simp)).bind fun _ => ?_
  exact modify fun _ => rfl

theorem contents (fuel : Nat) : Ignores (Build.contents fuel) := by
  refine peek_bind (fun _ _ => rfl) fun t => ?_
  cases t with
  | directive | documentStart | documentEnd | streamEnd => exact pure _
  | _ => exact (allIgnore fuel).tree _ _

theorem isExplicit : Ignores Build.isExplicit := by
  refine peek_bind (fun _ _ => rfl) fun t => ?_
  cases t <;> exact pure _

theorem document (fuel : Nat) : Ignores (Build.document fuel) := by
  rw [Build.document]
  refine peek_bind (fun _ _ => by simp) fun t => ?_
  split
  · exact pure none
  have hend : ∀ t : Tree, Ignores (do
      Build.skipEnds fuel
      if (← peek) = .streamEnd then Pure.pure (some t) else Build.fail) := by
    intro t
    refine (skipEnds fuel).bind fun _ => peek_bind (fun _ _ => by simp) fun t' => ?_
    split
    · exact pure _
    · exact fail
  refine isExplicit.bind fun explicit => ?_
  cases explicit
  · refine bind (modify fun _ => ?_) fun _ => ((allIgnore fuel).tree _ _).bind hend
    rfl
  · exact (startDocument fuel).bind fun _ => (contents fuel).bind hend

end Ignores

/-- **With quotes about its versions a document has the same tree.** -/
theorem ofTokens_map_quoted (ts : List Token) :
    Tree.ofTokens (ts.map Token.quoted) = Tree.ofTokens ts := by
  have hrun : (document (3 * ts.length + 8)).run { tokens := ts.map Token.quoted } =
      ((document (3 * ts.length + 8)).run { tokens := ts }).map fun x => (x.1, x.2.quoted) :=
    Ignores.document (3 * ts.length + 8) { tokens := ts }
  rw [Tree.ofTokens, Tree.ofTokens, List.length_map, hrun]
  rcases (document (3 * ts.length + 8)).run { tokens := ts } with f | x <;> rfl

/-- **A version means the same with and without quotes**, wherever it stands. -/
theorem ofTokens_scalar {t : String} (ht : IsBare t) (pre post : List Token) :
    Tree.ofTokens (pre ++ .scalar t true :: post) =
      Tree.ofTokens (pre ++ .scalar t false :: post) := by
  have hquoted : ∀ plain, Token.quoted (.scalar t plain) = .scalar t false := by
    simp [Token.quoted, ht]
  rw [← ofTokens_map_quoted (pre ++ .scalar t true :: post),
    ← ofTokens_map_quoted (pre ++ .scalar t false :: post)]
  simp only [List.map_append, List.map_cons, hquoted]

end TermRef.Yaml
