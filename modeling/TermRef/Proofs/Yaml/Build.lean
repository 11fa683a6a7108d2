/-
TermRef/Proofs/Yaml/Build.lean

Trees from the tokens of collections in brackets.

Reading a tree takes tokens and leaves anchors and tag handles as they are, if none occur among
the tokens (`Builds`).  For each kind of tree in brackets, and for each item and entry, there is
one lemma: what is read for the parts is put together for the whole.  All of these take one unit
of fuel, except that the name of an entry and its value are read deeper than the entry.
-/
import TermRef.Yaml.Tree

namespace TermRef.Yaml

/-- Reading takes the tokens `ts` up to `rest` and gives `a`, whatever anchors and handles there
are. -/
def Builds {α : Type} (x : Build α) (ts rest : List Token) (a : α) : Prop :=
  ∀ anchors handles, x.run ⟨ts, anchors, handles⟩ = pure (a, ⟨rest, anchors, handles⟩)

/-- A token that a tree in brackets begins with: a scalar or an opening bracket. -/
def Token.opens : Token → Bool
  | .scalar .. | .flowSequenceStart | .flowMappingStart => true
  | _ => false

theorem Token.cases_of_opens {t : Token} (h : t.opens = true) :
    (∃ s plain, t = .scalar s plain) ∨ t = .flowSequenceStart ∨ t = .flowMappingStart := by
  cases t with
  | scalar s plain => exact .inl ⟨s, plain, rfl⟩
  | flowSequenceStart => exact .inr (.inl rfl)
  | flowMappingStart => exact .inr (.inr rfl)
  | _ => cases h

/-- The token of the comma before all parts of a collection but the first. -/
def Token.comma (first : Bool) : List Token := if first then [] else [.flowEntry]

namespace Build

variable {t : Token} {ts us rest : List Token} {fuel : Nat}

/-! ### Trees -/

theorem tree_scalar (fuel : Nat) (block flat : Bool) (s : String) (plain : Bool)
    (rest : List Token) : Builds (tree (fuel + 1) block flat) (.scalar s plain :: rest) rest
      (.scalar (scalarTag none plain s) s) := by
  intro anchors handles
  rw [tree]
  simp [peek, properties, openAnchor, advance, closeAnchor]

theorem tree_sequence {items : List Tree} (h : Builds (flowItems fuel true []) ts rest items)
    (block flat : Bool) : Builds (tree (fuel + 1) block flat) (.flowSequenceStart :: ts) rest
      (.sequence (standardTag "seq") items) := by
  intro anchors handles
  rw [tree]
  simp [peek, properties, openAnchor, advance, closeAnchor, h anchors handles, blockTag]

theorem tree_mapping {es : List (Tree × Tree)} (h : Builds (flowEntries fuel true []) ts rest es)
    (block flat : Bool) : Builds (tree (fuel + 1) block flat) (.flowMappingStart :: ts) rest
      (.mapping (standardTag "map") es) := by
  intro anchors handles
  rw [tree]
  simp [peek, properties, openAnchor, advance, closeAnchor, h anchors handles, blockTag]

/-! ### Items -/

theorem flowItems_end (fuel : Nat) (first : Bool) (done : List Tree) (rest : List Token) :
    Builds (flowItems (fuel + 1) first done) (.flowSequenceEnd :: rest) rest done.reverse := by
  intro anchors handles
  rw [flowItems]
  simp [peek, advance]

/-- An item is read, and then the others. -/
theorem flowItems_item (first : Bool) {done items : List Tree} {v : Tree} (ht : t.opens = true)
    (hv : Builds (tree fuel false false) (t :: ts) us v)
    (hitems : Builds (flowItems fuel false (v :: done)) us rest items) :
    Builds (flowItems (fuel + 1) first done) (Token.comma first ++ t :: ts) rest items := by
  intro anchors handles
  have hv := hv anchors handles
  have hitems := hitems anchors handles
  rw [flowItems]
  rcases Token.cases_of_opens ht with ⟨s, plain, rfl⟩ | rfl | rfl <;> cases first <;>
    simp [Token.comma, peek, advance, expect, hv, hitems]

/-! ### Entries -/

theorem treeUnless_of_opens {v : Tree} (ht : t.opens = true) (stops : List Token)
    (hstops : stops.all (fun s => !s.opens) = true) {block flat : Bool}
    (h : Builds (tree fuel block flat) (t :: ts) rest v) :
    Builds (treeUnless (fuel + 1) stops block flat) (t :: ts) rest v := by
  intro anchors handles
  have hstop : t ∉ stops := by
    intro hmem
    have hno := List.all_eq_true.mp hstops t hmem
    rw [ht] at hno
    cases hno
  rw [treeUnless]
  simp [peek, hstop, h anchors handles]

theorem flowEntries_end (fuel : Nat) (first : Bool) (done : List (Tree × Tree))
    (rest : List Token) :
    Builds (flowEntries (fuel + 1) first done) (.flowMappingEnd :: rest) rest done.reverse := by
  intro anchors handles
  rw [flowEntries]
  simp [peek, advance]

theorem flowValue_of_opens {v : Tree} (ht : t.opens = true) (close : Token)
    (hclose : close.opens = false) (h : Builds (tree fuel false false) (t :: ts) rest v) :
    Builds (flowValue (fuel + 2) close) (.value :: t :: ts) rest v := by
  intro anchors handles
  have htree := treeUnless_of_opens ht [.flowEntry, close]
    (by rw [List.all_cons, List.all_cons, hclose]; rfl) h anchors handles
  rw [flowValue]
  simp [peek, advance, htree]

/-- An entry is read with its name, and then the others. -/
theorem flowEntries_entry (first : Bool) (name : String) {done es : List (Tree × Tree)} {v : Tree}
    (ht : t.opens = true) (hv : Builds (tree fuel false false) (t :: ts) us v)
    (hes : Builds (flowEntries (fuel + 2) false ((.scalar (standardTag "str") name, v) :: done)) us
      rest es) :
    Builds (flowEntries (fuel + 3) first done)
      (Token.comma first ++ [.key, .scalar name false, .value] ++ t :: ts) rest es := by
  intro anchors handles
  have hname := treeUnless_of_opens (t := .scalar name false) rfl
    [.value, .flowEntry, .flowMappingEnd] (by decide)
    (tree_scalar fuel false false name false (.value :: t :: ts)) anchors handles
  have hvalue := flowValue_of_opens ht .flowMappingEnd rfl hv anchors handles
  have hes := hes anchors handles
  rw [scalarTag] at hname
  rw [flowEntries]
  cases first <;>
    simp [Token.comma, peek, advance, expect, hname, hvalue, hes]

/-! ### Documents -/

theorem document_of_opens {v : Tree} (ht : t.opens = true)
    (h : Builds (tree (fuel + 1) true false) (t :: ts) [.streamEnd] v) :
    (document (fuel + 1)).run { tokens := t :: ts } =
      pure (some v, ⟨[.streamEnd], [], standardHandles⟩) := by
  have htree := h [] standardHandles
  rcases Token.cases_of_opens ht with ⟨s, plain, rfl⟩ | rfl | rfl <;>
    simp [document, peek, isExplicit, htree, skipEnds]

end Build

/-- **A document that consists of a tree has this tree.** -/
theorem Tree.ofTokens_of_builds {t : Token} {ts : List Token} {v : Tree} (ht : t.opens = true)
    (h : Builds (Build.tree (3 * (t :: ts).length + 8) true false) (t :: ts) [.streamEnd] v) :
    Tree.ofTokens (t :: ts) = .ok (some v) := by
  rw [ofTokens, Build.document_of_opens ht h]
  rfl

end TermRef.Yaml
