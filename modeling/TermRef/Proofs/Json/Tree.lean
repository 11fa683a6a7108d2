/-
TermRef/Proofs/Json/Tree.lean

The trees of JSON texts, and their values.

The tokens of a value are read as its tree (`Json.builds`), and the value of the tree is the value
that is denoted (`Json.value_tree`).  Both are proved by induction on the syntax.  The fuel that
reading needs is at most the number of tokens.  Only at numbers YAML looks at the spelling: a
numeral is no word for anything else, and so it is a text.
-/
import TermRef.Proofs.Json.Tokens
import TermRef.Proofs.Yaml.Fields

namespace TermRef.Json

open Yaml

/-! ### Trees -/

mutual

/-- The tree of a value. -/
def tree : Json → Tree
  | .null => .scalar (standardTag "null") "null"
  | .bool b => .scalar (standardTag "bool") (if b then "true" else "false")
  | .number n => .scalar (standardTag "str") (String.ofList n.text)
  | .string s => .scalar (standardTag "str") s.value
  | .array _ items => .sequence (standardTag "seq") items.trees
  | .object _ members => .mapping (standardTag "map") members.trees

/-- The trees of items. -/
def Items.trees : Items → List Tree
  | .nil => []
  | .cons _ v _ rest => v.tree :: rest.trees

/-- The trees of members, with those of their names. -/
def Members.trees : Members → List (Tree × Tree)
  | .nil => []
  | .cons _ name _ _ v _ rest => (.scalar (standardTag "str") name.value, v.tree) :: rest.trees

end

/-! ### Trees from tokens -/

/-- The tokens of a value begin with a scalar or an opening bracket. -/
theorem exists_opens (j : Json) : ∃ t ts, j.tokens = t :: ts ∧ t.opens = true := by
  cases j <;> exact ⟨_, _, rfl, rfl⟩

theorem Numeral.plainTag_text (n : Numeral) :
    plainTag (String.ofList n.text) = standardTag "str" := by
  have hother : ∀ w ∈ wordsForOthers,
      w = "" ∨ w.toList.any (fun c => !numeralChars.contains c) := by
    decide
  have hfeed : '\n' ∉ (String.ofList n.text).toList := by
    rw [String.toList_ofList]
    exact fun hmem => absurd (n.mem_text hmem) (by decide)
  refine plainTag_eq_text hfeed fun hmem => ?_
  rcases hother _ hmem with hempty | hchar
  · obtain ⟨c, r, hcons, -⟩ := n.isWord.start
    rw [hcons] at hempty
    exact absurd hempty (by simp)
  · obtain ⟨c, hc, hno⟩ := List.any_eq_true.mp hchar
    rw [String.toList_ofList] at hc
    simp [n.mem_text hc] at hno

mutual

/-- **The tokens of a value are read as its tree.** -/
theorem builds : ∀ (j : Json) {fuel : Nat} (block flat : Bool) (rest : List Token),
    j.tokens.length ≤ fuel → Builds (Build.tree fuel block flat) (j.tokens ++ rest) rest j.tree
  | .null, fuel + 1, block, flat, rest, _ => Build.tree_scalar fuel block flat "null" true rest
  | .bool b, fuel + 1, block, flat, rest, _ => by
    cases b
    · exact Build.tree_scalar fuel block flat "false" true rest
    · exact Build.tree_scalar fuel block flat "true" true rest
  | .number n, fuel + 1, block, flat, rest, _ => by
    have htree := Build.tree_scalar fuel block flat (String.ofList n.text) true rest
    rwa [Build.scalarTag, if_pos rfl, n.plainTag_text] at htree
  | .string s, fuel + 1, block, flat, rest, _ =>
    Build.tree_scalar fuel block flat s.value false rest
  | .array inside items, fuel + 1, block, flat, rest, h => by
    have hlength : (items.tokens true).length < fuel := by
      simp only [tokens, List.length_append, List.length_cons, List.length_nil] at h
      omega
    have hitems := Items.builds items true [] rest hlength
    have htokens : (Json.array inside items).tokens ++ rest =
        .flowSequenceStart :: (items.tokens true ++ .flowSequenceEnd :: rest) := by
      simp [tokens]
    rw [htokens]
    exact Build.tree_sequence hitems block flat
  | .object inside members, fuel + 1, block, flat, rest, h => by
    have hlength : (members.tokens true).length < fuel := by
      simp only [tokens, List.length_append, List.length_cons, List.length_nil] at h
      omega
    have hmembers := Members.builds members true [] rest hlength
    have htokens : (Json.object inside members).tokens ++ rest =
        .flowMappingStart :: (members.tokens true ++ .flowMappingEnd :: rest) := by
      simp [tokens]
    rw [htokens]
    exact Build.tree_mapping hmembers block flat

theorem Items.builds : ∀ (items : Items) {fuel : Nat} (first : Bool) (done : List Tree)
    (rest : List Token), (items.tokens first).length < fuel →
      Builds (Build.flowItems fuel first done) (items.tokens first ++ .flowSequenceEnd :: rest) rest
        (done.reverse ++ items.trees)
  | .nil, fuel + 1, first, done, rest, _ => by
    have hend := Build.flowItems_end fuel first done rest
    rwa [← List.append_nil done.reverse] at hend
  | .cons before v after others, fuel + 1, first, done, rest, h => by
    obtain ⟨t, ts, hcons, ht⟩ := exists_opens v
    have hlength : v.tokens.length ≤ fuel ∧ (others.tokens false).length < fuel := by
      have hpos : 0 < v.tokens.length := by simp [hcons]
      simp only [Items.tokens, List.length_append] at h
      omega
    have hv := builds v false false (others.tokens false ++ .flowSequenceEnd :: rest) hlength.1
    have hothers := Items.builds others false (v.tree :: done) rest hlength.2
    rw [hcons] at hv
    have hitems := Build.flowItems_item first ht hv hothers
    simpa [Items.tokens, Items.trees, hcons] using hitems

theorem Members.builds : ∀ (members : Members) {fuel : Nat} (first : Bool)
    (done : List (Tree × Tree)) (rest : List Token), (members.tokens first).length < fuel →
      Builds (Build.flowEntries fuel first done)
        (members.tokens first ++ .flowMappingEnd :: rest) rest (done.reverse ++ members.trees)
  | .nil, fuel + 1, first, done, rest, _ => by
    have hend := Build.flowEntries_end fuel first done rest
    rwa [← List.append_nil done.reverse] at hend
  | .cons before name toColon toValue v after others, fuel, first, done, rest, h => by
    obtain ⟨t, ts, hcons, ht⟩ := exists_opens v
    have hpos : 0 < v.tokens.length := by simp [hcons]
    simp only [Members.tokens, List.length_append, List.length_cons, List.length_nil] at h
    obtain ⟨fuel, rfl⟩ : ∃ n, fuel = n + 3 := ⟨fuel - 3, by omega⟩
    have hlength : v.tokens.length ≤ fuel ∧ (others.tokens false).length < fuel + 2 := by omega
    have hv := builds v false false (others.tokens false ++ .flowMappingEnd :: rest) hlength.1
    have hothers := Members.builds others false
      ((.scalar (standardTag "str") name.value, v.tree) :: done) rest hlength.2
    rw [hcons] at hv
    have hmembers := Build.flowEntries_entry first name.value ht hv hothers
    simpa [Members.tokens, Members.trees, hcons] using hmembers

end

/-! ### Values -/

theorem collect_named (ms : List (String × Value)) :
    collect ([] ++ ms.map fun m => (.text m.1, m.2)) = ofMembers ms := by
  rw [List.nil_append, collect, ofMembers, List.foldl_map]

mutual

/-- **The tree of a value has the value that is denoted.** -/
theorem value_tree : ∀ j : Json, j.tree.value = .ok j.value
  | .null => by rw [tree, Tree.value, making?_null, value]
  | .bool b => by
    have htruth : truthOf (if b then "true" else "false") = .ok (.bool b) := by cases b <;> rfl
    rw [tree, Tree.value, making?_bool, value]
    exact htruth
  | .number n => value_text _
  | .string s => value_text _
  | .array inside items => by
    rw [tree, Tree.value, making?_seq, Items.valuesOf_trees items]
    rfl
  | .object inside members => by
    rw [tree, Tree.value, making?_map, Members.entriesOf_trees members]
    exact congrArg (fun es => Except.ok (Value.mapping es)) (collect_named members.named)

theorem Items.valuesOf_trees : ∀ items : Items, valuesOf items.trees = .ok items.values
  | .nil => rfl
  | .cons before v after rest => by
    rw [Items.trees, valuesOf, value_tree v, Items.valuesOf_trees rest]
    rfl

theorem Members.entriesOf_trees : ∀ members : Members,
    entriesOf members.trees = .ok ([], members.named.map fun m => (.text m.1, m.2))
  | .nil => rfl
  | .cons before name toColon toValue v after rest => by
    rw [Members.trees, entriesOf_cons_own (not_isMerge_text _), keyTree_text, value_text,
      value_tree v, Members.entriesOf_trees rest]
    rfl

end

/-! ### Documents -/

/-- **A document that is read as it is meant is read as the object that is denoted.** -/
theorem Document.Readable.read {d : Document} (h : d.Readable) :
    Yaml.read (Lines.unifyEnds d.text) = .ok (.mapping d.entries) := by
  let j := Json.object d.inside d.members
  have hfuel : j.tokens.length ≤ 3 * d.tokens.length + 8 := by
    have htokens : d.tokens.length = j.tokens.length + 1 := List.length_append
    omega
  have htree : Tree.ofTokens d.tokens = .ok (some j.tree) :=
    Tree.ofTokens_of_builds rfl (builds j true false [.streamEnd] hfuel)
  exact (read_eq_ok h.ofText htree).mpr (value_tree j)

end TermRef.Json
