/-
TermRef/Proofs/Yaml/Fields.lean

What a mapping in a document has under a name.

A key of a mapping may be written twice, and entries of other mappings may be merged in.  The
last entry for a key is the one that counts, and merged ones come before all others
(`exists_own_of_entriesOf`).  So what the last entry for a name is written with is what the value
has under the name (`Tree.Assigns.field?`).
-/
import TermRef.Proofs.Value.Entries
import TermRef.Yaml.Meaning

namespace TermRef.Yaml

/-! ### Tags -/

@[simp]
theorem standardTag_inj {a b : String} : standardTag a = standardTag b ↔ a = b := by
  exact String.append_right_inj _

theorem making?_str : making? (standardTag "str") = some (.scalar fun s => .ok (.text s)) := by
  simp [making?]

theorem making?_null : making? (standardTag "null") = some (.scalar fun _ => .ok .null) := by
  simp [making?]

theorem making?_bool : making? (standardTag "bool") = some (.scalar truthOf) := by
  simp [making?]

theorem making?_map : making? (standardTag "map") = some .mapping := by
  simp [making?]

theorem making?_seq : making? (standardTag "seq") = some .list := by
  simp [making?]

theorem value_text (s : String) : (Tree.scalar (standardTag "str") s).value = .ok (.text s) := by
  rw [Tree.value, making?_str]

theorem keyTree_text (s : String) :
    keyTree (.scalar (standardTag "str") s) = .scalar (standardTag "str") s := by
  simp [keyTree]

theorem not_isMerge_text (s : String) : ¬ isMerge (.scalar (standardTag "str") s) = true := by
  simp [isMerge, Tree.tag]

/-- A text ends in no line feed if it has none. -/
theorem chopNewline_eq_self {t : String} (h : '\n' ∉ t.toList) : chopNewline t = t := by
  rw [chopNewline]
  split
  · rename_i r hr
    exact absurd (List.mem_reverse.mp (hr ▸ List.mem_cons_self)) h
  · rfl

/-- The words that stand for something else than a text. -/
def wordsForOthers : List String := truthWords ++ nullWords ++ ["<<", "="]

/-- **A word is a text by its spelling** if it is no word for something else. -/
theorem plainTag_eq_text {t : String} (h : '\n' ∉ t.toList) (hother : t ∉ wordsForOthers) :
    plainTag t = standardTag "str" := by
  simp only [wordsForOthers, List.mem_append, List.mem_cons, List.not_mem_nil, or_false,
    not_or] at hother
  obtain ⟨⟨htruth, hnull⟩, hmerge, hvalue⟩ := hother
  simp [plainTag, chopNewline_eq_self h, htruth, hnull, hmerge, hvalue]

/-! ### Entries -/

/-- What is made in two steps has been made by both. -/
theorem exists_of_bind_eq_ok {ε α β : Type} {x : Except ε α} {f : α → Except ε β} {b : β}
    (h : x >>= f = .ok b) : ∃ a, x = .ok a ∧ f a = .ok b := by
  cases x with
  | error => cases h
  | ok a => exact ⟨a, rfl, h⟩

variable {k u v : Tree} {r pre post : List (Tree × Tree)} {merged own : List (Value × Value)}
  {name : String}

/-- An entry that is not merged is one of the mapping's own. -/
theorem entriesOf_cons_own (h : ¬ isMerge k = true) : entriesOf ((k, v) :: r) =
    (keyTree k).value >>= fun a =>
      if !isKey a then .error .malformed
      else v.value >>= fun b => entriesOf r >>= fun x => .ok (x.1, (a, b) :: x.2) := by
  rw [entriesOf, if_neg h]
  cases k with
  | scalar tag s =>
    rw [keyTree]
    by_cases hvalue : (tag == standardTag "value") = true
    · simp only [if_pos hvalue, value_text]
      rfl
    · simp only [if_neg hvalue]
      rfl
  | _ => rfl

/-- The first entry of a mapping brings what is merged, or is one of its own. -/
theorem entriesOf_cons_cases (h : entriesOf ((k, v) :: r) = .ok (merged, own)) :
    (∃ lead merged', merged = lead ++ merged' ∧ entriesOf r = .ok (merged', own)) ∨
      ∃ a b own', (keyTree k).value = .ok a ∧ v.value = .ok b ∧ own = (a, b) :: own' ∧
        entriesOf r = .ok (merged, own') := by
  by_cases hk : isMerge k = true
  · rw [entriesOf, if_pos hk] at h
    obtain ⟨lead, -, h⟩ := exists_of_bind_eq_ok h
    obtain ⟨⟨merged', own'⟩, hr, h⟩ := exists_of_bind_eq_ok h
    cases h
    exact .inl ⟨lead, merged', rfl, hr⟩
  · rw [entriesOf_cons_own hk] at h
    obtain ⟨a, ha, h⟩ := exists_of_bind_eq_ok h
    split at h
    · cases h
    obtain ⟨b, hb, h⟩ := exists_of_bind_eq_ok h
    obtain ⟨⟨merged', own'⟩, hr, h⟩ := exists_of_bind_eq_ok h
    cases h
    exact .inr ⟨a, b, own', ha, hb, rfl, hr⟩

/-- Keys that stand for other values are not among the entries. -/
theorem own_ne_of_entriesOf (h : entriesOf r = .ok (merged, own))
    (hr : ∀ e ∈ r, (keyTree e.1).value ≠ .ok (.text name)) : ∀ x ∈ own, x.1 ≠ .text name := by
  induction r generalizing merged own with
  | nil =>
    cases h
    nofun
  | cons e r ih =>
    obtain ⟨he, hr⟩ := List.forall_mem_cons.mp hr
    rcases entriesOf_cons_cases h with ⟨_, _, _, hrest⟩ | ⟨a, b, own', ha, -, rfl, hrest⟩
    · exact ih hrest hr
    · refine List.forall_mem_cons.mpr ⟨?_, ih hrest hr⟩
      rintro rfl
      exact he ha

/-- **What the last entry for a name is written with** is made, and comes behind all other
entries for the name. -/
theorem exists_own_of_entriesOf
    (h : entriesOf (pre ++ (.scalar (standardTag "str") name, u) :: post) = .ok (merged, own))
    (hpost : ∀ e ∈ post, (keyTree e.1).value ≠ .ok (.text name)) :
    ∃ b before after, u.value = .ok b ∧ own = before ++ (.text name, b) :: after ∧
      ∀ x ∈ after, x.1 ≠ .text name := by
  induction pre generalizing merged own with
  | nil =>
    rw [List.nil_append, entriesOf_cons_own (not_isMerge_text name), keyTree_text,
      value_text] at h
    obtain ⟨a, ha, h⟩ := exists_of_bind_eq_ok h
    obtain rfl := Except.ok.inj ha
    rw [if_neg (by simp [isKey])] at h
    obtain ⟨b, hb, h⟩ := exists_of_bind_eq_ok h
    obtain ⟨⟨merged', own'⟩, hr, h⟩ := exists_of_bind_eq_ok h
    cases h
    exact ⟨b, [], own', hb, rfl, own_ne_of_entriesOf hr hpost⟩
  | cons e pre ih =>
    rcases entriesOf_cons_cases h with ⟨_, _, _, hrest⟩ | ⟨a, b, own', -, -, rfl, hrest⟩
    · exact ih hrest
    · obtain ⟨b', before, after, hb, rfl, hafter⟩ := ih hrest
      exact ⟨b', (a, b) :: before, after, hb, rfl, hafter⟩

/-- A mapping of texts, with the keys and values as they are written. -/
def Tree.ofTexts (fields : List (String × String)) : Tree :=
  .mapping (standardTag "map") <| fields.map fun f =>
    (.scalar (standardTag "str") f.1, .scalar (standardTag "str") f.2)

theorem Tree.value_ofTexts (fields : List (String × String)) : (ofTexts fields).value =
    .ok (.mapping (collect (fields.map fun f => (.text f.1, .text f.2)))) := by
  have hentries : entriesOf (fields.map fun f =>
      (Tree.scalar (standardTag "str") f.1, Tree.scalar (standardTag "str") f.2)) =
        .ok ([], fields.map fun f => (.text f.1, .text f.2)) := by
    induction fields with
    | nil => rfl
    | cons f fields ih =>
      rw [List.map_cons, entriesOf_cons_own (not_isMerge_text f.1), keyTree_text, value_text,
        value_text, ih]
      rfl
  rw [ofTexts, Tree.value, making?_map, hentries]
  rfl

/-! ### Documents -/

/-- A document has the value of its tree. -/
theorem read_eq_ok {s : List Char} {ts : List Token} {d : Tree} {x : Value}
    (hts : Token.ofText s = .ok ts) (hd : Tree.ofTokens ts = .ok (some d)) :
    read s = .ok x ↔ d.value = .ok x := by
  rw [read, hts]
  simp only [bind, Except.bind, hd]
  rcases d.value with f | v
  · constructor <;> nofun
  · rfl

/-! ### Names -/

/-- A mapping is written with an entry for a name, and with none for the name behind it. -/
def Tree.Assigns (t : Tree) (name : String) (u : Tree) : Prop :=
  ∃ pre post, t = .mapping (standardTag "map")
      (pre ++ (.scalar (standardTag "str") name, u) :: post) ∧
    ∀ e ∈ post, (keyTree e.1).value ≠ .ok (.text name)

/-- **The last entry for a name is the one that counts.** -/
theorem Tree.Assigns.field? {t : Tree} {x : Value} (h : t.Assigns name u) (ht : t.value = .ok x) :
    ∃ (es : Entries) (b : Value), x = .mapping es ∧ es.field? name = some b ∧ u.value = .ok b := by
  obtain ⟨pre, post, rfl, hpost⟩ := h
  rw [Tree.value, making?_map] at ht
  obtain ⟨⟨merged, own⟩, hentries, ht⟩ := exists_of_bind_eq_ok ht
  cases ht
  obtain ⟨b, before, after, hb, rfl, hafter⟩ := exists_own_of_entriesOf hentries hpost
  refine ⟨_, b, rfl, ?_, hb⟩
  rw [collect, ← List.append_assoc, List.foldl_append, List.foldl_cons,
    Entries.field?_foldl_put hafter, Entries.field?_put_self]

/-- A list has the values of its members. -/
theorem mem_valuesOf {ts : List Tree} {xs : List Value} (h : valuesOf ts = .ok xs) {t : Tree}
    (ht : t ∈ ts) : ∃ x ∈ xs, t.value = .ok x := by
  induction ts generalizing xs with
  | nil => cases ht
  | cons t' ts ih =>
    rw [valuesOf] at h
    obtain ⟨x, hx, h⟩ := exists_of_bind_eq_ok h
    obtain ⟨xs', hxs, h⟩ := exists_of_bind_eq_ok h
    cases h
    rcases List.mem_cons.mp ht with rfl | ht
    · exact ⟨x, List.mem_cons_self, hx⟩
    · obtain ⟨y, hy, hty⟩ := ih hxs ht
      exact ⟨y, List.mem_cons_of_mem _ hy, hty⟩

/-- A sequence has the values of its items. -/
theorem mem_of_sequence {items : List Tree} {x : Value}
    (h : (Tree.sequence (standardTag "seq") items).value = .ok x) :
    ∃ xs, x = .list xs ∧ ∀ t ∈ items, ∃ y ∈ xs, t.value = .ok y := by
  rw [Tree.value, making?_seq] at h
  rcases hxs : valuesOf items with f | xs
  · rw [hxs] at h
    cases h
  · rw [hxs] at h
    cases h
    exact ⟨xs, rfl, fun t ht => mem_valuesOf hxs ht⟩

end TermRef.Yaml
