/-
TermRef/Proofs/Glossary/Required.lean

The required parts of the entries of a glossary in use.

An entry without one of its required parts is dropped, and a text of blanks counts as nothing.
That is asked of the value as it is written.  What the entry then has is the text that the value
is read as, and the two agree for texts and for numbers, whose text has a digit, a point or a
letter in it (`exists_not_blank_shown_int`, `exists_not_blank_ofFloat`).  Bytes are asked nothing,
and are read as the text that they encode, which may be blank (`not_blank_of_tag?`).

So the required parts of an entry in use are texts with a character that is not blank, whatever
has been called, but for those that are written as bytes (`blank_only_in_encoded_parts`).  A
further form of a term replaces the term only, and no phrase is blank.
-/
import TermRef.Proofs.Glossary.Origin

namespace TermRef

open Unicode

/-! ### Numbers -/

theorem not_blank_of_isDigit {c : Char} (h : c.isDigit = true) : isBlank c = false := by
  have hle : 48 ≤ c.toNat ∧ c.toNat ≤ 57 := by
    simpa [Char.isDigit, UInt32.le_iff_toNat_le] using h
  exact isBlank_of_toNat (by omega) (by omega)

theorem exists_not_blank_toDigits (n : Nat) : ∃ c ∈ Nat.toDigits 10 n, isBlank c = false := by
  obtain ⟨c, hc⟩ := List.exists_mem_of_ne_nil _ (Nat.toDigits_ne_nil (n := n) (b := 10))
  exact ⟨c, hc, not_blank_of_isDigit (Nat.isDigit_of_mem_toDigits (by decide) (by decide) hc)⟩

/-- The text of a whole number is not blank. -/
theorem exists_not_blank_shown_int (n : Int) :
    ∃ c ∈ (Value.int n).shown.toList, isBlank c = false := by
  cases n with
  | ofNat n =>
    show ∃ c ∈ (String.ofList (Nat.toDigits 10 n)).toList, isBlank c = false
    rw [String.toList_ofList]
    exact exists_not_blank_toDigits n
  | negSucc n =>
    show ∃ c ∈ ("-" ++ String.ofList (Nat.toDigits 10 (n + 1))).toList, isBlank c = false
    exact ⟨'-', by simp, by decide⟩

/-- Positional notation has a point in it, and an exponent a letter in front. -/
theorem exists_not_blank_layout (n : Decimal.Style) (m : Nat) (p : Int) :
    ∃ c ∈ Decimal.layout n m p, isBlank c = false := by
  rw [Decimal.layout]
  split
  · refine ⟨'.', ?_, by decide⟩
    rw [Decimal.positional]
    split <;> simp
  · exact ⟨'e', by simp [Decimal.scientific], by decide⟩

theorem exists_not_blank_ofBits (bits : Nat) : ∃ c ∈ Decimal.ofBits bits, isBlank c = false := by
  generalize h : Decimal.ofBits bits = s
  rw [Decimal.ofBits] at h
  -- nothing is to be computed with the bits
  generalize (if bits / Nat.pow 2 63 % 2 == 1 then ['-'] else []) = sign at h
  generalize bits % Nat.pow 2 63 = rest at h
  split at h
  · exact ⟨'0', by simp [← h], by decide⟩
  split at h
  · exact ⟨'i', by simp [← h], by decide⟩
  split at h
  · exact ⟨'n', by simp [← h], by decide⟩
  · generalize (Decimal.Binary.ofBits rest).shortest = d at h
    obtain ⟨m, p⟩ := d
    obtain ⟨c, hc, hblank⟩ := exists_not_blank_layout Decimal.standard m p
    exact ⟨c, h ▸ List.mem_append_right _ hc, hblank⟩

/-- The text of a floating point number is not blank. -/
theorem exists_not_blank_ofFloat (x : Float) :
    ∃ c ∈ (Decimal.ofFloat x).toList, isBlank c = false := by
  rw [Decimal.ofFloat, String.toList_ofList]
  exact exists_not_blank_ofBits _

/-! ### Parts -/

/-- **What is read from a value that is not nothing is not blank**, unless the value is bytes:
then it is the text that they encode. -/
theorem Value.not_blank_of_tag? {v : Value} {s : String} (h : v.tag? = .good s)
    (hvoid : Entry.isVoid (some v) = false) :
    (∃ c ∈ s.toList, isBlank c = false) ∨ ∃ b, v = .bytes b ∧ Utf8.decode b = .ok s.toList := by
  cases v with
  | text t =>
    obtain rfl : t = s := by injection h
    exact .inl (isBlankText_eq_false.mp hvoid)
  | int n =>
    rw [tag?, asTag] at h
    split at h
    · obtain rfl : (Value.int n).shown = s := by injection h
      exact .inl (exists_not_blank_shown_int n)
    · cases h
  | float x =>
    obtain rfl : (Value.float x).shown = s := by injection h
    exact .inl (exists_not_blank_ofFloat x)
  | bytes b =>
    refine .inr ⟨b, rfl, ?_⟩
    have hread : (Value.bytes b).text? = .good s := h
    rw [Value.text?] at hread
    split at hread
    · rename_i t ht
      obtain rfl : String.ofList t = s := by injection hread
      rw [ht, String.toList_ofList]
    · cases hread
  | _ => cases h

/-- With another term, an entry has its other required parts as they are. -/
theorem Entry.mem_requiredParts_of_term {e : Entry} {p : String} {x : String × String}
    (h : x ∈ ({ e with term := p } : Entry).requiredParts) :
    x = ("term", p) ∨ x ∈ e.requiredParts := by
  rcases List.mem_cons.mp h with h | h
  · exact .inl h
  · exact .inr (List.mem_cons_of_mem _ h)

namespace Service

/-- **Among the required parts of the entries in use, only what is written as bytes is blank.**
Whatever has been called, a blank part is one of an entry that has been admitted from a
terminology that a call has offered, or of a further form of it, and the mapping that this entry
is written as has the part as the bytes of the blank text. -/
theorem blank_only_in_encoded_parts (admin : ScopeAdmin) (scopedir : Path) (j : Journal)
    (calls : List Call) :
    let g := (Service.after ⟨{ admin, scopedir }, j⟩ calls).glossary
    ∀ e ∈ g.entries, ∀ x ∈ e.requiredParts, isBlankText x.2.toList = true →
      ∃ c ∈ calls, ∃ y, c.Offers y ∧ ∃ (es : Entries) (base : Entry),
        y.Admits g.website (.mapping es) base ∧ e ∈ base.withForms ∧
          ∃ b, es.field? x.1 = some (.bytes b) ∧ Utf8.decode b = .ok x.2.toList := by
  intro g e he x hx hblank
  have hsite : g.website = Glossary.website { admin, scopedir } :=
    Glossary.website_of_emptied (Service.emptied_after ⟨{ admin, scopedir }, j⟩ calls)
  have hnone : ¬ ∃ c ∈ x.2.toList, isBlank c = false := by
    rw [← isBlankText_eq_false, hblank]
    exact Bool.noConfusion
  rw [hsite]
  rcases mem_entries_after he with he | ⟨c, hc, y, hy, he⟩
  · cases he
  · obtain ⟨v, base, ⟨n, hv, hadmitted⟩, hform⟩ := mem_runtimeEntries.mp he
    obtain ⟨es, rfl, hparts⟩ := required_of_admitted hadmitted
    have hpart : x ∈ base.requiredParts := by
      rcases hform with rfl | ⟨p, hp, rfl⟩
      · exact hx
      · rcases Entry.mem_requiredParts_of_term hx with rfl | hx
        · exact absurd (Phrases.exists_not_blank_of_mem_ofText hp) hnone
        · exact hx
    have hmem : e ∈ base.withForms := by
      rcases hform with rfl | ⟨p, hp, rfl⟩
      · exact List.mem_cons_self
      · exact List.mem_cons_of_mem _ (List.mem_map_of_mem hp)
    obtain ⟨w, hw, hvoid, hread⟩ := hparts x hpart
    rcases Value.not_blank_of_tag? hread hvoid with h | ⟨b, rfl, hb⟩
    · exact absurd h hnone
    · exact ⟨c, hc, y, hy, es, base, ⟨n, hv, hadmitted⟩, hmem, b, hw, hb⟩

/-- A terminology of one entry, whose page is named by the bytes of three blanks. -/
def encodedTerminology : Terminology :=
  ⟨.unknown, [], [.mapping [(.text "term", .text "a"), (.text "vsntag", .text "v"),
    (.text "scopetag", .text "x"), (.text "locator", .bytes [32, 32, 32]),
    (.text "glossaryText", .text "words")]], []⟩

theorem exists_blank_entry :
    ∃ e ∈ (Service.after ⟨.bare, {}⟩ [.take encodedTerminology "f"]).glossary.entries,
      isBlankText e.locator.toList = true := by
  have hentries : (Service.after ⟨.bare, {}⟩ [.take encodedTerminology "f"]).glossary.entries.map
      Entry.locator = ["   "] := by decide +kernel
  obtain ⟨e, he, hlocator⟩ := List.mem_map.mp (hentries ▸ List.mem_cons_self)
  refine ⟨e, he, ?_⟩
  rw [hlocator]
  decide

/-- A blank locator in the glossary is one that is written as bytes. -/
theorem blank_only_in_encoded_parts_one :
    ∃ e ∈ (Service.after ⟨.bare, {}⟩ [.take encodedTerminology "f"]).glossary.entries,
      isBlankText e.locator.toList = true ∧
        ∃ c ∈ [Call.take encodedTerminology "f"], ∃ y, c.Offers y ∧
          ∃ (es : Entries) (base : Entry), y.Admits Glossary.bare.website (.mapping es) base ∧
            e ∈ base.withForms ∧
              ∃ b, es.field? "locator" = some (.bytes b) ∧ Utf8.decode b = .ok e.locator.toList := by
  obtain ⟨e, he, hblank⟩ := exists_blank_entry
  have hsite : (Service.after ⟨.bare, {}⟩ [.take encodedTerminology "f"]).glossary.website =
      Glossary.bare.website :=
    Glossary.website_of_emptied (Service.emptied_after ⟨.bare, {}⟩ [.take encodedTerminology "f"])
  have hwritten := blank_only_in_encoded_parts Glossary.bare.admin Glossary.bare.scopedir {}
    [.take encodedTerminology "f"] e he ("locator", e.locator) (by simp [Entry.requiredParts]) hblank
  exact ⟨e, he, hblank, hsite ▸ hwritten⟩

/-- A part that is written as the bytes of a blank text enters the glossary, and no warning is
given. -/
theorem blank_enters_as_bytes :
    let s := Service.after ⟨.bare, {}⟩ [.take encodedTerminology "f"]
    (∃ e ∈ s.glossary.entries, isBlankText e.locator.toList = true) ∧
      s.journal.report.diagnostics = [] :=
  ⟨exists_blank_entry, by decide +kernel⟩

end Service

end TermRef
