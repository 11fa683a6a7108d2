/-
TermRef/Proofs/Value/Entries.lean

Mappings, and what an entry put into one does.

A text is the same as itself only (`Value.same_text`, `Value.text_same`), so an entry for a text
is found again (`Entries.field?_put_self`), and an entry for anything else leaves it alone
(`Entries.field?_put_of_ne`).  Nor does it change the entries besides those that are known by
name, if it is for one of these names (`Entries.others_put`).

A check of parts makes something of a mapping if all parts are there that have to be, and are what
they should be (`Checked.seq_eq_good`, `Entries.required_eq_good`, `Entries.optional_eq_good`).
-/
import TermRef.Value.Check

namespace TermRef

namespace Value

variable {v : Value} {s : String}

theorem same_text : v.same (.text s) = true ↔ v = .text s := by
  cases v <;> simp [same, whole?]

theorem text_same : (Value.text s).same v = true ↔ v = .text s := by
  cases v with
  | text t => simpa [same] using eq_comm
  | _ => simp [same, whole?]

end Value

/-- A check of two parts makes something if both do. -/
theorem Checked.seq_eq_good {α β : Type} {f : Checked (α → β)} {x : Checked α} {b : β}
    (h : f <*> x = .good b) : ∃ g a, f = .good g ∧ x = .good a ∧ g a = b := by
  have hboth : both f x = .good b := h
  cases f <;> cases x <;> simp_all [both]

/-- The check of a part goes well as a part of the whole if it does by itself. -/
theorem Checked.under_eq_good {α : Type} {c : Checked α} {s : Step} {a : α} :
    c.under s = .good a ↔ c = .good a := by
  cases c <;> simp [under]

namespace Entries

variable {es : Entries} {name other : String} {k : Value}

theorem field?_cons (l w : Value) (es : Entries) (name : String) :
    field? ((l, w) :: es) name = if l.same (.text name) then some w else field? es name := by
  rw [field?, get?, List.find?_cons]
  split <;> simp_all [field?, get?]

/-- An entry put into a mapping is found there. -/
theorem field?_put_self (es : Entries) (name : String) (v : Value) :
    (es.put (.text name) v).field? name = some v := by
  induction es with
  | nil => rw [put, field?_cons, if_pos (Value.same_text.mpr rfl)]
  | cons x es ih =>
    obtain ⟨l, w⟩ := x
    rw [put]
    split
    · rename_i hl
      rw [field?_cons, if_pos hl]
    · rename_i hl
      rw [field?_cons, if_neg hl, ih]

/-- It leaves the others alone. -/
theorem field?_put_of_ne (v : Value) (h : k ≠ .text name) :
    (es.put k v).field? name = es.field? name := by
  have hk : ¬ k.same (.text name) = true := fun hsame => h (Value.same_text.mp hsame)
  induction es with
  | nil =>
    rw [put, field?_cons, if_neg hk]
  | cons x es ih =>
    obtain ⟨l, w⟩ := x
    rw [put]
    split
    · rename_i hl
      -- the key whose place is taken is another text, or none
      have hne : ¬ l.same (.text name) = true := by
        intro hsame
        obtain rfl := Value.same_text.mp hsame
        exact h (Value.text_same.mp hl)
      rw [field?_cons, field?_cons, if_neg hne, if_neg hne]
    · rw [field?_cons, field?_cons, ih]

theorem field?_put (v : Value) (h : name ≠ other) :
    (es.put (.text other) v).field? name = es.field? name :=
  field?_put_of_ne v fun heq => h (Value.text.inj heq).symm

/-- Mappings that have the same under a name keep it so when the same entry is put into both. -/
theorem field?_put_congr {es' : Entries} (h : es'.field? name = es.field? name) (other : String)
    (v : Value) : (es'.put (.text other) v).field? name = (es.put (.text other) v).field? name := by
  by_cases hn : name = other
  · rw [hn, field?_put_self, field?_put_self]
  · rw [field?_put v hn, field?_put v hn, h]

/-- Entries that come in behind one for a name, and are for none of that name, leave it alone. -/
theorem field?_foldl_put {later : List (Value × Value)} (h : ∀ x ∈ later, x.1 ≠ .text name) :
    field? (later.foldl (fun es x => es.put x.1 x.2) es) name = es.field? name := by
  induction later generalizing es with
  | nil => rfl
  | cons x later ih =>
    obtain ⟨hx, hlater⟩ := List.forall_mem_cons.mp h
    rw [List.foldl_cons, ih hlater, field?_put_of_ne _ hx]

/-! ### Checks -/

section Congr

variable {es' : Entries} {α : Type}

theorem required_eq_good {f : Value → Checked α} {a : α} :
    es.required name f = .good a ↔ ∃ v, es.field? name = some v ∧ f v = .good a := by
  rw [required]
  rcases es.field? name with - | v
  · simp [Checked.under, Checked.flaw]
  · simp [Checked.under_eq_good]

theorem optional_eq_good {f : Value → Checked α} {a dflt : α} :
    es.optional name dflt f = .good a ↔
      (es.field? name = none ∧ dflt = a) ∨ ∃ v, es.field? name = some v ∧ f v = .good a := by
  rw [Entries.optional]
  rcases es.field? name with - | v
  · simp
  · simp [Checked.under_eq_good]

/-- The check of an entry asks for the value of its key only. -/
theorem required_congr (h : es'.field? name = es.field? name) (f : Value → Checked α) :
    es'.required name f = es.required name f := by
  rw [required, required, h]

theorem optional_congr (h : es'.field? name = es.field? name) (dflt : α)
    (f : Value → Checked α) : es'.optional name dflt f = es.optional name dflt f := by
  rw [Entries.optional, Entries.optional, h]

theorem nameOf_congr (h : es'.field? name = es.field? name)
    (h' : es'.field? other = es.field? other) : es'.nameOf name other = es.nameOf name other := by
  rw [nameOf, nameOf, h, h']

end Congr

/-- Of two names, one is chosen. -/
theorem nameOf_or (es : Entries) (name other : String) :
    es.nameOf name other = name ∨ es.nameOf name other = other := by
  rw [nameOf]
  split
  · exact .inr rfl
  · exact .inl rfl

theorem others_cons_of_known {known : List String} (hname : known.contains name = true) (v : Value)
    (es : Entries) : others known ((.text name, v) :: es) = others known es := by
  rw [others]
  exact if_pos hname

/-- The other entries of a mapping stay when one for a known name is put into it. -/
theorem others_put {known : List String} (hname : known.contains name = true) (v : Value) :
    others known (es.put (.text name) v) = others known es := by
  induction es with
  | nil => rw [put, others_cons_of_known hname]
  | cons x es ih =>
    obtain ⟨l, w⟩ := x
    rw [put]
    split
    · rename_i hl
      obtain rfl := Value.same_text.mp hl
      rw [others_cons_of_known hname, others_cons_of_known hname]
    · cases l <;> simp only [others, ih]

end Entries

end TermRef
