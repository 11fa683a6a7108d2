/-
TermRef/Proofs/Reference/Mention.lean

How the two named grammars write a reference.

A `Mention` shows some words and says where the term comes from; a `Naming` says which
term is meant.  Both carry the alphabets of their parts, so every one of them can be
written.  The default grammar writes both in one place,

    [words](id#trait@scope:version)         `Mention.standardText`

and the alternate one writes them apart, the second only if it is there:

    [words@scope:version](id#trait)         `Mention.alternateText`

No part has a character that may follow it, so a text is taken apart in one way at
most: what begins with a written reference begins with no other one
(`standardText_append_inj`, `headText_append_inj`, `tailText_append_inj`).
-/
import TermRef.Reference.Basic

namespace TermRef

/-! ### Parts and their alphabets -/

/-- Characters of the words shown. -/
def isShown (c : Char) : Bool := c != '\n' && c != ']' && c != '@'

/-- Characters of versions. -/
def isVersion (c : Char) : Bool := Slug.isSlugChar c || c == '.'

/-- What names a term: an identifier, which may be empty, and possibly a trait. -/
@[ext] structure Naming where
  id : List Char
  trait : Option (List Char)
  id_slug : ∀ c ∈ id, Slug.isSlugChar c = true
  trait_slug : ∀ t ∈ trait, t ≠ [] ∧ ∀ c ∈ t, Slug.isSlugChar c = true

/-- Where a term comes from: a scope, which may be empty, and possibly a version. -/
@[ext] structure Origin where
  scopetag : List Char
  vsntag : Option (List Char)
  scopetag_slug : ∀ c ∈ scopetag, Slug.isSlugChar c = true
  vsntag_version : ∀ v ∈ vsntag, v ≠ [] ∧ ∀ c ∈ v, isVersion c = true

/-- The words shown and where the term comes from. -/
@[ext] structure Mention where
  shown : List Char
  origin : Origin
  shown_ne_nil : shown ≠ []
  shown_isShown : ∀ c ∈ shown, isShown c = true

/-- A naming that leaves out everything. -/
def Naming.absent : Naming := ⟨[], none, by simp, by simp⟩

/-- A further part behind its mark, if it is there. -/
def markedText (mark : Char) : Option (List Char) → List Char
  | none => []
  | some w => mark :: w

/-- `id#trait`. -/
def Naming.text (n : Naming) : List Char := n.id ++ markedText '#' n.trait

/-- `scope:version`. -/
def Origin.text (o : Origin) : List Char := o.scopetag ++ markedText ':' o.vsntag

/-- `[words](id#trait@scope:version)`. -/
def Mention.standardText (m : Mention) (n : Naming) : List Char :=
  '[' :: m.shown ++ ']' :: '(' :: n.text ++ '@' :: m.origin.text ++ [')']

/-- `[words@scope:version]`. -/
def Mention.headText (m : Mention) : List Char :=
  '[' :: m.shown ++ '@' :: m.origin.text ++ [']']

/-- `(id#trait)`. -/
def Naming.tailText (n : Naming) : List Char := '(' :: n.text ++ [')']

/-- `[words@scope:version](id#trait)`, of which the second half may be absent. -/
def Mention.alternateText (m : Mention) (t : Option Naming) : List Char :=
  m.headText ++ (t.elim [] Naming.tailText)

/-- A part as a reference has it: empty counts as absent. -/
def presentPart (w : List Char) : Option String := if w = [] then none else some (String.ofList w)

/-- The reference that a mention and a naming make up.  An identifier that is left out is
derived from the words shown. -/
def Mention.reference (m : Mention) (n : Naming) : Reference where
  showtext := String.ofList m.shown
  term := (presentPart n.id).getD (Slug.ofText (String.ofList m.shown))
  trait := n.trait.map String.ofList
  scopetag := presentPart m.origin.scopetag
  vsntag := m.origin.vsntag.map String.ofList

/-! ### Taking a text apart -/

/-- Two runs over one alphabet that end in front of other characters are the same. -/
theorem append_cons_inj {p : Char → Bool} {u v r s : List Char} {x y : Char}
    (hu : ∀ c ∈ u, p c = true) (hv : ∀ c ∈ v, p c = true) (hx : p x = false) (hy : p y = false)
    (h : u ++ x :: r = v ++ y :: s) : u = v ∧ x = y ∧ r = s := by
  induction u generalizing v with
  | nil =>
    cases v with
    | nil => exact ⟨rfl, List.cons.inj h⟩
    | cons z v =>
      obtain ⟨rfl, -⟩ := List.cons.inj h
      exact absurd (hv x (by simp)) (by simp [hx])
  | cons z u ih =>
    cases v with
    | nil =>
      obtain ⟨rfl, -⟩ := List.cons.inj h
      exact absurd (hu z (by simp)) (by simp [hy])
    | cons z' v =>
      obtain ⟨rfl, ht⟩ := List.cons.inj h
      obtain ⟨rfl, hxy, hrs⟩ :=
        ih (fun c hc => hu c (by simp [hc])) (fun c hc => hv c (by simp [hc])) ht
      exact ⟨rfl, hxy, hrs⟩

/-- A part and a further one behind its mark are found again, whatever comes after them. -/
theorem markedText_append_inj {p q : Char → Bool} {mark x y : Char} {u v r s : List Char}
    {t t' : Option (List Char)} (hpm : p mark = false)
    (hu : ∀ c ∈ u, p c = true) (hv : ∀ c ∈ v, p c = true)
    (ht : ∀ w ∈ t, ∀ c ∈ w, q c = true) (ht' : ∀ w ∈ t', ∀ c ∈ w, q c = true)
    (hx : p x = false ∧ q x = false ∧ x ≠ mark) (hy : p y = false ∧ q y = false ∧ y ≠ mark)
    (h : u ++ markedText mark t ++ x :: r = v ++ markedText mark t' ++ y :: s) :
    u = v ∧ t = t' ∧ x = y ∧ r = s := by
  rcases t with - | w <;> rcases t' with - | w' <;>
    simp only [markedText, List.append_nil, List.append_assoc, List.cons_append] at h
  · obtain ⟨rfl, rfl, rfl⟩ := append_cons_inj hu hv hx.1 hy.1 h
    exact ⟨rfl, rfl, rfl, rfl⟩
  · obtain ⟨-, hm, -⟩ := append_cons_inj hu hv hx.1 hpm h
    exact absurd hm hx.2.2
  · obtain ⟨-, hm, -⟩ := append_cons_inj hu hv hpm hy.1 h
    exact absurd hm.symm hy.2.2
  · obtain ⟨rfl, -, h⟩ := append_cons_inj hu hv hpm hpm h
    obtain ⟨rfl, rfl, rfl⟩ := append_cons_inj (ht w rfl) (ht' w' rfl) hx.2.1 hy.2.1 h
    exact ⟨rfl, rfl, rfl, rfl⟩

theorem Naming.text_append_inj {n n' : Naming} {x y : Char} {r s : List Char}
    (hx : Slug.isSlugChar x = false ∧ x ≠ '#') (hy : Slug.isSlugChar y = false ∧ y ≠ '#')
    (h : n.text ++ x :: r = n'.text ++ y :: s) : n = n' ∧ r = s := by
  obtain ⟨hid, htrait, -, hr⟩ := markedText_append_inj rfl n.id_slug n'.id_slug
    (fun w hw => (n.trait_slug w hw).2) (fun w hw => (n'.trait_slug w hw).2)
    ⟨hx.1, hx⟩ ⟨hy.1, hy⟩ h
  exact ⟨Naming.ext hid htrait, hr⟩

theorem Origin.text_append_inj {o o' : Origin} {x y : Char} {r s : List Char}
    (hx : isVersion x = false ∧ x ≠ ':') (hy : isVersion y = false ∧ y ≠ ':')
    (h : o.text ++ x :: r = o'.text ++ y :: s) : o = o' ∧ r = s := by
  have slug : ∀ {z}, isVersion z = false → Slug.isSlugChar z = false := fun hz =>
    (Bool.or_eq_false_iff.mp hz).1
  obtain ⟨hscope, hversion, -, hr⟩ := markedText_append_inj rfl o.scopetag_slug o'.scopetag_slug
    (fun w hw => (o.vsntag_version w hw).2) (fun w hw => (o'.vsntag_version w hw).2)
    ⟨slug hx.1, hx⟩ ⟨slug hy.1, hy⟩ h
  exact ⟨Origin.ext hscope hversion, hr⟩

namespace Mention

variable {m m' : Mention} {n n' : Naming} {r s : List Char}

theorem standardText_append_inj (h : m.standardText n ++ r = m'.standardText n' ++ s) :
    m = m' ∧ n = n' ∧ r = s := by
  simp only [standardText, List.cons_append, List.append_assoc, List.nil_append, List.cons.injEq,
    true_and] at h
  obtain ⟨hshown, -, hn⟩ := append_cons_inj m.shown_isShown m'.shown_isShown rfl rfl h
  obtain ⟨rfl, ho⟩ := Naming.text_append_inj ⟨rfl, by decide⟩ ⟨rfl, by decide⟩ (List.cons.inj hn).2
  obtain ⟨horigin, rfl⟩ := Origin.text_append_inj ⟨rfl, by decide⟩ ⟨rfl, by decide⟩ ho
  exact ⟨Mention.ext hshown horigin, rfl, rfl⟩

theorem headText_append_inj (h : m.headText ++ r = m'.headText ++ s) : m = m' ∧ r = s := by
  simp only [headText, List.cons_append, List.append_assoc, List.nil_append, List.cons.injEq,
    true_and] at h
  obtain ⟨hshown, -, ho⟩ := append_cons_inj m.shown_isShown m'.shown_isShown rfl rfl h
  obtain ⟨horigin, rfl⟩ := Origin.text_append_inj ⟨rfl, by decide⟩ ⟨rfl, by decide⟩ ho
  exact ⟨Mention.ext hshown horigin, rfl⟩

end Mention

theorem Naming.tailText_append_inj {n n' : Naming} {r s : List Char}
    (h : n.tailText ++ r = n'.tailText ++ s) : n = n' ∧ r = s := by
  simp only [tailText, List.cons_append, List.append_assoc, List.nil_append, List.cons.injEq,
    true_and] at h
  exact Naming.text_append_inj ⟨rfl, by decide⟩ ⟨rfl, by decide⟩ h

end TermRef
