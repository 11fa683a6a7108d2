/-
TermRef/Proofs/Link/Verbatim.lean

What the named styles make of the fields that they see.

The parts of a reference are put over the fields of an entry.  A name then stands for the part of
the reference, if that is there and not empty, or else for what the entry has under the name, if
that is not null (`Fields.get?_merge`).  The parts go by different names, so putting in one of them
leaves the others alone.

A named style is a text with slots for fields and a part for the trait (`LinkKind.layout`).  Its
template in writing is this text with slots that name the fields (`LinkStyle.ofText_source`), and a
rendering is the same text with what the fields have in their places (`LinkStyle.text?_layout`).
A text is put in as it is, and what has been put in is not looked at again, so it may well hold
slots of its own.  There is no rendering if a number is too long to be written, which only one in a
field of the entry can be (`Fields.isWritable`).  Some text of the style stands in every layout, at
its beginning and at its end: a rendering is never empty, it begins with a bracket of some kind,
and it ends with one that escapes nothing (`LinkStyle.text?_of_named`).
-/
import TermRef.Proofs.Link.Anchor

namespace TermRef

open Template Template.Render

/-! ### Merged fields -/

/-- A part of a reference as a value, unless it is absent or empty. -/
def Reference.present? : Option String → Option Value
  | some s => if s = "" then none else some (.text s)
  | none => none

/-- What a reference has under a name. -/
def Reference.value? (r : Reference) (n : String) : Option Value :=
  (r.parts.find? fun p => p.1 == n).bind fun p => present? p.2

theorem Reference.value?_trait (r : Reference) : r.value? "trait" = present? r.trait := rfl

/-- What an entry has under a name, unless it is null. -/
def Entry.value? (e : Entry) (n : String) : Option Value :=
  e.fields.findSome? fun
    | (.text _, .null) => none
    | (.text m, v) => if m = n then some v else none
    | _ => none

namespace Fields

theorem get?_cons (f : String × Value) (fs : Fields) (n : String) :
    get? (f :: fs) n = if f.1 = n then some f.2 else get? fs n := by
  by_cases h : f.1 = n <;> simp [get?, h]

theorem get?_ofEntry (e : Entry) (n : String) : (ofEntry e).get? n = e.value? n := by
  rw [ofEntry, Entry.value?]
  induction e.fields with
  | nil => rfl
  | cons f es ih =>
    rcases f with ⟨k, v⟩
    rw [List.filterMap_cons, List.findSome?_cons]
    cases k with
    | text m =>
      -- a null is left out on both sides
      cases v <;> first
        | exact ih
        | (dsimp only; rw [get?_cons, ih]; split <;> rfl)
    | _ => exact ih

theorem get?_putPart (fs : Fields) (part : String × Option String) (n : String) :
    (fs.putPart part).get? n =
      if part.1 = n then (Reference.present? part.2).or (fs.get? n) else fs.get? n := by
  by_cases hn : part.1 = n
  · rcases part with ⟨m, - | s⟩
    · simp [putPart, Reference.present?]
    · obtain rfl : m = n := hn
      by_cases hs : s = ""
      · simp [putPart, Reference.present?, hs]
      · simp [putPart, Reference.present?, hs, get?_put]
  · rw [get?_putPart_of_ne fs hn, if_neg hn]

/-- Parts of different names stand for what they have, and leave the rest as it was. -/
theorem get?_foldl_putPart {parts : List (String × Option String)}
    (h : (parts.map Prod.fst).Nodup) (fs : Fields) (n : String) :
    (parts.foldl putPart fs).get? n =
      ((parts.find? fun p => p.1 == n).bind fun p => Reference.present? p.2).or (fs.get? n) := by
  induction parts generalizing fs with
  | nil => rfl
  | cons part parts ih =>
    obtain ⟨hnew, hparts⟩ := List.nodup_cons.mp h
    rw [List.foldl_cons, ih hparts, get?_putPart]
    by_cases hn : part.1 = n
    · -- no later part goes by this name
      have hlater : parts.find? (fun p => p.1 == n) = none := by
        rw [List.find?_eq_none]
        intro p hp heq
        exact hnew (List.mem_map.mpr ⟨p, hp, (eq_of_beq heq).trans hn.symm⟩)
      rw [hlater, List.find?_cons_of_pos (by simpa using hn), if_pos hn]
      rfl
    · rw [List.find?_cons_of_neg (by simpa using hn), if_neg hn]

/-- **What a name stands for**: what the reference has under it, or else what the entry has. -/
theorem get?_merge (e : Entry) (r : Reference) (n : String) :
    (merge e r).get? n = (r.value? n).or (e.value? n) := by
  rw [merge, get?_foldl_putPart (by simp [Reference.parts]), get?_ofEntry]
  rfl

end Fields

/-! ### Fields as text -/

namespace Fields

/-- The text of what is under a name, and nothing if there is no such field. -/
def text (fs : Fields) (n : String) : String := (fs.get? n).elim "" Value.shown

/-- The trait behind a hash, if there is one that counts as true. -/
def traitText (fs : Fields) : String :=
  match fs.get? "trait" with
  | some v => if v.isTrue then "#" ++ v.shown else ""
  | none => ""

theorem shown_eq_text (fs : Fields) (n : String) : fs.shown n = fs.text n := by
  rw [shown, datum, text]
  cases fs.get? n with
  | none => rfl
  | some v => exact Template.Datum.shown_ofValue v

theorem address_eq_text (fs : Fields) : fs.address = fs.text "navurl" ++ fs.traitText := by
  rw [address, traitSuffix, shown_eq_text, shown_eq_text, traitText, datum, text, text]
  cases fs.get? "trait" with
  | none => rfl
  | some v =>
    rw [Option.elim_some, Template.Datum.isTrue_ofValue]
    rfl

/-- What a link shows and where it leads can be written. -/
def isWritable (fs : Fields) : Bool := fs.haveTexts ["showtext", "navurl", "trait"]

variable {e : Entry} {r : Reference}

/-- The words of a reference are put in as they are. -/
theorem text_showtext_merge (h : r.showtext ≠ "") : (merge e r).text "showtext" = r.showtext := by
  rw [text, get?_merge]
  simp [Reference.value?, Reference.parts, Reference.present?, h, Value.shown]

/-- So is the explanation of an entry, which no part of a reference stands for. -/
theorem text_glossaryText_merge : (merge e r).text "glossaryText" = e.glossaryText := by
  rw [text, get?_merge]
  rfl

theorem hasText_glossaryText_merge : (merge e r).hasText "glossaryText" = true := by
  rw [hasText, get?_merge]
  rfl

/-- So is its address, if it has one. -/
theorem text_navurl_merge {u : String} (h : e.navurl = some u) :
    (merge e r).text "navurl" = u := by
  rw [text, get?_merge]
  -- the field before it may be null
  cases hphrases : e.formPhrases <;>
    simp [Reference.value?, Reference.parts, Entry.value?, Entry.fields, h, hphrases,
      Value.ofOption, Value.shown]

/-- And the trait of a reference. -/
theorem traitText_merge {t : String} (h : r.trait = some t) (hne : t ≠ "") :
    (merge e r).traitText = "#" ++ t := by
  rw [traitText, get?_merge]
  simp [Reference.value?, Reference.parts, Reference.present?, h, hne, Value.isTrue, Value.shown]

end Fields

/-! ### Entries that can be written -/

/-- No number that a link to an entry may show is too long to be written. -/
def Entry.isWritable (e : Entry) : Bool :=
  ["showtext", "navurl", "trait"].all fun n => (e.value? n).all Value.hasText

namespace Fields

variable {e : Entry} {r : Reference}

/-- What a reference has under a name is a text. -/
theorem hasText_value? {n : String} {v : Value} (h : r.value? n = some v) : v.hasText = true := by
  rw [Reference.value?, Option.bind_eq_some_iff] at h
  obtain ⟨⟨m, s⟩, -, hs⟩ := h
  rcases s with - | s
  · cases hs
  · rw [Reference.present?] at hs
    split at hs
    · cases hs
    · obtain rfl := Option.some.inj hs
      rfl

/-- A name has a text if the entry has one under it, or the reference has something. -/
theorem hasText_merge (e : Entry) (r : Reference) (n : String) :
    (merge e r).hasText n = ((r.value? n).isSome || (e.value? n).all Value.hasText) := by
  rw [hasText, get?_merge]
  rcases hr : r.value? n with - | v
  · rfl
  · rw [Option.some_or, Option.all_some, hasText_value? hr]
    rfl

theorem hasText_showtext_merge (h : r.showtext ≠ "") : (merge e r).hasText "showtext" = true := by
  rw [hasText_merge]
  simp [Reference.value?, Reference.parts, Reference.present?, h]

theorem hasText_navurl_merge {u : String} (h : e.navurl = some u) :
    (merge e r).hasText "navurl" = true := by
  rw [hasText_merge]
  cases hphrases : e.formPhrases <;>
    simp [Reference.value?, Reference.parts, Entry.value?, Entry.fields, h, hphrases,
      Value.ofOption, Value.hasText]

/-- An entry that can be written can be written with any reference. -/
theorem isWritable_merge (h : e.isWritable = true) (r : Reference) :
    (merge e r).isWritable = true := by
  rw [Entry.isWritable, List.all_eq_true] at h
  rw [isWritable, haveTexts, List.all_eq_true]
  intro n hn
  rw [hasText_merge, h n hn, Bool.or_true]

end Fields

/-! ### Layouts -/

/-- The text of a style, with what `put` has for its fields, and its part for the trait.  A style
that is written as a template has none of its own. -/
def LinkKind.layout (put : String → String) (trait : String) : LinkKind → String
  | .standard => "[" ++ put "showtext" ++ "](" ++ put "navurl" ++ trait ++ ")"
  | .markdown => "[" ++ put "showtext" ++ "](" ++ put "navurl" ++ trait ++ ")"
  | .http => "<a href=\"" ++ put "navurl" ++ trait ++ "\">" ++ put "showtext" ++ "</a>"
  | .essif => "<a href=\"" ++ put "navurl" ++ trait ++ "\" title=\"" ++ put "glossaryText" ++
      "\">" ++ put "showtext" ++ "</a>"
  | .custom => ""

/-- A slot of a template for the value of a name. -/
def LinkKind.slot (n : String) : String := "\x7b\x7b " ++ n ++ " \x7d\x7d"

/-- The template of a style in writing. -/
def LinkKind.source (k : LinkKind) : String :=
  k.layout slot ("\x7b% if trait %\x7d#" ++ slot "trait" ++ "\x7b% endif %\x7d")

namespace LinkStyle

/-- Whether statements are the same, for those that named styles are made of. -/
def agree : Stmt → Stmt → Bool
  | .text s, .text t => s == t
  | .print [.name n], .print [.name m] => n == m
  | .branch (.name n) [.text s, .print [.name k]] [],
      .branch (.name m) [.text t, .print [.name l]] [] => n == m && s == t && k == l
  | _, _ => false

/-- Whether all statements are the same. -/
def agreeAll : List Stmt → List Stmt → Bool
  | [], [] => true
  | a :: as, b :: bs => agree a b && agreeAll as bs
  | _, _ => false

theorem eq_of_agree {a b : Stmt} (h : agree a b = true) : a = b := by
  delta agree at h
  split at h
  · rw [eq_of_beq h]
  · rw [eq_of_beq h]
  · simp only [Bool.and_eq_true, beq_iff_eq] at h
    obtain ⟨⟨rfl, rfl⟩, rfl⟩ := h
    rfl
  · cases h

theorem eq_of_agreeAll {as bs : List Stmt} (h : agreeAll as bs = true) : as = bs := by
  induction as generalizing bs with
  | nil =>
    cases bs with
    | nil => rfl
    | cons b bs => cases h
  | cons a as ih =>
    cases bs with
    | nil => cases h
    | cons b bs =>
      rw [agreeAll, Bool.and_eq_true] at h
      rw [eq_of_agree h.1, ih h.2]

/-- Whether a text is read as a template with these statements. -/
def readsAs (source : String) (body : List Stmt) : Bool :=
  match Template.ofText source with
  | .ok t => agreeAll t.body body
  | .error _ => false

theorem ofText_of_readsAs {source : String} {t : Template} (h : readsAs source t.body = true) :
    Template.ofText source = .ok t := by
  rw [readsAs] at h
  split at h
  · rename_i u hu
    rw [hu, show u = t from congrArg Template.mk (eq_of_agreeAll h)]
  · cases h

/-- **The template of a named style in writing is read as its template.** -/
theorem ofText_source {s : LinkStyle} (hs : s ∈ named) :
    Template.ofText s.kind.source = .ok s.template := by
  have hread : ∀ s ∈ [standard, http, essif], readsAs s.kind.source s.template.body = true := by
    decide +kernel
  simp only [named, List.mem_cons, List.not_mem_nil, or_false] at hs
  rcases hs with rfl | rfl | rfl | rfl
  · exact ofText_of_readsAs (hread standard (by simp))
  · -- its text is that of the standard style
    exact ofText_of_readsAs (hread standard (by simp))
  · exact ofText_of_readsAs (hread http (by simp))
  · exact ofText_of_readsAs (hread essif (by simp))

/-- **What a named style renders**: its text, with what the fields have in its slots, unless a
number there is too long to be written. -/
theorem text?_layout {s : LinkStyle} (hs : s ∈ named) (e : Entry) (r : Reference) :
    s.text? e r = if (Fields.merge e r).isWritable then
      some (s.kind.layout (Fields.merge e r).text (Fields.merge e r).traitText) else none := by
  have hmarkdown : "[" ++ (Fields.merge e r).shown "showtext" ++ "](" ++
      (Fields.merge e r).address ++ ")" = LinkKind.layout (Fields.merge e r).text
        (Fields.merge e r).traitText .standard := by
    simp only [LinkKind.layout, Fields.address_eq_text, Fields.shown_eq_text, String.append_assoc]
  -- the explanation is a text, and the order of the slots does not matter
  have hhttp : (Fields.merge e r).haveTexts ["navurl", "trait", "showtext"] =
      (Fields.merge e r).isWritable := by
    simp only [Fields.isWritable, Fields.haveTexts, List.all_cons, List.all_nil, Bool.and_true]
    ac_rfl
  have hessif : (Fields.merge e r).haveTexts ["navurl", "trait", "glossaryText", "showtext"] =
      (Fields.merge e r).isWritable := by
    simp only [← hhttp, Fields.haveTexts, List.all_cons, Fields.hasText_glossaryText_merge,
      Bool.true_and]
  simp only [named, List.mem_cons, List.not_mem_nil, or_false] at hs
  rcases hs with rfl | rfl | rfl | rfl
  · rw [text?_of_puts rfl puts_markdownBody, hmarkdown, standard, Fields.isWritable]
  · rw [text?_of_puts rfl puts_markdownBody, hmarkdown, Fields.isWritable]
    rfl
  · rw [text?_of_puts rfl puts_httpBody, hhttp]
    simp only [http, LinkKind.layout, Fields.address_eq_text, Fields.shown_eq_text,
      String.append_assoc]
  · rw [text?_of_puts rfl puts_essifBody, hessif]
    simp only [essif, LinkKind.layout, Fields.address_eq_text, Fields.shown_eq_text,
      String.append_assoc]

theorem render_layout {s : LinkStyle} (hs : s ∈ named) (e : Entry) (r : Reference) (j : Journal) :
    s.render e r j = if (Fields.merge e r).isWritable then
      (s.kind.layout (Fields.merge e r).text (Fields.merge e r).traitText, j)
    else ("", { j with notes := j.notes ++ [s.failureNote e.term] }) := by
  rw [render, text?_layout hs]
  cases (Fields.merge e r).isWritable <;> rfl

/-- The text of a named style stands around what is put in. -/
theorem fenced_layout {s : LinkStyle} (hs : s ∈ named) (put : String → String) (trait : String) :
    Fenced (s.kind.layout put trait).toList := by
  have hmarkdown : Fenced
      ("[" ++ put "showtext" ++ "](" ++ put "navurl" ++ trait ++ ")").toList :=
    ⟨'[', (put "showtext" ++ "](" ++ put "navurl" ++ trait).toList, ')', by simp, .inl rfl, rfl⟩
  simp only [named, List.mem_cons, List.not_mem_nil, or_false] at hs
  rcases hs with rfl | rfl | rfl | rfl
  · exact hmarkdown
  · exact hmarkdown
  · exact ⟨'<', ("a href=\"" ++ put "navurl" ++ trait ++ "\">" ++ put "showtext" ++
      "</a").toList, '>', by simp [LinkKind.layout, http], .inr rfl, rfl⟩
  · exact ⟨'<', ("a href=\"" ++ put "navurl" ++ trait ++ "\" title=\"" ++ put "glossaryText" ++
      "\">" ++ put "showtext" ++ "</a").toList, '>', by simp [LinkKind.layout, essif], .inr rfl,
      rfl⟩

/-- **What a named style renders stands between brackets**, and it renders something unless a
number is too long to be written. -/
theorem text?_of_named {s : LinkStyle} (hs : s ∈ named) (e : Entry) (r : Reference) :
    (∃ l, s.text? e r = some l ∧ Fenced l.toList) ∨
      s.text? e r = none ∧ (Fields.merge e r).isWritable = false := by
  rw [text?_layout hs]
  cases (Fields.merge e r).isWritable with
  | true => exact .inl ⟨_, rfl, fenced_layout hs _ _⟩
  | false => exact .inr ⟨rfl, rfl⟩

end LinkStyle

end TermRef
