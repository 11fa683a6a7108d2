/-
TermRef/Proofs/Link/Markdown.lean

What the style of plain markup renders.

Its template shows the words of a reference and leads to an address: the address of the
entry, with the trait behind a hash if there is one.  What it gives is put together in
`text?_markdownBody`: the words in square brackets, the address in round ones.  The fields
may hold any values at all, since an entry may bring fields of its own, and one of them may
be a trait.  Rendering fails with a number among them that is too long to be written, and
with nothing else (`Template.Render.Puts`).
-/
import TermRef.Link.Render
import TermRef.Proofs.Value.Text

namespace TermRef

open Template Template.Render

/-! ### Fields -/

namespace Fields

/-- The value of a name in a template, which is undefined if there is no such field. -/
def datum (fs : Fields) (n : String) : Datum := (fs.get? n).elim .undefined .ofValue

/-- The text of a name in a template. -/
def shown (fs : Fields) (n : String) : String := (fs.datum n).shown

/-- A name has a text: no number in its value is too long to be written. -/
def hasText (fs : Fields) (n : String) : Bool := (fs.get? n).all Value.hasText

/-- All of some names have a text. -/
def haveTexts (fs : Fields) (ns : List String) : Bool := ns.all fs.hasText

/-- The trait behind a hash, if there is one. -/
def traitSuffix (fs : Fields) : String :=
  if (fs.datum "trait").isTrue then "#" ++ fs.shown "trait" else ""

/-- Where a link leads: the address of the entry and the trait behind a hash. -/
def address (fs : Fields) : String := fs.shown "navurl" ++ fs.traitSuffix

theorem hasText_datum (fs : Fields) (n : String) : (fs.datum n).hasText = fs.hasText n := by
  rw [datum, hasText]
  cases fs.get? n with
  | none => rfl
  | some v => exact Template.Datum.hasText_ofValue v

/-- What is not true has a text. -/
theorem hasText_of_not_isTrue (fs : Fields) {n : String} (h : (fs.datum n).isTrue = false) :
    fs.hasText n = true := by
  rw [hasText]
  rw [datum] at h
  rcases hv : fs.get? n with - | v
  · rfl
  · rw [hv, Option.elim_some, Template.Datum.isTrue_ofValue] at h
    rw [Option.all_some, ← Bool.not_eq_false]
    intro hlong
    rw [Value.isTrue_of_not_hasText hlong] at h
    cases h

theorem get?_put (n m : String) (v : Value) (fs : Fields) :
    (fs.put n v).get? m = if n = m then some v else fs.get? m := by
  induction fs with
  | nil =>
    by_cases h : n = m <;> simp [put, get?, h]
  | cons f fs ih =>
    rcases f with ⟨k, w⟩
    by_cases hk : k = n
    · subst hk
      by_cases h : k = m <;> simp [put, get?, h]
    · by_cases hm : k = m
      · subst hm
        have hn : n ≠ k := fun h => hk h.symm
        simp [put, get?, hk, hn]
      · simp only [put, beq_iff_eq, hk, if_false]
        simpa [get?, List.find?_cons, hm] using ih

theorem get?_putPart_of_ne {n : String} {part : String × Option String} (fs : Fields)
    (h : part.1 ≠ n) : (fs.putPart part).get? n = fs.get? n := by
  rcases part with ⟨m, - | s⟩
  · rfl
  · rw [putPart]
    split
    · rename_i s' hs
      split
      · rfl
      · rw [get?_put, if_neg h]
    · rfl

/-- The words of a reference are shown, whatever the entry has under that name. -/
theorem shown_showtext_merge (e : Entry) (r : Reference) (h : r.showtext ≠ "") :
    (merge e r).shown "showtext" = r.showtext := by
  have hput : (ofEntry e).putPart ("showtext", some r.showtext) =
      (ofEntry e).put "showtext" (.text r.showtext) := by
    simp [putPart, h]
  have hget : (merge e r).get? "showtext" = some (.text r.showtext) := by
    simp only [merge, Reference.parts, List.foldl_cons, List.foldl_nil]
    -- the other parts are put in after the words, under names of their own
    iterate 4 rw [get?_putPart_of_ne _ (by simp)]
    rw [hput, get?_put, if_pos rfl]
  rw [shown, datum, hget]
  rfl

end Fields

/-! ### Rendering -/

namespace Template.Render

variable {call : Caller} {st : Store} {fs : Fields}

/-- The state sees the given fields, and puts text out as it is. -/
structure Sees (st : Store) (fs : Fields) : Prop where
  scopes : st.scopes = [[], fs.map fun f => (f.1, .ofValue f.2)]
  escaping : st.escaping = false

theorem findIn_fields (fs : Fields) (n : String) :
    findIn (fs.map fun f => (f.1, Datum.ofValue f.2)) n = (fs.get? n).map .ofValue := by
  rw [findIn, List.find?_map, Fields.get?, Option.map_map, Option.map_map]
  rfl

/-- The state in which a template begins sees the fields it is given. -/
theorem sees_fields (fs : Fields) (names : List String) :
    Sees { scopes := [[], fs.map fun f => (f.1, .ofValue f.2)], blockNames := names } fs :=
  ⟨rfl, rfl⟩

theorem run_bind_of_ok {α β : Type} {x : Render α} {f : α → Render β} {st' : Store} {a : α}
    (h : x.run st = .ok (a, st')) : (x >>= f).run st = (f a).run st' := by
  rw [StateT.run_bind, h]
  rfl

theorem lookup_run (h : Sees st fs) {n : String} (hself : n ≠ "self")
    (hbuiltin : builtin? n = none) : (lookup n).run st = .ok (fs.datum n, st) := by
  have hn : (n == "self") = false := by simpa using hself
  -- nothing has been assigned, so the name is found among the fields or not at all
  have hfound : (st.scopes.findSome? fun s => findIn s n) = (fs.get? n).map .ofValue := by
    rw [h.scopes]
    simp only [List.findSome?_cons, List.findSome?_nil, findIn_fields]
    cases fs.get? n <;> rfl
  rw [lookup, run_bind_of_ok (StateT.run_get st), hfound, hbuiltin, Fields.datum]
  simp only [hn]
  cases fs.get? n <;> rfl

theorem eval_name_run (h : Sees st fs) {n : String} (hself : n ≠ "self")
    (hbuiltin : builtin? n = none) : (eval call (.name n)).run st = .ok (fs.datum n, st) := by
  have hplace : (evalPlace call (.name n)).run st = .ok ((fs.datum n, placeOf n), st) := by
    rw [evalPlace, run_bind_of_ok (lookup_run h hself hbuiltin)]
    rfl
  rw [eval, valueOf, run_bind_of_ok hplace]
  rfl

/-- Statements put out a text, or fail with a number that is too long to be written. -/
def Puts (call : Caller) (st : Store) (ss : List Stmt) (written : Bool) (s : String) : Prop :=
  (executeAll call ss).run st = if written then .ok (s, st) else .error .tooLarge

namespace Puts

variable {s : Stmt} {ss : List Stmt} {written : Bool} {a b : String}

theorem nil (call : Caller) (st : Store) : Puts call st [] true "" := by
  rw [Puts, executeAll]
  rfl

/-- A statement and then others. -/
theorem cons {here : Bool}
    (hs : (execute call s).run st = if here then .ok (a, st) else .error .tooLarge)
    (hss : Puts call st ss written b) : Puts call st (s :: ss) (here && written) (a ++ b) := by
  rw [Puts, executeAll]
  cases here with
  | false =>
    rw [StateT.run_bind, hs]
    rfl
  | true =>
    rw [run_bind_of_ok hs, Bool.true_and, StateT.run_bind, hss]
    cases written <;> rfl

theorem text (a : String) (h : Puts call st ss written b) :
    Puts call st (.text a :: ss) written (a ++ b) := by
  rw [← Bool.true_and written]
  refine cons ?_ h
  rw [execute]
  rfl

theorem execute_show (h : Sees st fs) {n : String} (hself : n ≠ "self")
    (hbuiltin : builtin? n = none) : (execute call (LinkStyle.show_ n)).run st =
      if fs.hasText n then .ok (fs.shown n, st) else .error .tooLarge := by
  rw [LinkStyle.show_, execute, printAll, run_bind_of_ok (eval_name_run h hself hbuiltin),
    run_bind_of_ok (StateT.run_get st), printAll, h.escaping]
  simp only [output, Bool.false_eq_true, if_false, Datum.toText, Fields.hasText_datum]
  cases fs.hasText n with
  | false => rfl
  | true =>
    show Except.ok (fs.shown n ++ "", st) = _
    rw [String.append_empty]
    rfl

/-- The value of a name. -/
theorem field (hf : Sees st fs) {n : String} (hself : n ≠ "self") (hbuiltin : builtin? n = none)
    (h : Puts call st ss written b) :
    Puts call st (LinkStyle.show_ n :: ss) (fs.hasText n && written) (fs.shown n ++ b) :=
  cons (execute_show hf hself hbuiltin) h

/-- The trait behind a hash.  Without one there is nothing to be written. -/
theorem trait (hf : Sees st fs) (h : Puts call st ss written b) :
    Puts call st (LinkStyle.traitSuffix :: ss) (fs.hasText "trait" && written)
      (fs.traitSuffix ++ b) := by
  refine cons ?_ h
  rw [LinkStyle.traitSuffix, execute, run_bind_of_ok (eval_name_run hf (by decide) rfl),
    Fields.traitSuffix]
  rcases htrue : (fs.datum "trait").isTrue with - | -
  · rw [if_neg Bool.false_ne_true, if_neg Bool.false_ne_true,
      if_pos (fs.hasText_of_not_isTrue htrue)]
    exact nil call st
  · rw [if_pos rfl, if_pos rfl]
    have hbody : Puts call st _ _ _ :=
      text "#" (field hf (n := "trait") (by decide) rfl (nil call st))
    rw [Puts, Bool.and_true, String.append_empty] at hbody
    exact hbody

end Puts

/-- The template of plain markup puts the words and the address in their brackets. -/
theorem puts_markdownBody (h : Sees st fs) :
    Puts call st LinkStyle.markdownBody (fs.haveTexts ["showtext", "navurl", "trait"])
      ("[" ++ fs.shown "showtext" ++ "](" ++ fs.address ++ ")") := by
  have hbody : Puts call st _ _ _ := .text "[" <| .field h (n := "showtext") (by decide) rfl <|
    .text "](" <| .field h (n := "navurl") (by decide) rfl <| .trait h <| .text ")" <| .nil call st
  simpa [LinkStyle.markdownBody, Fields.address, Fields.haveTexts, String.append_assoc] using hbody

end Template.Render

/-- A template renders what its body puts out. -/
theorem Template.render_of_puts {body : List Stmt} {fs : Fields} {written : Bool} {s : String}
    (h : ∀ {call : Caller} {st : Store}, Sees st fs → Puts call st body written s) :
    Template.render ⟨body⟩ fs = if written then .ok s else .error .tooLarge := by
  have hbody := fun call names => @h call _ (sees_fields fs names)
  simp only [Puts] at hbody
  rw [Template.render]
  simp only [hbody]
  cases written <;> rfl

theorem LinkStyle.text?_of_puts {s : LinkStyle} {body : List Stmt} {e : Entry} {r : Reference}
    {written : Bool} {out : String} (hs : s.template = ⟨body⟩)
    (h : ∀ {call : Caller} {st : Store}, Sees st (Fields.merge e r) →
      Puts call st body written out) : s.text? e r = if written then some out else none := by
  rw [text?, hs, Template.render_of_puts h]
  cases written <;> rfl

/-- **What the style of plain markup renders**: the words in square brackets and the
address in round ones, for every entry and every reference that shows words, if it renders
anything. -/
theorem LinkStyle.text?_markdownBody {s : LinkStyle} (hs : s.template = ⟨LinkStyle.markdownBody⟩)
    (e : Entry) (r : Reference) (h : r.showtext ≠ "") {l : String} (hl : s.text? e r = some l) :
    l = "[" ++ r.showtext ++ "](" ++ (Fields.merge e r).address ++ ")" := by
  rw [LinkStyle.text?_of_puts hs puts_markdownBody, Fields.shown_showtext_merge e r h] at hl
  split at hl
  · exact (Option.some.inj hl).symm
  · cases hl

end TermRef
