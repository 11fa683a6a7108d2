/-
TermRef/Proofs/Value/Again.lean

Values that are checked again, and values in another spelling.

What a check makes of a value can be written as a value again.  If the check makes the same of
that, it is said to read back (`Checked.ReadsBack`): what has been read once stays as it is.  The
checks of texts, tags and lists read back, and so does the check of a mapping if every part is
found again in what is written, and nothing but the parts is taken for one
(`Entries.required_again`, `Entries.optional_again`, `Entries.others_again`).

Where a tag is wanted, a number that is short enough to have a text may be spelled as its text, and
where a list of tags is wanted, the list of one tag as the tag (`Value.TagRespelled`,
`Value.TagsRespelled`).  Checks that expect this
cannot tell the spellings apart (`Checked.Respects`), and neither can a check of a mapping or of a
list in which there is another spelling somewhere.
-/
import TermRef.Proofs.Value.Entries

namespace TermRef

open Value

variable {α : Type} {f : Value → Checked α} {g : α → Value}

/-! ### Reading back -/

/-- What the check makes of a value, it makes of what that is written as. -/
def Checked.ReadsBack (f : Value → Checked α) (g : α → Value) : Prop :=
  ∀ v a, f v = .good a → f (g a) = .good a

namespace Checked

theorem readsBack_text : ReadsBack text? .text := fun _ _ _ => rfl

theorem readsBack_tag : ReadsBack tag? .text := fun _ _ _ => rfl

theorem readsBack_filled : ReadsBack filled? .text := by
  intro v s h
  rw [filled?] at h
  rcases hv : v.text? with t | ps
  · rw [hv, andThen] at h
    split at h
    · cases h
    · injection h with h
      subst h
      exact if_neg ‹_›
  · rw [hv] at h
    cases h

/-- What a check of what an earlier one makes reads back, if the earlier one keeps it. -/
theorem ReadsBack.andThen {pre : Value → Checked Value} (h : ReadsBack f g)
    (hpre : ∀ a, pre (g a) = .good (g a)) : ReadsBack (fun v => (pre v).andThen f) g := by
  intro v a ha
  dsimp only at ha ⊢
  rw [hpre]
  rcases hv : pre v with w | ps
  · rw [hv] at ha
    exact h w a ha
  · rw [hv] at ha
    cases ha

theorem readsBack_filledTag : ReadsBack filledTag? .text := readsBack_filled.andThen fun _ => rfl

theorem readsBack_optional {f : Value → Checked String} (h : ReadsBack f .text) :
    ReadsBack (optional? f) ofOption := by
  intro v o ho
  cases o with
  | none => rfl
  | some s =>
    have hs : f v = .good s := by
      unfold optional? at ho
      split at ho
      · cases ho
      · rcases hv : f v with t | ps
        · rw [hv] at ho
          injection ho with ho
          injection ho with ho
          rw [ho]
        · rw [hv] at ho
          cases ho
    show some <$> f (.text s) = .good (some s)
    rw [h v s hs]
    rfl

end Checked

/-! ### Lists -/

namespace Value

/-- What is made of members is made of one each. -/
theorem exists_of_mem_membersFrom {vs : List Value} {as : List α} {i : Nat}
    (h : membersFrom f i vs = .good as) : ∀ a ∈ as, ∃ v, f v = .good a := by
  induction vs generalizing i as with
  | nil =>
    injection h with h
    simp [← h]
  | cons v vs ih =>
    obtain ⟨c, bs, hc, hbs, rfl⟩ := Checked.seq_eq_good h
    obtain ⟨cons', b, hcons, hb, rfl⟩ := Checked.seq_eq_good (f := .good List.cons) hc
    injection hcons with hcons
    subst hcons
    intro a ha
    rcases List.mem_cons.mp ha with rfl | ha
    · exact ⟨v, Checked.under_eq_good.mp hb⟩
    · exact ih hbs a ha

theorem membersFrom_map {as : List α} (h : ∀ a ∈ as, f (g a) = .good a) (i : Nat) :
    membersFrom f i (as.map g) = .good as := by
  induction as generalizing i with
  | nil => rfl
  | cons a as ih =>
    obtain ⟨ha, has⟩ := List.forall_mem_cons.mp h
    rw [List.map_cons, membersFrom, ih has, ha]
    rfl

/-- A list of anything is taken as it is. -/
theorem membersFrom_good (i : Nat) (vs : List Value) : membersFrom .good i vs = .good vs := by
  have hid : membersFrom .good i (vs.map id) = .good vs := membersFrom_map (fun _ _ => rfl) i
  rwa [List.map_id] at hid

/-- Texts are kept as they are. -/
theorem eachAsTag_texts (ts : List String) :
    eachAsTag (ts.map .text) = .good (ts.map .text) := by
  induction ts with
  | nil => rfl
  | cons t ts ih =>
    rw [List.map_cons, eachAsTag, ih]
    rfl

/-- Texts are a list of tags. -/
theorem tags?_ofTexts (ts : List String) : (ofTexts ts).tags? = .good ts := by
  have hsame : (ofTexts ts).asTags = .good (ofTexts ts) := by
    show Value.list <$> eachAsTag (ts.map .text) = _
    rw [eachAsTag_texts]
    rfl
  rw [tags?, hsame]
  exact membersFrom_map (g := .text) (fun _ _ => rfl) 0

end Value

namespace Checked

theorem readsBack_list (h : ReadsBack f g) : ReadsBack (list? f) fun as => .list (as.map g) := by
  intro v as has
  have hmem : ∀ a ∈ as, ∃ w, f w = .good a := by
    unfold list? at has
    split at has
    · exact exists_of_mem_membersFrom has
    · exact exists_of_mem_membersFrom has
    · exact exists_of_mem_membersFrom has
    · cases has
  refine membersFrom_map (fun a ha => ?_) 0
  obtain ⟨w, hw⟩ := hmem a ha
  exact h w a hw

theorem readsBack_nullAsList (h : ReadsBack f g) :
    ReadsBack (fun v => v.nullAsList.list? f) fun as => .list (as.map g) :=
  fun v => readsBack_list h v.nullAsList

theorem readsBack_tags : ReadsBack tags? ofTexts := fun _ ts _ => tags?_ofTexts ts

/-! ### Mappings -/

theorem record_eq_good {h : Entries → Checked α} {v : Value} {a : α} :
    v.record? h = .good a ↔ ∃ es, v = .mapping es ∧ h es = .good a := by
  cases v <;> simp [record?, entries?, andThen, flaw]

/-- The check of a mapping reads back if the check of its entries does. -/
theorem readsBack_record {h : Entries → Checked α} {fields : α → Entries}
    (hback : ∀ es a, h es = .good a → h (fields a) = .good a) :
    ReadsBack (record? h) fun a => .mapping (fields a) := by
  intro v a ha
  obtain ⟨es, -, hes⟩ := record_eq_good.mp ha
  exact hback es a hes

end Checked

namespace Entries

open Checked

variable {es es' : Entries} {name other : String} {known : List String} {a dflt : α}

theorem field?_cons_text (s : String) (w : Value) (es : Entries) (name : String) :
    field? ((.text s, w) :: es) name = if s = name then some w else field? es name := by
  simp only [field?_cons, same_text, Value.text.injEq]

theorem field?_ne_none {v : Value} (h : (.text name, v) ∈ es) : es.field? name ≠ none := by
  induction es with
  | nil => cases h
  | cons x es ih =>
    obtain ⟨k, w⟩ := x
    rw [field?_cons]
    split
    · simp
    · rename_i hk
      rcases List.mem_cons.mp h with heq | h
      · injection heq with hname
        exact absurd (Value.same_text.mpr hname.symm) hk
      · exact ih h

/-- Of two names, the first is chosen if there is an entry for it. -/
theorem nameOf_of_mem {v : Value} (h : (.text name, v) ∈ es) (other : String) :
    es.nameOf name other = name := by
  rw [nameOf, if_neg]
  simp [field?_ne_none h]

/-- A part that has to be there is read back, under the name that it is written under. -/
theorem required_again (h : ReadsBack f g) (ha : es.required other f = .good a)
    (hfield : es'.field? name = some (g a)) : es'.required name f = .good a := by
  obtain ⟨v, -, hv⟩ := required_eq_good.mp ha
  exact required_eq_good.mpr ⟨g a, hfield, h v a hv⟩

/-- A part that may be left out is read back, if what stands for it is. -/
theorem optional_again (h : ReadsBack f g) (hdflt : f (g dflt) = .good dflt)
    (ha : es.optional other dflt f = .good a) (hfield : es'.field? name = some (g a)) :
    es'.optional name dflt f = .good a := by
  refine optional_eq_good.mpr (.inr ⟨g a, hfield, ?_⟩)
  rcases optional_eq_good.mp ha with ⟨-, rfl⟩ | ⟨v, -, hv⟩
  · exact hdflt
  · exact h v a hv

/-- A text or nothing is read back, whether it has been given or left out. -/
theorem optionalText_again {o : Option String}
    (ho : es.optional other none (optional? text?) = .good o)
    (hfield : es'.field? name = some (ofOption o)) :
    es'.optional name none (optional? text?) = .good o :=
  optional_again (readsBack_optional readsBack_text) rfl ho hfield

/-- The keys of the mapping are texts, and none of the known names. -/
def Foreign (known : List String) (es : Entries) : Prop :=
  ∀ e ∈ es, ∃ s, e.1 = .text s ∧ s ∉ known

theorem others_eq_self (h : Foreign known es) : others known es = .good es := by
  induction es with
  | nil => rfl
  | cons e es ih =>
    obtain ⟨k, v⟩ := e
    obtain ⟨⟨s, rfl, hs⟩, hes⟩ := List.forall_mem_cons.mp h
    rw [others, if_neg (by simpa using hs), ih hes]
    rfl

/-- The other entries of a mapping are entries of it. -/
theorem others_eq_good {xs : Entries} (h : others known es = .good xs) :
    Foreign known xs ∧ xs ⊆ es := by
  induction es generalizing xs with
  | nil =>
    injection h with h
    subst h
    simp [Foreign]
  | cons e es ih =>
    obtain ⟨k, v⟩ := e
    cases k with
    | text s =>
      rw [others] at h
      split at h
      · exact (ih h).imp_right (List.subset_cons_of_subset _)
      · rename_i hs
        obtain ⟨c, ys, hc, hys, rfl⟩ := seq_eq_good (f := .good (List.cons (Value.text s, v))) h
        injection hc with hc
        subst hc
        obtain ⟨hforeign, hsub⟩ := ih hys
        exact ⟨List.forall_mem_cons.mpr ⟨⟨s, rfl, by simpa using hs⟩, hforeign⟩,
          List.cons_subset_cons _ hsub⟩
    | _ =>
      -- a key that is no text is a flaw, whatever comes behind it
      obtain ⟨_, _, hbad, -⟩ := seq_eq_good (f := .bad _) (x := others known es) h
      cases hbad

/-- Behind parts under known names the other entries are read back. -/
theorem others_again {parts xs : Entries} (h : Foreign known xs)
    (hparts : ∀ e ∈ parts, ∃ s, e.1 = .text s ∧ s ∈ known) :
    others known (parts ++ xs) = .good xs := by
  induction parts with
  | nil => exact others_eq_self h
  | cons e parts ih =>
    obtain ⟨k, v⟩ := e
    obtain ⟨⟨s, rfl, hs⟩, hrest⟩ := List.forall_mem_cons.mp hparts
    rw [List.cons_append, others_cons_of_known (List.contains_iff_mem.mpr hs), ih hrest]

end Entries

/-! ### Other spellings -/

/-- A number, and its text.  Numbers that are too long to be written have none. -/
inductive Value.TagRespelled : Value → Value → Prop
  | int {n : Int} : isShort n = true → TagRespelled (.int n) (.text (Value.int n).shown)
  | float (x : Float) : TagRespelled (.float x) (.text (Value.float x).shown)

/-- A text or a number. -/
def Value.isTag : Value → Bool
  | .text _ | .int _ | .float _ => true
  | _ => false

/-- What stands for a list of tags, with a number in it replaced by its text, or with the list of
a single tag replaced by the tag. -/
inductive Value.TagsRespelled : Value → Value → Prop
  | alone {v w : Value} : v.TagRespelled w → TagsRespelled v w
  | member {v w : Value} (before after : List Value) : v.TagRespelled w →
      TagsRespelled (.list (before ++ v :: after)) (.list (before ++ w :: after))
  | unlisted {v : Value} : v.isTag = true → TagsRespelled (.list [v]) v

/-- Lists that differ in one member, as `R` has it. -/
inductive Value.InMember (R : Value → Value → Prop) : Value → Value → Prop
  | list {v w : Value} (before after : List Value) : R v w →
      InMember R (.list (before ++ v :: after)) (.list (before ++ w :: after))
  | tuple {v w : Value} (before after : List Value) : R v w →
      InMember R (.tuple (before ++ v :: after)) (.tuple (before ++ w :: after))
  | set {v w : Value} (before after : List Value) : R v w →
      InMember R (.set (before ++ v :: after)) (.set (before ++ w :: after))

/-- Mappings whose entries differ as `R` has it. -/
inductive Value.InMapping (R : Entries → Entries → Prop) : Value → Value → Prop
  | mapping {es es' : Entries} : R es es' → InMapping R (.mapping es) (.mapping es')

/-- Entries that differ in the value of a name, as `R` has it. -/
inductive Entries.At (name : String) (R : Value → Value → Prop) : Entries → Entries → Prop
  | entry {v w : Value} (before after : Entries) : R v w →
      At name R (before ++ (.text name, v) :: after) (before ++ (.text name, w) :: after)

/-- Entries of which one is spelled in another way, at one of the places that are listed with the
spellings there are. -/
def Entries.Respelled (places : List (String × (Value → Value → Prop))) (es es' : Entries) : Prop :=
  ∃ p ∈ places, At p.1 p.2 es es'

/-- The check cannot tell apart what `R` relates. -/
def Checked.Respects {β : Type} (f : β → Checked α) (R : β → β → Prop) : Prop :=
  ∀ v w, R v w → f w = f v

namespace Checked

variable {R : Value → Value → Prop}

/-- A number is taken for its text. -/
theorem asTag_respelled {v w : Value} (h : v.TagRespelled w) : w.asTag = v.asTag := by
  cases h with
  | int hn => exact (if_pos hn).symm
  | float x => rfl

theorem respects_tag : Respects tag? TagRespelled := fun v w h => by
  rw [tag?, tag?, asTag_respelled h]

theorem respects_filledTag : Respects filledTag? TagRespelled := fun v w h => by
  rw [filledTag?, filledTag?, asTag_respelled h]

theorem respects_optional_tag : Respects (optional? tag?) TagRespelled := by
  intro v w h
  have hsame := respects_tag v w h
  cases h <;> exact congrArg (Functor.map some) hsame

theorem eachAsTag_respelled {v w : Value} (h : v.TagRespelled w) (before after : List Value) :
    eachAsTag (before ++ w :: after) = eachAsTag (before ++ v :: after) := by
  induction before with
  | nil => rw [List.nil_append, List.nil_append, eachAsTag, eachAsTag, asTag_respelled h]
  | cons x before ih => rw [List.cons_append, List.cons_append, eachAsTag, eachAsTag, ih]

theorem respects_tags : Respects tags? TagsRespelled := by
  intro v w h
  have hsame : w.asTags = v.asTags := by
    cases h with
    | alone hvw =>
      have hlist := eachAsTag_respelled hvw [] []
      cases hvw <;> exact congrArg (Functor.map Value.list) hlist
    | member before after hvw =>
      exact congrArg (Functor.map Value.list) (eachAsTag_respelled hvw before after)
    | unlisted hv => cases w <;> first | rfl | cases hv
  rw [tags?, tags?, hsame]

theorem membersFrom_respelled {v w : Value} (h : f w = f v) (before after : List Value) (i : Nat) :
    membersFrom f i (before ++ w :: after) = membersFrom f i (before ++ v :: after) := by
  induction before generalizing i with
  | nil => rw [List.nil_append, List.nil_append, membersFrom, membersFrom, h]
  | cons x before ih => rw [List.cons_append, List.cons_append, membersFrom, membersFrom, ih]

theorem Respects.list (h : Respects f R) : Respects (list? f) (InMember R) := by
  rintro _ _ (⟨before, after, hvw⟩ | ⟨before, after, hvw⟩ | ⟨before, after, hvw⟩) <;>
    exact membersFrom_respelled (h _ _ hvw) before after 0

theorem Respects.nullAsList (h : Respects f R) :
    Respects (fun v => v.nullAsList.list? f) (InMember R) := by
  intro v w hvw
  cases hvw with
  | list before after hvw => exact h.list _ _ (.list before after hvw)
  | tuple before after hvw => exact h.list _ _ (.tuple before after hvw)
  | set before after hvw => exact h.list _ _ (.set before after hvw)

theorem respects_record {S : Entries → Entries → Prop} {h : Entries → Checked α}
    (hh : Respects h S) : Respects (record? h) (InMapping S) := by
  rintro _ _ ⟨hes⟩
  exact hh _ _ hes

end Checked

namespace Entries

open Checked

variable {es es' : Entries} {name : String} {places : List (String × (Value → Value → Prop))}

/-- A name keeps its value when that of another one changes, and otherwise has both values. -/
theorem At.field? {R : Value → Value → Prop} {other : String} (h : At other R es es')
    (name : String) : es'.field? name = es.field? name ∨
      name = other ∧ ∃ v w, R v w ∧ es.field? name = some v ∧ es'.field? name = some w := by
  obtain ⟨before, after, hvw⟩ := h
  induction before with
  | nil =>
    by_cases hname : other = name
    · refine .inr ⟨hname.symm, _, _, hvw, ?_, ?_⟩ <;>
        rw [List.nil_append, field?_cons_text, if_pos hname]
    · exact .inl (by simp only [List.nil_append, field?_cons_text, if_neg hname])
  | cons x before ih =>
    obtain ⟨k, u⟩ := x
    simp only [List.cons_append, field?_cons]
    split
    · exact .inl rfl
    · exact ih

/-- A part has the same value, or two values of which one is another spelling of the other. -/
theorem Respelled.field? (h : Respelled places es es') (name : String) :
    es'.field? name = es.field? name ∨ ∃ R v w, (name, R) ∈ places ∧ R v w ∧
      es.field? name = some v ∧ es'.field? name = some w := by
  obtain ⟨⟨other, R⟩, hplace, hat⟩ := h
  exact (hat.field? name).imp_right fun ⟨hname, v, w, hvw⟩ => ⟨R, v, w, hname ▸ hplace, hvw⟩

theorem Respelled.field?_of_notMem (h : Respelled places es es') (hname : ∀ R, (name, R) ∉ places) :
    es'.field? name = es.field? name :=
  (h.field? name).resolve_right fun ⟨R, _, _, hplace, _⟩ => hname R hplace

theorem Respelled.required {f : Value → Checked α} (h : Respelled places es es')
    (hf : ∀ R, (name, R) ∈ places → Respects f R) : es'.required name f = es.required name f := by
  rcases h.field? name with hsame | ⟨R, v, w, hplace, hvw, hv, hw⟩
  · exact required_congr hsame f
  · rw [Entries.required, Entries.required, hv, hw]
    exact congrArg (under (.name name)) (hf R hplace v w hvw)

theorem Respelled.optional {f : Value → Checked α} (h : Respelled places es es')
    (hf : ∀ R, (name, R) ∈ places → Respects f R) (dflt : α) :
    es'.optional name dflt f = es.optional name dflt f := by
  rcases h.field? name with hsame | ⟨R, v, w, hplace, hvw, hv, hw⟩
  · exact optional_congr hsame dflt f
  · rw [Entries.optional, Entries.optional, hv, hw]
    exact congrArg (under (.name name)) (hf R hplace v w hvw)

/-- The other entries are the same if all the places are parts. -/
theorem Respelled.others {known : List String} (h : Respelled places es es')
    (hknown : ∀ p ∈ places, p.1 ∈ known) : Entries.others known es' = Entries.others known es := by
  obtain ⟨⟨name, R⟩, hplace, ⟨before, after, -⟩⟩ := h
  have hname := List.contains_iff_mem.mpr (hknown _ hplace)
  induction before with
  | nil => rw [List.nil_append, List.nil_append, others_cons_of_known hname,
      others_cons_of_known hname]
  | cons x before ih =>
    obtain ⟨k, u⟩ := x
    rw [List.cons_append, List.cons_append]
    cases k <;> simp only [Entries.others, ih]

end Entries

end TermRef
