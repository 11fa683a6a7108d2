/-
TermRef/Proofs/Scope/Normal.lean

The parts of the administration of a scope stay as they have been read.

A scope, a known scope, a version and a whole administration are read from what they are written
as as themselves (`ScopeInfo.readsBack`, `ScopeRef.readsBack`, `VersionInfo.readsBack`,
`ScopeAdmin.readsBack`): the parts are found again under their names, whether they had been given
or left out, and the other entries have none of these names.

What is read is the same if a tag is spelled in another way at one of the places where there are
tags (`ScopeInfo.respects_spelling` and so on).
-/
import TermRef.Proofs.Value.Again
import TermRef.Scope.Administration

namespace TermRef

open Value Checked Entries

/-! ### The scope itself -/

theorem ScopeInfo.readsBack : ReadsBack (record? ofEntries) toValue := by
  refine readsBack_record fun es s hs => ?_
  -- the checks are taken apart from the last one on
  obtain ⟨_, extra, h₆, hextra, rfl⟩ := seq_eq_good hs
  obtain ⟨_, mrgfile, h₅, hmrgfile, rfl⟩ := seq_eq_good h₆
  obtain ⟨_, curatedir, h₄, hcuratedir, rfl⟩ := seq_eq_good h₅
  obtain ⟨_, scopedir, h₃, hscopedir, rfl⟩ := seq_eq_good h₄
  obtain ⟨_, website, h₂, hwebsite, rfl⟩ := seq_eq_good h₃
  obtain ⟨_, glossarydir, h₁, hglossarydir, rfl⟩ := seq_eq_good h₂
  obtain ⟨f, scopetag, h₀, hscopetag, rfl⟩ := seq_eq_good h₁
  obtain rfl : ScopeInfo.mk = f := by injection h₀
  rw [ofEntries, required_again readsBack_filledTag hscopetag (by simp [field?_cons_text]),
    required_again readsBack_filled hglossarydir (by simp [field?_cons_text]),
    optional_again readsBack_text rfl hwebsite (by simp [field?_cons_text]),
    optionalText_again hscopedir (by simp [field?_cons_text]),
    optionalText_again hcuratedir (by simp [field?_cons_text]),
    optionalText_again hmrgfile (by simp [field?_cons_text]),
    others_again (others_eq_good hextra).1 (by simp [names])]
  rfl

/-- Where a scope has tags. -/
def ScopeInfo.tagPlaces : List (String × (Value → Value → Prop)) := [("scopetag", TagRespelled)]

theorem ScopeInfo.respects_spelling : Respects ofEntries (Respelled tagPlaces) := by
  intro es es' h
  rw [ofEntries, h.required (by simpa [tagPlaces] using respects_filledTag),
    h.required (by simp [tagPlaces]), h.optional (by simp [tagPlaces]),
    h.optional (by simp [tagPlaces]), h.optional (by simp [tagPlaces]),
    h.optional (by simp [tagPlaces]), h.others (by simp [tagPlaces, names])]
  rfl

/-! ### Scopes known -/

theorem ScopeRef.readsBack : ReadsBack (record? ofEntries) toValue := by
  refine readsBack_record fun es s hs => ?_
  obtain ⟨_, extra, h₂, hextra, rfl⟩ := seq_eq_good hs
  obtain ⟨_, scopedir, h₁, hscopedir, rfl⟩ := seq_eq_good h₂
  obtain ⟨f, scopetags, h₀, hscopetags, rfl⟩ := seq_eq_good h₁
  obtain rfl : ScopeRef.mk = f := by injection h₀
  rw [ofEntries, optional_again readsBack_tags rfl hscopetags (by simp [field?_cons_text]),
    optionalText_again hscopedir (by simp [field?_cons_text]),
    others_again (others_eq_good hextra).1 (by simp)]
  rfl

/-- Where a known scope has tags. -/
def ScopeRef.tagPlaces : List (String × (Value → Value → Prop)) := [("scopetags", TagsRespelled)]

theorem ScopeRef.respects_spelling : Respects ofEntries (Respelled tagPlaces) := by
  intro es es' h
  rw [ofEntries, h.optional (by simpa [tagPlaces] using respects_tags),
    h.optional (by simp [tagPlaces]), h.others (by simp [tagPlaces])]
  rfl

/-! ### Versions -/

theorem VersionInfo.readsBack : ReadsBack (record? ofEntries) toValue := by
  refine readsBack_record fun es s hs => ?_
  obtain ⟨_, extra, h₃, hextra, rfl⟩ := seq_eq_good hs
  obtain ⟨_, altvsntags, h₂, haltvsntags, rfl⟩ := seq_eq_good h₃
  obtain ⟨_, mrgfile, h₁, hmrgfile, rfl⟩ := seq_eq_good h₂
  obtain ⟨f, vsntag, h₀, hvsntag, rfl⟩ := seq_eq_good h₁
  obtain rfl : VersionInfo.mk = f := by injection h₀
  rw [ofEntries, required_again readsBack_tag hvsntag (by simp [field?_cons_text]),
    optionalText_again hmrgfile (by simp [field?_cons_text]),
    optional_again readsBack_tags rfl haltvsntags (by simp [field?_cons_text]),
    others_again (others_eq_good hextra).1 (by simp)]
  rfl

/-- Where a version has tags. -/
def VersionInfo.tagPlaces : List (String × (Value → Value → Prop)) :=
  [("vsntag", TagRespelled), ("altvsntags", TagsRespelled)]

theorem VersionInfo.respects_spelling : Respects ofEntries (Respelled tagPlaces) := by
  intro es es' h
  rw [ofEntries, h.required (by simpa [tagPlaces] using respects_tag),
    h.optional (by simp [tagPlaces]), h.optional (by simpa [tagPlaces] using respects_tags),
    h.others (by simp [tagPlaces])]
  rfl

/-! ### The administration -/

theorem ScopeAdmin.readsBack : ReadsBack (record? ofEntries) toValue := by
  refine readsBack_record fun es s hs => ?_
  obtain ⟨_, extra, h₃, hextra, rfl⟩ := seq_eq_good hs
  obtain ⟨_, versions, h₂, hversions, rfl⟩ := seq_eq_good h₃
  obtain ⟨_, scopes, h₁, hscopes, rfl⟩ := seq_eq_good h₂
  obtain ⟨f, scope, h₀, hscope, rfl⟩ := seq_eq_good h₁
  obtain rfl : ScopeAdmin.mk = f := by injection h₀
  rw [ofEntries, required_again ScopeInfo.readsBack hscope (by simp [field?_cons_text]),
    optional_again (readsBack_nullAsList ScopeRef.readsBack) rfl hscopes
      (by simp [field?_cons_text]),
    optional_again (readsBack_nullAsList VersionInfo.readsBack) rfl hversions
      (by simp [field?_cons_text]),
    others_again (others_eq_good hextra).1 (by simp)]
  rfl

/-- Where an administration has tags: in its scope, in the scopes known and in its versions. -/
def ScopeAdmin.tagPlaces : List (String × (Value → Value → Prop)) :=
  [("scope", InMapping (Respelled ScopeInfo.tagPlaces)),
    ("scopes", InMember (InMapping (Respelled ScopeRef.tagPlaces))),
    ("versions", InMember (InMapping (Respelled VersionInfo.tagPlaces)))]

theorem ScopeAdmin.respects_spelling : Respects ofEntries (Respelled tagPlaces) := by
  intro es es' h
  have hscope := respects_record ScopeInfo.respects_spelling
  have hscopes := (respects_record ScopeRef.respects_spelling).nullAsList
  have hversions := (respects_record VersionInfo.respects_spelling).nullAsList
  rw [ofEntries, h.required (by simpa [tagPlaces] using hscope),
    h.optional (by simpa [tagPlaces] using hscopes),
    h.optional (by simpa [tagPlaces] using hversions), h.others (by simp [tagPlaces])]
  rfl

end TermRef
