/-
TermRef/Proofs/Value/Text.lean

Values as text.

A whole number has a text only if it is short enough, and a value if all numbers in it are.  What
has none counts as true (`Value.isTrue_of_not_hasText`), and is no tag (`Value.hasText_of_tag?`).

A template sees the values of files as its own.  They have the same text there
(`Template.Datum.quoted_ofValue`, `Template.Datum.shown_ofValue`) or none in either place
(`Template.Datum.hasText_ofValue`).
-/
import TermRef.Value.Check
import TermRef.Template.Datum

namespace TermRef

/-! ### Values with a text -/

/-- What has no text counts as true. -/
theorem Value.isTrue_of_not_hasText {v : Value} (h : v.hasText = false) : v.isTrue = true := by
  cases v with
  | int n =>
    rw [hasText, isShort, decide_eq_false_iff_not] at h
    rw [isTrue, bne_iff_ne]
    rintro rfl
    exact h (by decide)
  | list xs => cases xs <;> first | rfl | cases h
  | tuple xs => cases xs <;> first | rfl | cases h
  | set xs => cases xs <;> first | rfl | cases h
  | mapping es => cases es <;> first | rfl | cases h
  | _ => cases h

/-- A tag has a text. -/
theorem Value.hasText_of_tag? {v : Value} {s : String} (h : v.tag? = .good s) :
    v.hasText = true := by
  cases v with
  | int n =>
    rw [tag?, asTag] at h
    split at h
    · assumption
    · cases h
  | list => cases h
  | tuple => cases h
  | set => cases h
  | mapping => cases h
  | _ => rfl

/-! ### Values in templates -/

namespace Template.Datum

theorem length_ofValues (xs : List Value) : (ofValues xs).length = xs.length := by
  induction xs with
  | nil => rfl
  | cons x xs ih => rw [ofValues, List.length_cons, List.length_cons, ih]

theorem quoted_plain (v : Value) : quoted (.plain v) = v.quoted := by rw [quoted.eq_def]

theorem quoted_text (s : String) : quoted (.text s false) = Quoted.ofText s := by
  rw [quoted.eq_def]
  exact if_neg Bool.false_ne_true

mutual

/-- A value of a file has the same text in a template. -/
theorem quoted_ofValue : ∀ v : Value, (ofValue v).quoted = v.quoted
  | .text s => by rw [ofValue, quoted_text, Value.quoted]
  | .list xs => by
    rw [ofValue, quoted.eq_def, Value.quoted]
    dsimp only
    rw [quotedAll_ofValues xs, commas]
  | .tuple xs => by
    rw [ofValue, quoted.eq_def, Value.quoted]
    dsimp only
    rw [quotedAll_ofValues xs, length_ofValues, commas]
  | .mapping es => by
    rw [ofValue, quoted.eq_def, Value.quoted]
    dsimp only
    rw [quotedEntries_ofEntries es, commas]
  | .null => by rw [ofValue, quoted_plain]
  | .bool b => by rw [ofValue, quoted_plain]
  | .int n => by rw [ofValue, quoted_plain]
  | .float x => by rw [ofValue, quoted_plain]
  | .bytes b => by rw [ofValue, quoted_plain]
  | .stamp t => by rw [ofValue, quoted_plain]
  | .set xs => by rw [ofValue, quoted_plain]

theorem quotedAll_ofValues : ∀ xs : List Value, quotedAll (ofValues xs) = Value.quotedAll xs
  | [] => by rw [ofValues, quotedAll, Value.quotedAll]
  | x :: xs => by
    rw [ofValues, quotedAll, Value.quotedAll, quoted_ofValue x, quotedAll_ofValues xs]

theorem quotedEntries_ofEntries :
    ∀ es : List (Value × Value), quotedEntries (ofEntries es) = Value.quotedEntries es
  | [] => by rw [ofEntries, quotedEntries, Value.quotedEntries]
  | (k, v) :: es => by
    rw [ofEntries, quotedEntries, Value.quotedEntries, quoted_ofValue k, quoted_ofValue v,
      quotedEntries_ofEntries es]

end

/-- On its own as well. -/
theorem shown_ofValue (v : Value) : (ofValue v).shown = v.shown := by
  have hquoted := quoted_ofValue v
  cases v <;> first | rfl | exact hquoted

theorem isTrue_ofValue (v : Value) : (ofValue v).isTrue = v.isTrue := by
  cases v with
  | list xs => cases xs <;> rfl
  | tuple xs => cases xs <;> rfl
  | mapping es => rcases es with - | ⟨⟨k, w⟩, es⟩ <;> rfl
  | _ => rfl

theorem hasText_plain (v : Value) : hasText (.plain v) = v.hasText := by rw [hasText.eq_def]

theorem hasText_text (s : String) : hasText (.text s false) = true := by rw [hasText.eq_def]

mutual

/-- It has a text in a template if it has one in the file. -/
theorem hasText_ofValue : ∀ v : Value, (ofValue v).hasText = v.hasText
  | .text s => by rw [ofValue, hasText_text, Value.hasText.eq_def]
  | .list xs => by
    rw [ofValue, hasText.eq_def, Value.hasText]
    exact haveTexts_ofValues xs
  | .tuple xs => by
    rw [ofValue, hasText.eq_def, Value.hasText]
    exact haveTexts_ofValues xs
  | .mapping es => by
    rw [ofValue, hasText.eq_def, Value.hasText]
    exact entriesHaveTexts_ofEntries es
  | .null => by rw [ofValue, hasText_plain]
  | .bool b => by rw [ofValue, hasText_plain]
  | .int n => by rw [ofValue, hasText_plain]
  | .float x => by rw [ofValue, hasText_plain]
  | .bytes b => by rw [ofValue, hasText_plain]
  | .stamp t => by rw [ofValue, hasText_plain]
  | .set xs => by rw [ofValue, hasText_plain]

theorem haveTexts_ofValues : ∀ xs : List Value, haveTexts (ofValues xs) = Value.haveTexts xs
  | [] => by rw [ofValues, haveTexts, Value.haveTexts]
  | x :: xs => by
    rw [ofValues, haveTexts, Value.haveTexts, hasText_ofValue x, haveTexts_ofValues xs]

theorem entriesHaveTexts_ofEntries :
    ∀ es : List (Value × Value), entriesHaveTexts (ofEntries es) = Value.entriesHaveTexts es
  | [] => by rw [ofEntries, entriesHaveTexts, Value.entriesHaveTexts]
  | (k, v) :: es => by
    rw [ofEntries, entriesHaveTexts, Value.entriesHaveTexts, hasText_ofValue k, hasText_ofValue v,
      entriesHaveTexts_ofEntries es]

end

end Template.Datum

end TermRef
