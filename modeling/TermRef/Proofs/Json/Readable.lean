/-
TermRef/Proofs/Json/Readable.lean

JSON texts that are YAML, with the same meaning.

Not every JSON text is a YAML text.  Tabs are no white space between tokens there; a name of a
member is recognised as one only if its colon stands on the same line and not too far on; and some
characters may not stand in a text at all.  Others end a line, so that the space about them is
lost or a document seems to be marked behind them.  `Json.Readable` leaves out what is affected,
and pairs of surrogates.  It can be decided, and it is enough for all characters of the text to be
allowed (`Document.Readable.all_isAllowed`).
-/
import Mathlib.Data.List.Infix
import TermRef.Proofs.Json.Syntax
import TermRef.Yaml.Place

namespace TermRef

namespace Json

/-! ### White space -/

/-- White space without tabs. -/
def Blank.Untabbed (b : Blank) : Prop := '\t' ∉ b.chars

/-- White space that consists of spaces. -/
def Blank.InLine (b : Blank) : Prop := ∀ c ∈ b.chars, c = ' '

theorem Blank.Untabbed.chars {b : Blank} (h : b.Untabbed) :
    ∀ c ∈ b.chars, c ∈ [' ', '\n', '\r'] := by
  intro c hc
  have hlegal := List.all_eq_true.mp b.legal c hc
  have htab : c ≠ '\t' := fun heq => h (heq ▸ hc)
  simpa [htab] using hlegal

theorem Blank.InLine.untabbed {b : Blank} (h : b.InLine) : b.Untabbed := by
  intro htab
  exact absurd (h _ htab) (by decide)

/-! ### Strings -/

/-- A character that may not stand in a YAML text, or counts as a line feed there. -/
def isBarred (c : Char) : Bool :=
  (0x7f ≤ c.toNat && c.toNat ≤ 0x9f) || c.toNat == 0xfffe || c.toNat == 0xffff

/-- The characters that end a line in YAML and count as themselves. -/
def separators : List Char := ['\u2028', '\u2029']

/-- What is not read as it is written: a separator next to a space, and one in front of the marker
of a document. -/
def misread : List (List Char) :=
  separators.flatMap fun c => [' ', c] :: [c, ' '] ::
    ["---", "..."].flatMap fun m => (' ' :: separators).map fun x => c :: m.toList ++ [x]

/-- The numbers of a surrogate pair, instead of the character. -/
def Piece.isPair : Piece → Bool
  | pair .. => true
  | _ => false

namespace Written

/-- A string is read as it is meant. -/
structure Readable (s : Written) : Prop where
  barred : ∀ c ∈ s.body, isBarred c = false
  pairs : ∀ p ∈ s, p.isPair = false
  separators : ∀ w ∈ misread, ¬ w <:+: s.body

/-- A name is recognised, with the white space between it and its colon. -/
structure ReadableName (s : Written) (toColon : Blank) : Prop extends s.Readable where
  line : ∀ c ∈ s.body, c ∉ Json.separators
  inLine : toColon.InLine
  length : s.text.length + toColon.chars.length ≤ 1024

end Written

/-! ### Values -/

mutual

/-- A value is read as it is meant. -/
def Readable : Json → Prop
  | .string s => s.Readable
  | .array inside items => inside.Untabbed ∧ items.Readable
  | .object inside members => inside.Untabbed ∧ members.Readable
  | _ => True

/-- Items are read as they are meant. -/
def Items.Readable : Items → Prop
  | .nil => True
  | .cons before v after rest =>
    before.Untabbed ∧ v.Readable ∧ after.Untabbed ∧ rest.Readable

/-- Members are read as they are meant. -/
def Members.Readable : Members → Prop
  | .nil => True
  | .cons before name toColon toValue v after rest =>
    before.Untabbed ∧ name.ReadableName toColon ∧ toValue.Untabbed ∧ v.Readable ∧
      after.Untabbed ∧ rest.Readable

end

/-- A document is read as it is meant. -/
structure Document.Readable (d : Document) : Prop where
  before : d.before.Untabbed
  inside : d.inside.Untabbed
  members : d.members.Readable
  after : d.after.Untabbed

/-! ### Deciding -/

instance (b : Blank) : Decidable b.Untabbed := inferInstanceAs (Decidable (_ ∉ _))

instance (b : Blank) : Decidable b.InLine :=
  decidable_of_iff (b.chars.all (· == ' ') = true) (by simp [Blank.InLine])

theorem Written.readable_iff {s : Written} : s.Readable ↔ (s.body.all fun c => !isBarred c) = true ∧
    (s.all fun p => !p.isPair) = true ∧ (misread.all fun w => !decide (w <:+: s.body)) = true := by
  simp only [List.all_eq_true, Bool.not_eq_true', decide_eq_false_iff_not]
  exact ⟨fun h => ⟨h.barred, h.pairs, h.separators⟩, fun h => ⟨h.1, h.2.1, h.2.2⟩⟩

instance (s : Written) : Decidable s.Readable := decidable_of_iff _ Written.readable_iff.symm

theorem Written.readableName_iff {s : Written} {b : Blank} : s.ReadableName b ↔ s.Readable ∧
    (s.body.all fun c => !Json.separators.contains c) = true ∧ b.InLine ∧
      s.text.length + b.chars.length ≤ 1024 := by
  simp only [List.all_eq_true, Bool.not_eq_true', List.contains_eq_mem, decide_eq_false_iff_not]
  exact ⟨fun h => ⟨h.toReadable, h.line, h.inLine, h.length⟩,
    fun h => ⟨h.1, h.2.1, h.2.2.1, h.2.2.2⟩⟩

instance (s : Written) (b : Blank) : Decidable (s.ReadableName b) :=
  decidable_of_iff _ Written.readableName_iff.symm

mutual

/-- Whether a value is read as it is meant. -/
def decideReadable : (j : Json) → Decidable j.Readable
  | .null | .bool _ | .number _ => .isTrue trivial
  | .string s => inferInstanceAs (Decidable s.Readable)
  | .array inside items =>
    have := Items.decideReadable items
    inferInstanceAs (Decidable (inside.Untabbed ∧ items.Readable))
  | .object inside members =>
    have := Members.decideReadable members
    inferInstanceAs (Decidable (inside.Untabbed ∧ members.Readable))

/-- Whether items are read as they are meant. -/
def Items.decideReadable : (items : Items) → Decidable items.Readable
  | .nil => .isTrue trivial
  | .cons before v after rest =>
    have := v.decideReadable
    have := Items.decideReadable rest
    inferInstanceAs (Decidable (before.Untabbed ∧ v.Readable ∧ after.Untabbed ∧ rest.Readable))

/-- Whether members are read as they are meant. -/
def Members.decideReadable : (members : Members) → Decidable members.Readable
  | .nil => .isTrue trivial
  | .cons before name toColon toValue v after rest =>
    have := v.decideReadable
    have := Members.decideReadable rest
    inferInstanceAs (Decidable (before.Untabbed ∧ name.ReadableName toColon ∧ toValue.Untabbed ∧
      v.Readable ∧ after.Untabbed ∧ rest.Readable))

end

instance (members : Members) : Decidable members.Readable := members.decideReadable

instance (d : Document) : Decidable d.Readable :=
  decidable_of_iff (d.before.Untabbed ∧ d.inside.Untabbed ∧ d.members.Readable ∧ d.after.Untabbed)
    ⟨fun h => ⟨h.1, h.2.1, h.2.2.1, h.2.2.2⟩, fun h => ⟨h.before, h.inside, h.members, h.after⟩⟩

/-! ### The characters of a text -/

open Yaml (isAllowed)

theorem isAllowed_of_isBarred {c : Char} (hc : ' ' ≤ c) (h : isBarred c = false) :
    isAllowed c = true := by
  have hspace : 0x20 ≤ c.toNat := hc
  have hascii : ' ' ≤ c ∧ c ≤ '~' ↔ 0x20 ≤ c.toNat ∧ c.toNat ≤ 0x7e := Iff.rfl
  have hlatin : '\u00a0' ≤ c ↔ 0xa0 ≤ c.toNat := Iff.rfl
  simp only [isBarred, Bool.or_eq_false_iff, Bool.and_eq_false_iff, decide_eq_false_iff_not,
    beq_eq_false_iff_ne] at h
  simp only [isAllowed, Bool.or_eq_true, Bool.and_eq_true, decide_eq_true_eq, hascii, hlatin]
  omega

theorem Blank.Untabbed.all_isAllowed {b : Blank} (h : b.Untabbed) :
    b.chars.all isAllowed = true := by
  refine List.all_eq_true.mpr fun c hc => ?_
  have hallowed : ∀ c ∈ [' ', '\n', '\r'], isAllowed c = true := List.all_eq_true.mp (by decide)
  exact hallowed c (h.chars c hc)

/-- The characters of numerals. -/
def numeralChars : List Char := "0123456789+-.eE".toList

theorem Digits.mem_text {d : Digits} {c : Char} (h : c ∈ d.text) : c ∈ numeralChars := by
  have hdigit : ∀ n : Fin 10, n.val.digitChar ∈ numeralChars := by decide
  obtain ⟨n, -, rfl⟩ := List.mem_map.mp h
  exact hdigit n

theorem Exponent.mem_text {e : Exponent} {c : Char} (h : c ∈ e.text) : c ∈ numeralChars := by
  have hmark : ∀ capital : Bool, (if capital then 'E' else 'e') ∈ numeralChars := by decide
  obtain ⟨capital, sign, digits⟩ := e
  simp only [text, List.mem_cons, List.mem_append] at h
  rcases h with rfl | h | h
  · exact hmark capital
  · rcases sign with - | _ | _
    · exact absurd h List.not_mem_nil
    all_goals
      obtain rfl := List.mem_singleton.mp h
      decide
  · exact digits.mem_text h

theorem Numeral.mem_text {n : Numeral} {c : Char} (h : c ∈ n.text) : c ∈ numeralChars := by
  obtain ⟨negative, whole, fraction, exponent, legal⟩ := n
  simp only [text, List.mem_append] at h
  rcases h with ((h | h) | h) | h
  · cases negative with
    | true =>
      obtain rfl := List.mem_singleton.mp h
      decide
    | false => exact absurd h List.not_mem_nil
  · exact whole.mem_text h
  · cases fraction with
    | none => exact absurd h List.not_mem_nil
    | some d =>
      rcases List.mem_cons.mp h with rfl | h
      · decide
      · exact d.mem_text h
  · cases exponent with
    | none => exact absurd h List.not_mem_nil
    | some e => exact e.mem_text h

theorem HexDigit.le_char (d : HexDigit) : ' ' ≤ d.char := by
  obtain ⟨v, k⟩ := d
  revert v k
  decide

theorem Piece.le_of_mem_text {p : Piece} {c : Char} (h : c ∈ p.text) : ' ' ≤ c := by
  have hunit : ∀ {u : CodeUnit} {c : Char}, c ∈ u.text → ' ' ≤ c := by
    intro u c h
    simp only [CodeUnit.text, List.mem_cons, List.not_mem_nil, or_false] at h
    rcases h with rfl | rfl | rfl | rfl | rfl | rfl
    case inl | inr.inl => decide
    all_goals exact HexDigit.le_char _
  cases p with
  | plain c' legal =>
    obtain rfl := List.mem_singleton.mp h
    exact legal.1
  | short letter c' legal =>
    have hletter : ∀ x ∈ shortEscapes, ' ' ≤ x.1 := by decide
    simp only [text, List.mem_cons, List.not_mem_nil, or_false] at h
    rcases h with rfl | rfl
    · decide
    · exact hletter _ legal
  | code u => exact hunit h
  | pair high low => exact (List.mem_append.mp h).elim hunit hunit

theorem Written.le_of_mem_body {s : Written} {c : Char} (h : c ∈ s.body) : ' ' ≤ c := by
  obtain ⟨p, -, hp⟩ := List.mem_flatMap.mp h
  exact p.le_of_mem_text hp

theorem Written.Readable.all_isAllowed {s : Written} (h : s.Readable) :
    s.text.all isAllowed = true := by
  have hbody : s.body.all isAllowed = true :=
    List.all_eq_true.mpr fun c hc => isAllowed_of_isBarred (le_of_mem_body hc) (h.barred c hc)
  have hquote : isAllowed '"' = true := by decide
  simp [text, hbody, hquote]

theorem all_isAllowed_comma (first : Bool) : (comma first).all isAllowed = true := by
  cases first <;> decide

mutual

/-- **A value that is read as it is meant has no character that YAML does not allow.** -/
theorem all_isAllowed_text : ∀ j : Json, j.Readable → j.text.all isAllowed = true
  | .null, _ => by decide
  | .bool b, _ => by cases b <;> decide
  | .number n, _ => by
    have hallowed : ∀ c ∈ numeralChars, isAllowed c = true := List.all_eq_true.mp (by decide)
    exact List.all_eq_true.mpr fun c hc => hallowed c (n.mem_text hc)
  | .string s, h => by
    rw [Readable] at h
    rw [text]
    exact h.all_isAllowed
  | .array inside items, h => by
    rw [Readable] at h
    have hbrackets : isAllowed '[' = true ∧ isAllowed ']' = true := by decide
    simp [text, hbrackets, h.1.all_isAllowed, Items.all_isAllowed_text items true h.2]
  | .object inside members, h => by
    rw [Readable] at h
    have hbrackets : isAllowed '\x7b' = true ∧ isAllowed '\x7d' = true := by decide
    simp [text, hbrackets, h.1.all_isAllowed, Members.all_isAllowed_text members true h.2]

theorem Items.all_isAllowed_text : ∀ (items : Items) (first : Bool), items.Readable →
    (items.text first).all isAllowed = true
  | .nil, _, _ => rfl
  | .cons before v after rest, first, h => by
    rw [Items.Readable] at h
    obtain ⟨hbefore, hv, hafter, hrest⟩ := h
    simp [Items.text, all_isAllowed_comma, hbefore.all_isAllowed, all_isAllowed_text v hv,
      hafter.all_isAllowed, Items.all_isAllowed_text rest false hrest]

theorem Members.all_isAllowed_text : ∀ (members : Members) (first : Bool), members.Readable →
    (members.text first).all isAllowed = true
  | .nil, _, _ => rfl
  | .cons before name toColon toValue v after rest, first, h => by
    rw [Members.Readable] at h
    obtain ⟨hbefore, hname, htoValue, hv, hafter, hrest⟩ := h
    have hcolon : isAllowed ':' = true := by decide
    simp [Members.text, all_isAllowed_comma, hbefore.all_isAllowed, hname.all_isAllowed,
      hname.inLine.untabbed.all_isAllowed, hcolon, htoValue.all_isAllowed, all_isAllowed_text v hv,
      hafter.all_isAllowed, Members.all_isAllowed_text rest false hrest]

end

theorem Document.Readable.all_isAllowed {d : Document} (h : d.Readable) :
    d.text.all isAllowed = true := by
  have hobject : (Json.object d.inside d.members).Readable := by
    rw [Json.Readable]
    exact ⟨h.inside, h.members⟩
  simp [text, h.before.all_isAllowed, all_isAllowed_text _ hobject, h.after.all_isAllowed]

end Json

end TermRef
