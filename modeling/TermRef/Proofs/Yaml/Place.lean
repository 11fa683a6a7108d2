/-
TermRef/Proofs/Yaml/Place.lean

Places some characters on.

What follows a place after some steps is what followed it less as many characters
(`Place.rest_skip`), and as far as these end no line, the place stays on its line
(`Place.line_skip`).  So a reader that passes over a word is followed by the number of its
characters alone.

Between tokens there is layout (`IsLayout`), and what stands behind it is none of the characters
that are passed over (`isSkipped`).
-/
import Mathlib.Data.List.Basic
import TermRef.Yaml.Place

namespace TermRef.Yaml

/-! ### Layout -/

/-- What stands between tokens on lines without comments. -/
def IsLayout (w : List Char) : Prop := ∀ c ∈ w, c = ' ' ∨ c = '\n'

theorem isLayout_nil : IsLayout [] := List.forall_mem_nil _

/-- A character that may be passed over in front of a token: a blank, the start of a comment, or a
mark at the start of the text. -/
def isSkipped (c : Char) : Bool := c == ' ' || c == '#' || c == '\ufeff' || isBreak c

theorem isSkipped_eq_false {c : Char} :
    isSkipped c = false ↔ c ≠ ' ' ∧ c ≠ '#' ∧ c ≠ '\ufeff' ∧ isBreak c = false := by
  simp [isSkipped, and_assoc]

theorem IsLayout.append {v w : List Char} (hv : IsLayout v) (hw : IsLayout w) :
    IsLayout (v ++ w) := by
  intro c hc
  exact (List.mem_append.mp hc).elim (hv c) (hw c)

/-- Layout consists of spaces, or of spaces and a line feed with layout behind it. -/
theorem IsLayout.split {w : List Char} (h : IsLayout w) : (∀ c ∈ w, c = ' ') ∨
    ∃ u v, w = u ++ '\n' :: v ∧ (∀ c ∈ u, c = ' ') ∧ IsLayout v := by
  induction w with
  | nil => exact .inl nofun
  | cons c w ih =>
    obtain ⟨hc, hw⟩ := List.forall_mem_cons.mp h
    rcases hc with rfl | rfl
    · rcases ih hw with hspaces | ⟨u, v, rfl, hu, hv⟩
      · exact .inl (List.forall_mem_cons.mpr ⟨rfl, hspaces⟩)
      · exact .inr ⟨' ' :: u, v, rfl, List.forall_mem_cons.mpr ⟨rfl, hu⟩, hv⟩
    · exact .inr ⟨[], w, rfl, nofun, hw⟩

namespace Place

variable {p : Place} {f : Char → Bool} {c : Char} {w t : List Char}

/-! ### Some characters on -/

theorem rest_step (p : Place) : p.step.rest = p.rest.tail := by
  rw [step]
  split
  · simp_all
  · split <;> simp_all

theorem index_step (h : p.rest ≠ []) : p.step.index = p.index + 1 := by
  rw [step]
  split
  · contradiction
  · split <;> rfl

/-- A line goes on behind a character that does not end it. -/
theorem line_step (h : ∀ c ∈ p.rest.head?, isBreak c = false) : p.step.line = p.line := by
  rw [step]
  split
  · rfl
  · rename_i c r hrest
    have hc : isBreak c = false := h c (by rw [hrest]; rfl)
    simp [hc]

theorem rest_skip (n : Nat) (p : Place) : (p.skip n).rest = p.rest.drop n := by
  induction n generalizing p with
  | zero => rfl
  | succ n ih => rw [skip, ih, rest_step, List.drop_tail]

theorem skip_skip (m n : Nat) (p : Place) : (p.skip m).skip n = p.skip (m + n) := by
  induction m generalizing p with
  | zero => rw [Nat.zero_add]; rfl
  | succ m ih => rw [Nat.add_right_comm, skip, skip, ih]

theorem index_skip {n : Nat} (h : n ≤ p.rest.length) : (p.skip n).index = p.index + n := by
  induction n generalizing p with
  | zero => rfl
  | succ n ih =>
    have hne : p.rest ≠ [] := by
      rintro hnil
      simp [hnil] at h
    have hlen : n ≤ p.step.rest.length := by
      rw [rest_step, List.length_tail]
      omega
    rw [skip, ih hlen, index_step hne]
    omega

/-- A line goes on behind characters that do not end it. -/
theorem line_skip {n : Nat} (h : ∀ c ∈ p.rest.take n, isBreak c = false) :
    (p.skip n).line = p.line := by
  induction n generalizing p with
  | zero => rfl
  | succ n ih =>
    rcases hrest : p.rest with - | ⟨c, r⟩
    · have hstep : p.step = p := by rw [step, hrest]
      rw [skip, hstep, ih (by simp [hrest])]
    · rw [hrest, List.take_succ_cons] at h
      obtain ⟨hc, hr⟩ := List.forall_mem_cons.mp h
      rw [skip, ih (by rwa [rest_step, hrest]), line_step (by simpa [hrest] using hc)]

/-- A word ends where a character follows that does not belong to it. -/
theorem takeWhile_eq (hw : ∀ c ∈ w, f c = true) (ht : ∀ c ∈ t.head?, f c = false)
    (h : p.rest = w ++ t) : p.takeWhile f = (w, p.skip w.length) := by
  have hnone : t.takeWhile f = [] := by
    rcases t with - | ⟨c, t⟩
    · rfl
    · simp [ht c rfl]
  have hword : p.rest.takeWhile f = w := by
    rw [h, List.takeWhile_append_of_pos hw, hnone, List.append_nil]
  rw [takeWhile, hword]

theorem dropWhile_eq (hw : ∀ c ∈ w, f c = true) (ht : ∀ c ∈ t.head?, f c = false)
    (h : p.rest = w ++ t) : p.dropWhile f = p.skip w.length := by
  rw [dropWhile, takeWhile_eq hw ht h]

/-- No word begins with a character that does not belong to one. -/
theorem takeWhile_none (h : ∀ c ∈ p.rest.head?, f c = false) : p.takeWhile f = ([], p) :=
  takeWhile_eq (w := []) nofun h rfl

theorem dropWhile_none (h : ∀ c ∈ p.rest.head?, f c = false) : p.dropWhile f = p := by
  rw [dropWhile, takeWhile_none h]

theorem head_eq (h : p.rest = c :: t) : p.head = c := by
  rw [head, h]
  rfl

/-- A text that does not begin with a character does not have it at its head either. -/
theorem head_ne (hc : c ≠ endMark) (h : ∀ x ∈ p.rest.head?, x ≠ c) : p.head ≠ c := by
  rw [head]
  rcases hrest : p.rest with - | ⟨x, r⟩
  · exact hc.symm
  · exact h x (by rw [hrest]; rfl)

theorem head?_eq (h : p.rest = c :: t) {P : Char → Prop} (hc : P c) : ∀ x ∈ p.rest.head?, P x := by
  rw [h]
  exact fun x hx => Option.some.inj hx ▸ hc

/-- What follows a word that has been passed over. -/
theorem rest_skip_append (h : p.rest = w ++ t) : (p.skip w.length).rest = t := by
  rw [rest_skip, h, List.drop_left]

/-! ### Line breaks and markers -/

theorem lineBreak?_eq_none (h : ∀ c ∈ p.rest.head?, isBreak c = false) : p.lineBreak? = none := by
  rw [lineBreak?]
  rcases hrest : p.rest with - | ⟨c, r⟩
  · rfl
  · have hc : isBreak c = false := h c (by rw [hrest]; rfl)
    simp only [isBreak, Bool.or_eq_false_iff, beq_eq_false_iff_ne] at hc
    split <;> simp_all

theorem lineBreak?_newline (h : p.rest = '\n' :: t) : p.lineBreak? = some ('\n', p.step) := by
  rw [lineBreak?, h]
  rfl

/-- A line separator counts as itself. -/
theorem lineBreak?_separator (hc : c ∈ ['\u2028', '\u2029']) (h : p.rest = c :: t) :
    p.lineBreak? = some (c, p.step) := by
  simp only [List.mem_cons, List.not_mem_nil, or_false] at hc
  rcases hc with rfl | rfl <;> (rw [lineBreak?, h]; rfl)

/-- A document is marked by hyphens or by full stops. -/
theorem isAnyMarker_eq_false (h : ∀ c ∈ p.rest.head?, c ≠ '-' ∧ c ≠ '.') :
    p.isAnyMarker = false := by
  rcases hrest : p.rest with - | ⟨c, r⟩
  · simp [isAnyMarker, isMarker, head, hrest, endMark]
  · obtain ⟨hhyphen, hstop⟩ := h c (by rw [hrest]; rfl)
    simp [isAnyMarker, isMarker, head, hrest, hhyphen, hstop]

/-- No document is marked where layout stands, and what follows begins no marker. -/
theorem isAnyMarker_of_layout (hw : IsLayout w) (ht : ∀ c ∈ t.head?, c ≠ '-' ∧ c ≠ '.')
    (h : p.rest = w ++ t) : p.isAnyMarker = false := by
  refine isAnyMarker_eq_false fun c hc => ?_
  rw [h] at hc
  rcases w with - | ⟨x, w⟩
  · exact ht c hc
  · obtain rfl := Option.some.inj hc
    rcases hw x List.mem_cons_self with rfl | rfl <;> decide

end Place

end TermRef.Yaml
