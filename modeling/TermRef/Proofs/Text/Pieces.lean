/-
TermRef/Proofs/Text/Pieces.lean

The parts of a text between occurrences of a character.

A text without the character is one part (`cut_of_not_mem`), and a part that it ends is followed
by those of what comes after it (`cut_append_cons`).  Every text is the one or the other, so what
holds of all texts can be shown part by part (`cut_induction`).  With the character in between the
parts make up the text again (`join_cut`), and no other parts without it do (`cut_join`).

Where a part of a text has its first place, replacing it once replaces it there
(`replace_first`).
-/
import TermRef.Text.Pieces
import Mathlib.Data.List.Basic

namespace TermRef.Pieces

variable {x : Char} {l s w : List Char}

theorem cut_of_not_mem (h : x ∉ l) : cut x l = [l] := by
  induction l with
  | nil => rfl
  | cons c l ih =>
    have hc : ¬ (c == x) = true := fun hc => h (eq_of_beq hc ▸ List.mem_cons_self)
    rw [cut, if_neg hc, ih fun hm => h (List.mem_cons_of_mem _ hm)]

theorem cut_append_cons (h : x ∉ l) (r : List Char) : cut x (l ++ x :: r) = l :: cut x r := by
  induction l with
  | nil => simp [cut]
  | cons c l ih =>
    have hc : ¬ (c == x) = true := fun hc => h (eq_of_beq hc ▸ List.mem_cons_self)
    rw [List.cons_append, cut, if_neg hc, ih fun hm => h (List.mem_cons_of_mem _ hm)]

/-- What holds of texts without a character, and of what such a text makes with the character
and a text of which it holds, holds of all texts. -/
theorem cut_induction (x : Char) {P : List Char → Prop} (last : ∀ l, x ∉ l → P l)
    (more : ∀ l r, x ∉ l → P r → P (l ++ x :: r)) (s : List Char) : P s := by
  induction hn : s.length using Nat.strongRecOn generalizing s with
  | ind n ih =>
    by_cases hx : x ∈ s
    · obtain ⟨l, r, rfl, hl⟩ := List.eq_append_cons_of_mem hx
      refine more l r hl (ih r.length ?_ r rfl)
      rw [← hn, List.length_append, List.length_cons]
      omega
    · exact last s hx

/-- What stands before and behind the character is cut as it would be alone. -/
theorem cut_append (x : Char) (s r : List Char) : cut x (s ++ x :: r) = cut x s ++ cut x r := by
  induction s using cut_induction x with
  | last l hl => rw [cut_append_cons hl, cut_of_not_mem hl, List.singleton_append]
  | more l s hl ih =>
    rw [List.append_assoc, List.cons_append, cut_append_cons hl, cut_append_cons hl, ih,
      List.cons_append]

theorem cut_ne_nil (x : Char) (s : List Char) : cut x s ≠ [] := by
  induction s using cut_induction x with
  | last l hl => simp [cut_of_not_mem hl]
  | more l r hl => simp [cut_append_cons hl]

theorem not_mem_of_mem_cut (hw : w ∈ cut x s) : x ∉ w := by
  induction s using cut_induction x with
  | last l hl =>
    rw [cut_of_not_mem hl, List.mem_singleton] at hw
    exact hw ▸ hl
  | more l r hl ih =>
    rw [cut_append_cons hl] at hw
    rcases List.mem_cons.mp hw with rfl | hw
    · exact hl
    · exact ih hw

/-- The parts of a text are made of its characters. -/
theorem mem_of_mem_cut (hw : w ∈ cut x s) : ∀ c ∈ w, c ∈ s := by
  induction s using cut_induction x with
  | last l hl =>
    rw [cut_of_not_mem hl, List.mem_singleton] at hw
    exact hw ▸ fun _ hc => hc
  | more l r hl ih =>
    rw [cut_append_cons hl] at hw
    rcases List.mem_cons.mp hw with rfl | hw
    · exact fun _ hc => List.mem_append_left _ hc
    · exact fun c hc => List.mem_append_right _ (List.mem_cons_of_mem _ (ih hw c hc))

/-- Parts without the character are found again in what they make with it in between. -/
theorem cut_join {ps : List (List Char)} (hne : ps ≠ []) (h : ∀ w ∈ ps, x ∉ w) :
    cut x (join [x] ps) = ps := by
  induction ps with
  | nil => exact absurd rfl hne
  | cons w ps ih =>
    have hw : x ∉ w := h w List.mem_cons_self
    rcases ps with - | ⟨w', ps⟩
    · simpa [join] using cut_of_not_mem hw
    · have hrest := ih (by simp) fun v hv => h v (List.mem_cons_of_mem _ hv)
      rw [join] at hrest
      rw [join, List.intercalate_cons_cons, List.append_assoc, List.singleton_append,
        cut_append_cons hw, hrest]

/-- With the character in between the parts make up the text. -/
theorem join_cut (x : Char) (s : List Char) : join [x] (cut x s) = s := by
  induction s using cut_induction x with
  | last l hl => simp [cut_of_not_mem hl, join]
  | more l r hl ih =>
    obtain ⟨w, ws, hcut⟩ := List.exists_cons_of_ne_nil (cut_ne_nil x r)
    rw [cut_append_cons hl, hcut, join, List.intercalate_cons_cons, ← hcut, ← join, ih,
      List.append_assoc, List.singleton_append]

/-! ### First places -/

section First

variable {part a b : List Char}

/-- A part is found at a place if it is at none before. -/
theorem find?_append (hne : part ≠ [])
    (hfirst : ∀ a' b', a ++ part ++ b = a' ++ part ++ b' → a.length ≤ a'.length) :
    find? part (a ++ part ++ b) = some a.length := by
  induction a with
  | nil =>
    obtain ⟨c, p, rfl⟩ := List.exists_cons_of_ne_nil hne
    have hpre : (c :: p).isPrefixOf (c :: (p ++ b)) = true :=
      List.isPrefixOf_iff_prefix.mpr ⟨b, rfl⟩
    exact if_pos hpre
  | cons c a ih =>
    have hrest := ih fun a' b' h => Nat.le_of_succ_le_succ <|
      hfirst (c :: a') b' (by simpa using h)
    -- at the front it would have an earlier place
    have hpre : ¬ part.isPrefixOf (c :: (a ++ part ++ b)) = true := fun h => by
      obtain ⟨b', hb'⟩ := List.isPrefixOf_iff_prefix.mp h
      exact Nat.not_succ_le_zero _ (hfirst [] b' hb'.symm)
    rw [List.cons_append, List.cons_append, find?, if_neg hpre, hrest, Option.map_some,
      List.length_cons]

/-- Without a limit left the text stays in one part. -/
theorem splitFrom_zero (sep : List Char) (fuel : Nat) (s : List Char) :
    splitFrom sep fuel 0 s = [s] := by
  cases fuel <;> rfl

/-- Replacing a part once replaces it at its first place. -/
theorem replace_first (hne : part ≠ [])
    (hfirst : ∀ a' b', a ++ part ++ b = a' ++ part ++ b' → a.length ≤ a'.length)
    (new : List Char) : replace part new (some 1) (a ++ part ++ b) = a ++ new ++ b := by
  have hcut : cutAt? part (a ++ part ++ b) = some (a, b) := by
    rw [cutAt?, find?_append hne hfirst, Option.map_some, List.append_assoc, List.take_left,
      ← List.append_assoc, ← List.length_append, List.drop_left]
  have hempty : ¬ part.isEmpty = true := by simpa using hne
  rw [replace, if_neg hempty, split, limitFor, Option.getD_some, splitFrom, hcut]
  simp [splitFrom_zero, join]

end First

end TermRef.Pieces
