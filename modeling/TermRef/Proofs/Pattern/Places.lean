/-
TermRef/Proofs/Pattern/Places.lean

Where in the text of a pattern something begins that is read on its own.

Such a place is outside of sets, of comments and of escapes (`Outside`).  Whether a number sign
begins a comment there hangs on the verbose form, which flags switch on and off for a group or for
the rest of the pattern; so a place comes with what holds of it and of every group around it.  From
the bracket that opens a set the text is followed through the set (`setPlace`, `Inside`).

A pattern is `Guarded` if no opener that would be rewritten stands behind a backslash or in a set,
at such a place.  In a comment one may stand, and in what follows a bracket that opens no set.
-/
import TermRef.Proofs.Pattern.Renaming

namespace TermRef.Pattern

open Grammar

/-! ### Sets -/

/-- How far a reader has come in a set. -/
inductive SetPlace where
  | start
  | negated
  | within
  | escaped
  | closed
  deriving DecidableEq, Repr

/-- Where a set stands after one more character.  A closing bracket is its first member or ends
it. -/
def SetPlace.next (p : SetPlace) (c : Char) : SetPlace :=
  match p with
  | .start => if c = '^' then .negated else if c = '\\' then .escaped else .within
  | .negated => if c = '\\' then .escaped else .within
  | .within => if c = '\\' then .escaped else if c = ']' then .closed else .within
  | .escaped => .within
  | .closed => .closed

/-- The place in a set after the text behind its opening bracket. -/
def setPlace (u : List Char) : SetPlace := u.foldl SetPlace.next .start

theorem setPlace_append_singleton (u : List Char) (c : Char) :
    setPlace (u ++ [c]) = (setPlace u).next c := by
  rw [setPlace, List.foldl_append]
  rfl

/-! ### Places -/

/-- The letter of a flag. -/
def isFlag (c : Char) : Bool := (({} : Flags).add c).isSome

/-- `t` is what is left of the text where something begins that is read on its own.  The truth
values say whether the verbose form is in force, first for the place and then for each group
around it. -/
inductive Outside (src : List Char) : List Bool → List Char → Prop
  | start : Outside src [false] src
  /-- Behind a character that is no mark. -/
  | plain {vs c t} : Outside src vs (c :: t) → c ∉ marks → Outside src vs t
  /-- Behind a bracket that closes nothing. -/
  | bracket {vs t} : Outside src vs (']' :: t) → Outside src vs t
  /-- Behind a number sign that is a character like any other. -/
  | sign {vs t} : Outside src (false :: vs) ('#' :: t) → Outside src (false :: vs) t
  /-- Behind a comment to the end of the line. -/
  | line {vs t r} : Outside src (true :: vs) ('#' :: t) → dropPast '\n' (some []) t = some r →
      Outside src (true :: vs) r
  /-- Behind an escape. -/
  | escape {vs c t} : Outside src vs ('\\' :: c :: t) → Outside src vs t
  /-- Behind a set. -/
  | set {vs u t} : Outside src vs ('[' :: (u ++ ']' :: t)) → setPlace u = .within →
      Outside src vs t
  /-- Behind a comment in parentheses. -/
  | comment {vs t r} : Outside src vs ('(' :: '?' :: '#' :: t) → dropPast ')' none t = some r →
      Outside src vs r
  /-- In a group. -/
  | group {v vs t} : Outside src (v :: vs) ('(' :: t) → t.head? ≠ some '?' →
      Outside src (v :: v :: vs) t
  /-- In a group of another kind, where its kind is said. -/
  | kind {v vs c t} : Outside src (v :: vs) ('(' :: '?' :: c :: t) →
      c ≠ '#' → c ≠ '-' → isFlag c = false → Outside src (v :: v :: vs) (c :: t)
  /-- In a group with flags that are switched on. -/
  | switched {v vs on t} : Outside src (v :: vs) ('(' :: '?' :: (on ++ ':' :: t)) →
      on.all isFlag = true → Outside src ((v || on.contains 'x') :: v :: vs) t
  /-- In a group with flags of which some are switched off. -/
  | switchedOff {v vs on off t} :
      Outside src (v :: vs) ('(' :: '?' :: (on ++ '-' :: (off ++ ':' :: t))) →
      on.all isFlag = true → off.all isFlag = true →
      Outside src (((v || on.contains 'x') && !off.contains 'x') :: v :: vs) t
  /-- Behind flags for the rest of the pattern. -/
  | flags {v vs on t} : Outside src (v :: vs) ('(' :: '?' :: (on ++ ')' :: t)) →
      on.all isFlag = true → Outside src ((v || on.contains 'x') :: vs) t
  /-- Behind a group. -/
  | close {v vs t} : Outside src (v :: vs) (')' :: t) → Outside src vs t

/-- No opener stands behind a backslash or in a set. -/
structure Guarded (src : List Char) : Prop where
  escaped : ∀ vs t, Outside src vs ('\\' :: '(' :: t) → ¬ Opens t
  member : ∀ vs u t, Outside src vs ('[' :: (u ++ '(' :: t)) → setPlace u ≠ .closed → ¬ Opens t

namespace Outside

variable {src : List Char} {vs : List Bool} {t : List Char}

theorem lasting (src : List Char) (vs : List Bool) : Lasting (Outside src vs) :=
  fun _ _ hc h => .plain h hc

/-- The kind of a group is passed over if a character says it that is no mark. -/
theorem kind_plain {v : Bool} {c : Char} (h : Outside src (v :: vs) ('(' :: '?' :: c :: t))
    (hc : c ∉ '-' :: marks) (hflag : isFlag c = false) : Outside src (v :: v :: vs) t := by
  obtain ⟨hminus, hmark⟩ := not_or.mp (mt List.mem_cons.mpr hc)
  refine (h.kind (fun hsign => hmark ?_) hminus hflag).plain hmark
  rw [hsign]
  decide

/-- A character that opens nothing and closes no group stands for itself. -/
theorem literal {v : Bool} {c : Char} (h : Outside src (v :: vs) (c :: t)) (hescape : c ≠ '\\')
    (hset : c ≠ '[') (hgroup : c ≠ '(') (hclose : c ≠ ')') (hsign : (v && c == '#') = false) :
    Outside src (v :: vs) t := by
  by_cases hbracket : c = ']'
  · subst hbracket
    exact h.bracket
  · by_cases hnumber : c = '#'
    · subst hnumber
      obtain rfl : v = false := by simpa using hsign
      exact h.sign
    · exact h.plain (by simp [marks, hescape, hset, hgroup, hclose, hbracket, hnumber])

/-- Names and numerals are passed over. -/
theorem name {name r : List Char} (h : Outside src vs (name ++ r))
    (hname : ∀ c ∈ marks, c ∉ name) : Outside src vs r := by
  induction name with
  | nil => exact h
  | cons c name ih =>
    have hc : c ∉ marks := fun hmark => hname c hmark List.mem_cons_self
    exact ih (h.plain hc) fun d hd hmem => hname d hd (List.mem_cons_of_mem _ hmem)

end Outside

/-! ### Places in a set -/

/-- The place of a reader in a set. -/
inductive Inside (src : List Char) (vs : List Bool) (p : SetPlace) (t : List Char) : Prop where
  | intro (u : List Char) (begun : Outside src vs ('[' :: (u ++ t))) (place : setPlace u = p)

namespace Inside

variable {src : List Char} {vs : List Bool} {p : SetPlace} {c : Char} {t : List Char}

theorem next (h : Inside src vs p (c :: t)) : Inside src vs (p.next c) t := by
  obtain ⟨u, h, rfl⟩ := h
  refine ⟨u ++ [c], ?_, setPlace_append_singleton u c⟩
  rwa [List.append_assoc]

theorem not_opens (hg : Guarded src) (hp : p ≠ .closed) (h : Inside src vs p ('(' :: t)) :
    ¬ Opens t := by
  obtain ⟨u, h, rfl⟩ := h
  exact hg.member vs u t h hp

/-- A closing bracket behind a member ends the set. -/
theorem closes (h : Inside src vs .within (']' :: t)) : Outside src vs t := by
  obtain ⟨u, h, hu⟩ := h
  exact h.set hu

theorem lasting (src : List Char) (vs : List Bool) : Lasting (Inside src vs .within) := by
  intro c t hc h
  have hescape : c ≠ '\\' := fun h => hc (h ▸ by decide)
  have hclose : c ≠ ']' := fun h => hc (h ▸ by decide)
  simpa [SetPlace.next, hescape, hclose] using h.next

end Inside

/-- The first member of the set comes next. -/
def AtFirst (src : List Char) (vs : List Bool) (t : List Char) : Prop :=
  Inside src vs .negated t ∨ Inside src vs .start t ∧ t.head? ≠ some '^'

/-- A member of the set comes next, or its end. -/
def AtMember (src : List Char) (vs : List Bool) (t : List Char) : Prop :=
  AtFirst src vs t ∨ Inside src vs .within t

section Members

variable {src : List Char} {vs : List Bool} {c : Char} {t : List Char}

/-- Even a closing bracket is a member at first. -/
theorem AtFirst.next (h : AtFirst src vs (c :: t)) (hc : c ≠ '\\') : Inside src vs .within t := by
  rcases h with h | ⟨h, hcaret⟩
  · simpa [SetPlace.next, hc] using h.next
  · have hcaret : c ≠ '^' := fun h => hcaret (congrArg some h)
    simpa [SetPlace.next, hc, hcaret] using h.next

theorem AtMember.next (h : AtMember src vs (c :: t)) (hc : c ≠ '\\') (hclose : c ≠ ']') :
    Inside src vs .within t := by
  rcases h with h | h
  · exact h.next hc
  · simpa [SetPlace.next, hc, hclose] using h.next

/-- The place is one where no set is closed. -/
theorem AtMember.inside (h : AtMember src vs t) : ∃ p, Inside src vs p t ∧
    (p = .negated ∨ p = .start ∨ p = .within) := by
  rcases h with (h | ⟨h, -⟩) | h
  · exact ⟨_, h, .inl rfl⟩
  · exact ⟨_, h, .inr (.inl rfl)⟩
  · exact ⟨_, h, .inr (.inr rfl)⟩

theorem AtMember.escaped (h : AtMember src vs ('\\' :: c :: t)) : Inside src vs .within t := by
  obtain ⟨p, h, rfl | rfl | rfl⟩ := h.inside
  · exact h.next.next
  · exact h.next.next
  · exact h.next.next

theorem AtMember.not_opens (hg : Guarded src) (h : AtMember src vs ('(' :: t)) : ¬ Opens t := by
  obtain ⟨p, h, hp⟩ := h.inside
  refine h.not_opens hg ?_
  rcases hp with rfl | rfl | rfl <;> decide

theorem AtMember.not_opens_escaped (hg : Guarded src) (h : AtMember src vs ('\\' :: '(' :: t)) :
    ¬ Opens t := by
  obtain ⟨p, h, hp⟩ := h.inside
  refine h.next.not_opens hg ?_
  rcases hp with rfl | rfl | rfl <;> decide

end Members

/-! ### Where places lie -/

section Suffixes

variable {src : List Char} {vs : List Bool} {t : List Char}

theorem dropPast_suffix {stop : Char} {atEnd : Option (List Char)} {t r : List Char}
    (hend : ∀ r, atEnd = some r → r = []) (h : dropPast stop atEnd t = some r) : r <:+ t := by
  fun_induction dropPast stop atEnd t with
  | case1 =>
    obtain rfl := hend r h
    exact List.suffix_rfl
  | case2 => cases h
  | case3 c t ih => exact (ih h).trans ⟨['\\', c], rfl⟩
  | case4 c t hescape hc =>
    cases h
    exact List.suffix_cons c r
  | case5 c t _ _ _ ih => exact (ih h).trans (List.suffix_cons c t)

/-- Every place lies behind an earlier one, and behind an escape if that begins with one. -/
theorem Outside.rec_suffix {P : List Char → Prop} (hstart : P src)
    (hnext : ∀ c t r, P (c :: t) → r <:+ t → (c = '\\' → r <:+ t.tail) → P r)
    (h : Outside src vs t) : P t := by
  -- nothing but an escape begins with a backslash
  have hplain : ∀ {c t r}, c ≠ '\\' → P (c :: t) → r <:+ t → P r := fun hc hp hr =>
    hnext _ _ _ hp hr fun h => absurd h hc
  induction h with
  | start => exact hstart
  | plain _ hc ih =>
    refine hplain ?_ ih List.suffix_rfl
    rintro rfl
    exact hc (by decide)
  | bracket _ ih => exact hplain (by decide) ih List.suffix_rfl
  | sign _ ih => exact hplain (by decide) ih List.suffix_rfl
  | line _ hdrop ih => exact hplain (by decide) ih (dropPast_suffix (by simp) hdrop)
  | escape _ ih => exact hnext _ _ _ ih (List.suffix_cons _ _) fun _ => List.suffix_rfl
  | @set _ u _ _ _ ih => exact hplain (by decide) ih ⟨u ++ [']'], by simp⟩
  | comment _ hdrop ih =>
    have hbehind := dropPast_suffix (by simp) hdrop
    exact hplain (by decide) ih (hbehind.trans ⟨['?', '#'], rfl⟩)
  | group _ _ ih => exact hplain (by decide) ih List.suffix_rfl
  | kind _ _ _ _ ih => exact hplain (by decide) ih (List.suffix_cons _ _)
  | @switched _ _ on _ _ _ ih => exact hplain (by decide) ih ⟨'?' :: (on ++ [':']), by simp⟩
  | @switchedOff _ _ on off _ _ _ _ ih =>
    exact hplain (by decide) ih ⟨'?' :: (on ++ '-' :: (off ++ [':'])), by simp⟩
  | @flags _ _ on _ _ _ ih => exact hplain (by decide) ih ⟨'?' :: (on ++ [')']), by simp⟩
  | close _ ih => exact hplain (by decide) ih List.suffix_rfl

/-- No place is right behind the backslash that a text begins with. -/
theorem Outside.suffix_escape {c : Char} {r : List Char} (h : Outside ('\\' :: c :: r) vs t) :
    t = '\\' :: c :: r ∨ t <:+ r := by
  refine h.rec_suffix (P := fun u => u = '\\' :: c :: r ∨ u <:+ r) (.inl rfl) ?_
  intro d t u ht hu hescape
  right
  rcases ht with heq | ht
  · obtain ⟨rfl, rfl⟩ := List.cons.inj heq
    exact hescape rfl
  · exact hu.trans ((List.suffix_cons d t).trans ht)

end Suffixes

end TermRef.Pattern
