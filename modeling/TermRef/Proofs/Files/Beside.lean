/-
TermRef/Proofs/Files/Beside.lean

Writing files in trees that differ elsewhere.

A tree beside another one has the same at the places of a path, or a directory where there was
nothing and where writing to the path would make one itself (`Beside`).  Then bytes can be written
in both or in neither (`Beside.admits_iff`), and what is changed in the one is what is changed in
the other (`Beside.item?_eq`).  The error is the same as well, if nothing that bars the way lies
behind a place where nothing is (`Beside.error_eq`); else the walk may be told in one tree that
nothing is there, where in the other it goes on to what bars the way.

What touches one path keeps a tree beside the one before, seen from a path apart (`Beside.step`), and
agrees with what touches that one on what both change (`Apart.agree`).  Paths below one directory
are apart unless the one leads through the other (`apart_below`).
-/
import Mathlib.Tactic.ByContra
import TermRef.Proofs.Files.Delivery

namespace TermRef

namespace FileTree

variable {t s u v : FileTree} {p q : Path} {b : List UInt8} {up : List String} {name : String}

/-! ### Trees beside each other -/

/-- In a tree beside another one, the places of a path are what they are in the other, or
directories where there was nothing; at the place of the path itself only if the way leads through
it as well. -/
structure Beside (t s : FileTree) (p : Path) : Prop where
  here : s.here = t.here
  way : ∀ x ∈ t.wayTo p, Becomes x t s none
  place : Becomes (t.placeOf p) t s none
  apart : s.item? (t.placeOf p) ≠ t.item? (t.placeOf p) → t.placeOf p ∈ t.wayTo p

/-- A directory bars nothing, and neither does a place where nothing is. -/
theorem Becomes.bars_eq {x : Place} (h : Becomes x t s none) : s.bars x = t.bars x := by
  rcases h with heq | ⟨hnone, hdir⟩
  · rw [bars, bars, heq]
  · rw [bars, bars, hnone, hdir]

/-- Nothing that bars the way to a path lies behind a place where nothing is. -/
def Unhidden (t : FileTree) (p : Path) : Prop :=
  (t.wayTo p).Pairwise fun x y => t.bars y = true → t.item? x ≠ none

/-- What bars the way first stands behind directories. -/
theorem Unhidden.exists_barred (hun : t.Unhidden p) (hparts : p.parts = up ++ [name])
    (hopen : ¬ ∀ x ∈ t.wayTo p, t.bars x = false) :
    ∃ before obstacle after, up = before ++ obstacle :: after ∧ obstacle ≠ ".." ∧
      (∀ x ∈ steps (t.startAt p.anchor) before, t.Clear x) ∧
      t.bars (before.foldl Path.follow (t.startAt p.anchor) ++ [obstacle]) = true ∧
      before.foldl Path.follow (t.startAt p.anchor) ++ [obstacle] ∈ t.wayTo p := by
  rw [Unhidden, wayTo_of_parts hparts] at hun
  rw [wayTo_of_parts hparts] at hopen ⊢
  rcases exists_obstacle t (t.startAt p.anchor) up with
    hclear | ⟨before, obstacle, after, rfl, hdots, hclear, hnot⟩
  · exact absurd (fun x hx => (hclear x hx).1) hopen
  · rw [steps_append_name _ _ hdots] at hun hopen ⊢
    refine ⟨before, obstacle, after, rfl, hdots, hclear, ?_, by simp⟩
    by_contra hpast
    have hfree := Bool.eq_false_iff.mpr hpast
    -- nothing is there, and then nothing behind it bars the way
    have hnone : t.item? (before.foldl Path.follow (t.startAt p.anchor) ++ [obstacle]) = none := by
      rcases hitem : t.item? (before.foldl Path.follow (t.startAt p.anchor) ++ [obstacle]) with
        - | (b | -)
      · rfl
      · exact absurd (bars_append.mpr (.inr ⟨b, hitem⟩)) hpast
      · exact absurd ⟨hfree, hitem⟩ hnot
    have hbehind := (List.pairwise_cons.mp (List.pairwise_append.mp hun).2.1).1
    refine hopen fun x hx => ?_
    rcases List.mem_append.mp hx with hx | hx
    · exact (hclear x hx).1
    · rcases List.mem_cons.mp hx with rfl | hx
      · exact hfree
      · exact Bool.eq_false_iff.mpr fun hbars => hbehind x hx hbars hnone

theorem takeWhile_congr {α : Type} {f g : α → Bool} {l : List α} (h : ∀ x ∈ l, f x = g x) :
    l.takeWhile f = l.takeWhile g := by
  induction l with
  | nil => rfl
  | cons x l ih =>
    rw [List.takeWhile_cons, List.takeWhile_cons, h x List.mem_cons_self,
      ih fun y hy => h y (List.mem_cons_of_mem _ hy)]

/-- What is at a place in another tree, if something else is there. -/
def newIn (t u : FileTree) (x : Place) : Option Item :=
  if u.item? x = t.item? x then none else u.item? x

namespace Beside

theorem refl (t : FileTree) (p : Path) : t.Beside t p :=
  ⟨rfl, fun _ _ => .inl rfl, .inl rfl, fun h => absurd rfl h⟩

variable (h : t.Beside s p)
include h

theorem startAt_eq (a : Anchor) : s.startAt a = t.startAt a := by rw [startAt, startAt, h.here]

theorem wayTo_eq : s.wayTo p = t.wayTo p := by rw [wayTo, wayTo, h.startAt_eq]

theorem placeOf_eq : s.placeOf p = t.placeOf p := by rw [placeOf, placeOf, h.startAt_eq]

theorem bars_eq {x : Place} (hx : x ∈ t.wayTo p) : s.bars x = t.bars x := (h.way x hx).bars_eq

theorem madeFor_eq : s.madeFor p = t.madeFor p := by
  rw [madeFor, madeFor, h.wayTo_eq, openPart, openPart,
    takeWhile_congr fun x hx => by rw [h.bars_eq hx]]

/-- **Bytes can be written in both trees or in neither.** -/
theorem admits_iff : s.Admits p ↔ t.Admits p := by
  have hway : (∀ x ∈ s.wayTo p, s.bars x = false) ↔ ∀ x ∈ t.wayTo p, t.bars x = false := by
    rw [h.wayTo_eq]
    exact forall₂_congr fun x hx => by rw [h.bars_eq hx]
  constructor
  · intro ha
    refine ⟨ha.short, hway.mp ha.way, ha.name, fun hdir => ?_, ?_⟩
    · refine ha.place ?_
      rw [h.placeOf_eq]
      rcases h.place with heq | ⟨hnone, -⟩
      · rw [heq, hdir]
      · rw [hdir] at hnone
        cases hnone
    · have hapart := ha.apart
      rwa [h.placeOf_eq, h.wayTo_eq] at hapart
  · intro ha
    have hsame : s.item? (t.placeOf p) = t.item? (t.placeOf p) :=
      Decidable.not_not.mp fun hne => ha.apart (h.apart hne)
    refine ⟨ha.short, hway.mpr ha.way, ha.name, ?_, ?_⟩
    · rw [h.placeOf_eq, hsame]
      exact ha.place
    · rw [h.placeOf_eq, h.wayTo_eq]
      exact ha.apart

/-- **What a writing changes in one tree it changes in the other**, and nothing else. -/
theorem item?_eq {r r' : FileTree × Option FileError} (hr : t.Writes p b r) (hr' : s.Writes p b r')
    (x : Place) : r'.1.item? x = (t.newIn r.1 x).or (s.item? x) := by
  rw [newIn]
  by_cases hplace : t.Admits p ∧ x = t.placeOf p
  · obtain ⟨ha, rfl⟩ := hplace
    have hstored' := hr'.stored (h.admits_iff.mpr ha)
    rw [h.placeOf_eq] at hstored'
    rw [hr.stored ha, hstored']
    split
    · rename_i hsame
      rw [Option.none_or, Decidable.not_not.mp fun hne => ha.apart (h.apart hne), ← hsame]
    · rfl
  · have hitem := hr.item? x fun ha hx => hplace ⟨ha, hx⟩
    have hitem' := hr'.item? x fun ha hx => hplace ⟨h.admits_iff.mp ha, hx.trans h.placeOf_eq⟩
    rw [h.madeFor_eq] at hitem'
    rw [hitem, hitem']
    by_cases hmade : x ∈ t.madeFor p
    · rcases h.way x (mem_wayTo_of_madeFor hmade) with heq | ⟨hnone, hdir⟩
      · rw [heq]
        by_cases hnone : t.item? x = none
        · simp [hnone, hmade]
        · simp [hnone]
      · simp [hnone, hdir, hmade]
    · simp [hmade]

/-- **The error is the same in both trees**, if nothing that bars the way is hidden. -/
theorem error_eq (hparts : p.parts = up ++ [name]) (hp : p.Proper) (hdots : name ≠ "..")
    (hun : t.Unhidden p) (b : List UInt8) :
    (Run.writeBytes s p b).2 = (Run.writeBytes t p b).2 := by
  by_cases hlimit : pathLimit < p.parent.text.utf8ByteSize
  · rw [Run.writeBytes, Run.writeBytes, provide_of_long hp.parent hlimit,
      provide_of_long hp.parent hlimit]
  by_cases hopen : ∀ x ∈ t.wayTo p, t.bars x = false
  · have hopen' : ∀ x ∈ s.wayTo p, s.bars x = false := by
      rw [h.wayTo_eq]
      exact fun x hx => (h.bars_eq hx).trans (hopen x hx)
    obtain ⟨u, -, hplace, hwrite⟩ := writeBytes_of_open hparts hp hdots hlimit hopen b
    obtain ⟨v, -, hplace', hwrite'⟩ := writeBytes_of_open hparts hp hdots hlimit hopen' b
    rw [h.placeOf_eq, h.wayTo_eq] at hplace'
    rw [h.placeOf_eq] at hwrite'
    have hsame : v.item? (t.placeOf p) = some .directory ↔
        u.item? (t.placeOf p) = some .directory := by
      rw [hplace, hplace']
      by_cases hmem : t.placeOf p ∈ t.wayTo p
      · simp [hmem]
      · rw [Decidable.not_not.mp fun hne => hmem (h.apart hne)]
    rw [hwrite, hwrite']
    by_cases hlong : pathLimit < p.text.utf8ByteSize ∨ nameLimit < p.name.utf8ByteSize
    · rw [if_pos hlong, if_pos hlong]
    · rw [if_neg hlong, if_neg hlong]
      by_cases hdir : u.item? (t.placeOf p) = some .directory
      · rw [if_pos hdir, if_pos (hsame.mpr hdir)]
      · rw [if_neg hdir, if_neg fun hdir' => hdir (hsame.mp hdir')]
  · obtain ⟨before, obstacle, after, hsplit, hdots', hclear, hbars, hmem⟩ :=
      hun.exists_barred hparts hopen
    have hparent : p.parent.parts = before ++ obstacle :: after := by
      rw [parent_of_parts hparts]
      exact hsplit
    have hclear' : ∀ x ∈ steps (s.startAt p.anchor) before, s.Clear x := by
      rw [h.startAt_eq]
      intro x hx
      have hway : x ∈ t.wayTo p := by
        rw [wayTo_of_parts hparts, hsplit, steps_append]
        exact List.mem_append_left _ hx
      refine ⟨(h.bars_eq hway).trans (hclear x hx).1, ?_⟩
      rcases h.way x hway with heq | ⟨-, hdir⟩
      · exact heq.trans (hclear x hx).2
      · exact hdir
    have hbars' : s.bars (before.foldl Path.follow (s.startAt p.anchor) ++ [obstacle]) = true := by
      rw [h.startAt_eq, h.bars_eq hmem, hbars]
    rw [Run.writeBytes, Run.writeBytes,
      provide_barred hp.parent hlimit hparent hdots' hclear hbars,
      provide_barred hp.parent hlimit hparent hdots' hclear' hbars']

end Beside

/-! ### Paths apart -/

/-- Two paths lead to different places, and the way of neither leads through the place of the
other, unless that one's own way does. -/
structure Apart (t : FileTree) (p q : Path) : Prop where
  ne : t.placeOf p ≠ t.placeOf q
  left : t.placeOf q ∈ t.wayTo p → t.placeOf q ∈ t.wayTo q
  right : t.placeOf p ∈ t.wayTo q → t.placeOf p ∈ t.wayTo p

theorem Apart.symm (h : t.Apart p q) : t.Apart q p := ⟨h.ne.symm, h.right, h.left⟩

theorem newIn_eq_some {x : Place} {i : Item} (h : t.newIn u x = some i) :
    u.item? x ≠ t.item? x ∧ u.item? x = some i := by
  rw [newIn] at h
  split at h
  · cases h
  · exact ⟨‹_›, h⟩

/-- Where something is, nothing else can come but at the place of the path. -/
theorem Touches.newIn_eq_none (h : t.Touches p u) {x : Place} {i : Item} (hi : t.item? x = some i)
    (hx : i = .directory ∨ x ≠ t.placeOf p) : t.newIn u x = none := by
  rw [newIn, if_pos]
  by_contra hne
  rcases h x hne with ⟨ha, rfl⟩ | ⟨-, hnone, -⟩
  · rcases hx with rfl | hx
    · exact ha.place hi
    · exact hx rfl
  · rw [hi] at hnone
    cases hnone

/-- **What touches one path keeps a tree beside the one before, seen from a path apart.** -/
theorem Beside.step (h : t.Beside s q) (hu : t.Touches p u) (hapart : t.Apart p q)
    (hhere : v.here = s.here) (hv : ∀ x, v.item? x = (t.newIn u x).or (s.item? x)) :
    t.Beside v q := by
  have hkeeps : ∀ x, x ∈ t.wayTo q ∨ x = t.placeOf q → v.item? x = s.item? x ∨
      x ∈ t.wayTo p ∧ t.item? x = none ∧ v.item? x = some .directory := by
    intro x hx
    rcases hnew : t.newIn u x with - | i
    · exact .inl (by rw [hv, hnew, Option.none_or])
    · obtain ⟨hne, hi⟩ := newIn_eq_some hnew
      rcases hu x hne with ⟨ha, rfl⟩ | ⟨hmem, hnone, hdir⟩
      · rcases hx with hx | hx
        · exact absurd (hapart.right hx) ha.apart
        · exact absurd hx hapart.ne
      · refine .inr ⟨hmem, hnone, ?_⟩
        rw [hv, hnew, ← hi, hdir]
        rfl
  refine ⟨hhere.trans h.here, fun x hx => ?_, ?_, fun hne => ?_⟩
  · rcases hkeeps x (.inl hx) with hsame | ⟨-, hnone, hdir⟩
    · exact (h.way x hx).imp hsame.trans fun hmade => ⟨hmade.1, hsame.trans hmade.2⟩
    · exact .inr ⟨hnone, hdir⟩
  · rcases hkeeps _ (.inr rfl) with hsame | ⟨-, hnone, hdir⟩
    · exact h.place.imp hsame.trans fun hmade => ⟨hmade.1, hsame.trans hmade.2⟩
    · exact .inr ⟨hnone, hdir⟩
  · rcases hkeeps _ (.inr rfl) with hsame | ⟨hmem, -, -⟩
    · exact h.apart fun heq => hne (hsame.trans heq)
    · exact hapart.left hmem

/-- What touches one path and what touches another one apart agree on what both have changed. -/
theorem Apart.agree (h : t.Apart p q) (hu : t.Touches p u) (hv : t.Touches q v) {x : Place}
    {i j : Item} (hi : t.newIn u x = some i) (hj : t.newIn v x = some j) : i = j := by
  obtain ⟨hne, hi⟩ := newIn_eq_some hi
  obtain ⟨hne', hj⟩ := newIn_eq_some hj
  rcases hu x hne with ⟨ha, rfl⟩ | ⟨hmem, -, hdir⟩
  · rcases hv _ hne' with ⟨-, hx⟩ | ⟨hmem, -, -⟩
    · exact absurd hx h.ne
    · exact absurd (h.right hmem) ha.apart
  · rcases hv x hne' with ⟨ha, rfl⟩ | ⟨-, -, hdir'⟩
    · exact absurd (h.left hmem) ha.apart
    · rw [hi, Option.some.injEq] at hdir
      rw [hj, Option.some.injEq] at hdir'
      rw [hdir, hdir']

/-! ### Paths below one directory -/

theorem foldl_follow_of_not_mem {parts : List String} (h : ".." ∉ parts) (x : Place) :
    parts.foldl Path.follow x = x ++ parts := by
  induction parts generalizing x with
  | nil => simp
  | cons part parts ih =>
    obtain ⟨hpart, hparts⟩ := not_or.mp (List.mem_cons.not.mp h)
    rw [List.foldl_cons, Path.follow, if_neg (Ne.symm hpart), ih hparts]
    simp

/-- Without two dots, names lead through the places that they name one after the other. -/
theorem mem_steps_of_not_mem {parts : List String} (h : ".." ∉ parts) {x y : Place}
    (hy : y ∈ steps x parts) : ∃ pre, pre <+: parts ∧ y = x ++ pre := by
  induction parts generalizing x with
  | nil => cases hy
  | cons part parts ih =>
    obtain ⟨hpart, hparts⟩ := not_or.mp (List.mem_cons.not.mp h)
    rw [steps, if_neg (Ne.symm hpart)] at hy
    rcases List.mem_cons.mp hy with rfl | hy
    · exact ⟨[part], by simp, rfl⟩
    · obtain ⟨pre, hpre, rfl⟩ := ih hparts hy
      exact ⟨part :: pre, List.cons_prefix_cons.mpr ⟨rfl, hpre⟩, by simp⟩

section Below

variable {base : Path} {rel rel' : List String}

theorem placeOf_below (h : ".." ∉ rel) : t.placeOf (base.below rel) = t.placeOf base ++ rel := by
  rw [placeOf, Path.below, List.foldl_append, foldl_follow_of_not_mem h]
  rfl

theorem wayTo_below (hne : rel ≠ []) : t.wayTo (base.below rel) =
    steps (t.startAt base.anchor) base.parts ++ steps (t.placeOf base) rel.dropLast := by
  rw [wayTo, Path.below, List.dropLast_append_of_ne_nil hne, steps_append]
  rfl

/-- The way to a path below a directory leads through the place of another one only if the path
leads through the other, or the way to the directory does. -/
theorem wayTo_below_of_mem (h : ".." ∉ rel) (h' : ".." ∉ rel') (hne : rel ≠ []) (hne' : rel' ≠ [])
    (hpre : ¬ rel' <+: rel) (hmem : t.placeOf (base.below rel') ∈ t.wayTo (base.below rel)) :
    t.placeOf (base.below rel') ∈ t.wayTo (base.below rel') := by
  rw [wayTo_below hne, placeOf_below h'] at hmem
  rw [wayTo_below hne', placeOf_below h']
  rcases List.mem_append.mp hmem with hmem | hmem
  · exact List.mem_append_left _ hmem
  · obtain ⟨pre, hpre', heq⟩ :=
      mem_steps_of_not_mem (fun hdots => h (List.dropLast_subset _ hdots)) hmem
    obtain rfl := List.append_cancel_left heq
    exact absurd (hpre'.trans (List.dropLast_prefix _)) hpre

/-- **Paths below one directory are apart**, unless one of them leads through the other. -/
theorem apart_below (t : FileTree) (base : Path) (h : ".." ∉ rel) (h' : ".." ∉ rel')
    (hne : rel ≠ []) (hne' : rel' ≠ []) (hpre : ¬ rel <+: rel') (hpre' : ¬ rel' <+: rel) :
    t.Apart (base.below rel) (base.below rel') where
  ne := by
    rw [placeOf_below h, placeOf_below h']
    exact fun heq => hpre (List.append_cancel_left heq ▸ List.prefix_rfl)
  left := wayTo_below_of_mem h h' hne hne' hpre'
  right := wayTo_below_of_mem h' h hne' hne hpre

end Below

end FileTree

end TermRef
