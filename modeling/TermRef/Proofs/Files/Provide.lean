/-
TermRef/Proofs/Files/Provide.lean

What is made for a path, place by place.

The directories that lead to a path are made one after the other, as long as nothing bars the way:
what has been made are the places before the first one that bars it, where there was nothing
(`Provided`).  There is no error if and only if nothing bars the way.  This is an induction over
the parts of the path (`provided_provide`), whose step hangs on the first place without a
directory: nothing is there, and then the parts before are seen to first, or it bars the way, and
then nothing is made (`provide_barred`).
-/
import TermRef.Proofs.Files.Way
import Mathlib.Data.List.Induction
import Mathlib.Data.List.TakeWhile

namespace TermRef

namespace FileTree

variable {t u : FileTree} {name : String}

/-! ### Providing -/

/-- Places up to the first one that bars the way. -/
def openPart (t : FileTree) (ws : List Place) : List Place := ws.takeWhile fun x => !t.bars x

/-- Directories have been made at the places of a way, up to the first one that bars it. -/
structure Provided (t : FileTree) (ws : List Place) (r : FileTree × Option FileError) : Prop where
  here : r.1.here = t.here
  item? : ∀ x, r.1.item? x =
    if t.item? x = none ∧ x ∈ t.openPart ws then some .directory else t.item? x
  error : r.2 = none ↔ ∀ x ∈ ws, t.bars x = false

theorem openPart_append {ws : List Place} (h : ∀ x ∈ ws, t.bars x = false) (more : List Place) :
    t.openPart (ws ++ more) = ws ++ t.openPart more :=
  List.takeWhile_append_of_pos fun x hx => by simp [h x hx]

theorem openPart_eq_self {ws : List Place} (h : ∀ x ∈ ws, t.bars x = false) :
    t.openPart ws = ws := by
  simpa [openPart] using openPart_append h []

/-- A way along directories is there already. -/
theorem provided_of_clear {ws : List Place} (h : ∀ x ∈ ws, t.Clear x) :
    t.Provided ws (t, none) where
  here := rfl
  item? := by
    intro x
    rw [if_neg]
    rintro ⟨hnone, hx⟩
    rw [(h x (List.takeWhile_subset _ hx)).2] at hnone
    cases hnone
  error := iff_of_true rfl fun x hx => (h x hx).1

namespace Provided

variable {ws : List Place} {x : Place} {e : FileError}

/-- What bars the way stays what it is, and nothing else comes to bar it. -/
theorem bars_eq {r : FileTree × Option FileError} (h : t.Provided ws r) (x : Place) :
    r.1.bars x = t.bars x := by
  rw [bars, bars, h.item?]
  by_cases hmade : t.item? x = none ∧ x ∈ t.openPart ws
  · rw [if_pos hmade, hmade.1]
  · rw [if_neg hmade]

/-- What has been provided all along is a way along directories. -/
theorem clear (h : t.Provided ws (u, none)) : ∀ x ∈ ws, u.Clear x := by
  have hopen := h.error.mp rfl
  intro x hx
  have hbars : u.bars x = false := (h.bars_eq x).trans (hopen x hx)
  refine ⟨hbars, ?_⟩
  have hitem := h.item? x
  rw [openPart_eq_self hopen] at hitem
  rw [bars, Bool.or_eq_false_iff] at hbars
  rcases hi : u.item? x with - | (b | -)
  · rw [show (u, (none : Option FileError)).1.item? x = none from hi] at hitem
    split at hitem
    · cases hitem
    · rename_i hmade
      exact absurd ⟨hitem.symm, hx⟩ hmade
  · rw [hi] at hbars
    cases hbars.2
  · rfl

/-- At the end of the way one more directory is made. -/
theorem made (h : t.Provided ws (u, none)) (hx : t.bars x = false) (hne : x ≠ [])
    (hnone : u.item? x = none) : t.Provided (ws ++ [x]) (u.set x .directory, none) where
  here := h.here
  item? := by
    intro y
    have hopen := h.error.mp rfl
    have hitem := h.item? y
    have hitemx := h.item? x
    rw [openPart_eq_self hopen] at hitem hitemx
    rw [openPart_append hopen, item?_set hne]
    have hx' : t.openPart [x] = [x] := by simp [openPart, hx]
    by_cases hy : y = x
    · rw [hnone] at hitemx
      have hnone' : t.item? x = none := by
        split at hitemx
        · cases hitemx
        · exact hitemx.symm
      rw [if_pos hy, if_pos ⟨hy ▸ hnone', by simp [hx', hy]⟩]
    · rw [if_neg hy, hitem]
      simp [hx', hy]
  error := by
    refine iff_of_true rfl ?_
    simpa [or_imp, forall_and] using ⟨h.error.mp rfl, hx⟩

/-- At the end of the way a directory is there. -/
theorem present (h : t.Provided ws (u, none)) (hx : u.Clear x) :
    t.Provided (ws ++ [x]) (u, none) where
  here := h.here
  item? := by
    intro y
    have hopen := h.error.mp rfl
    have hitem := h.item? y
    rw [openPart_eq_self hopen] at hitem
    have hbars : t.bars x = false := (h.bars_eq x).symm.trans hx.1
    have hx' : t.openPart [x] = [x] := by simp [openPart, hbars]
    rw [openPart_append hopen, hx', hitem]
    by_cases hy : y = x
    · rw [hy] at hitem ⊢
      rw [show (u, (none : Option FileError)).1.item? x = some .directory from hx.2] at hitem
      rw [← hitem]
      split
      · rfl
      · rename_i hmade
        split at hitem
        · rename_i hmade'
          exact absurd ⟨hmade'.1, by simp⟩ hmade
        · exact hitem
    · simp [hy]
  error := by
    refine iff_of_true rfl ?_
    have hbars : t.bars x = false := (h.bars_eq x).symm.trans hx.1
    simpa [or_imp, forall_and] using ⟨h.error.mp rfl, hbars⟩

/-- At the end of the way something bars it. -/
theorem barred (h : t.Provided ws (u, none)) (hx : t.bars x = true) (e : FileError) :
    t.Provided (ws ++ [x]) (u, some e) where
  here := h.here
  item? := by
    intro y
    have hx' : t.openPart [x] = [] := by simp [openPart, hx]
    have hopen := h.error.mp rfl
    have hitem := h.item? y
    rw [openPart_eq_self hopen] at hitem
    rw [openPart_append hopen, hx', List.append_nil]
    exact hitem
  error := by
    refine iff_of_false (by simp) fun hall => ?_
    rw [hall x (by simp)] at hx
    cases hx

/-- Behind what bars the way, nothing is made. -/
theorem failed (h : t.Provided ws (u, some e)) (more : List Place) :
    t.Provided (ws ++ more) (u, some e) := by
  have hnot : ¬ ∀ x ∈ ws, t.bars x = false := fun hall => by simpa using h.error.mpr hall
  refine ⟨h.here, fun y => ?_, iff_of_false (by simp) fun hall => hnot fun x hx =>
    hall x (List.mem_append_left _ hx)⟩
  have hopen : t.openPart (ws ++ more) = t.openPart ws := by
    rw [openPart, List.takeWhile_append, if_neg]
    · rfl
    · intro hlen
      refine hnot fun x hx => ?_
      have hself : t.openPart ws = ws := (List.takeWhile_prefix _).eq_of_length hlen
      simpa using List.takeWhile_eq_self_iff.mp hself x hx
  rw [hopen]
  exact h.item? y

end Provided

/-! ### Making directories -/

/-- The directories that lead to a path with one more part. -/
theorem provide_append (t : FileTree) (anchor : Anchor) (up : List String) (name : String) :
    t.provide ⟨anchor, up ++ [name]⟩ =
      match t.makeDirectory (Path.text ⟨anchor, up ++ [name]⟩) with
      | .ok u => (u, none)
      | .error (.system .missing _) =>
        match t.provide ⟨anchor, up⟩ with
        | (u, some e) => (u, some e)
        | (u, none) => u.provideDirectory (Path.text ⟨anchor, up ++ [name]⟩)
      | .error e => t.orPresent (Path.text ⟨anchor, up ++ [name]⟩) e := by
  rw [provide, List.reverse_append, List.reverse_singleton, List.singleton_append, provideAll,
    List.reverse_cons, List.reverse_reverse]
  rfl

section Found

variable {path : String} {q : Place}

theorem orPresent_of_directory (h : t.find path = .ok (q, some .directory)) (e : FileError) :
    t.orPresent path e = (t, none) := by
  rw [orPresent, isDirectory, h]
  rfl

theorem orPresent_of_not_directory (h : ∀ q, t.find path ≠ .ok (q, some .directory))
    (e : FileError) : t.orPresent path e = (t, some e) := by
  rw [orPresent, if_neg]
  rw [isDirectory]
  split
  · rename_i heq
    exact absurd heq (h _)
  · simp

theorem makeDirectory_of_some {i : Item} (h : t.find path = .ok (q, some i)) :
    t.makeDirectory path = .error (.system .taken path) := by
  rw [makeDirectory, h]
  rfl

theorem makeDirectory_of_none (h : t.find path = .ok (q, none)) :
    t.makeDirectory path = .ok (t.set q .directory) := by
  rw [makeDirectory, h]
  rfl

theorem makeDirectory_of_error {e : FileError} (h : t.find path = .error e) :
    t.makeDirectory path = .error e := by
  rw [makeDirectory, h]
  rfl

end Found

/-- Why a place that bars the way stops a walk: its name is too long, or there is a file, at the
end of the names or before it. -/
def barCause (name : String) (after : List String) : FileCause :=
  if nameLimit < name.utf8ByteSize then .nameTooLong
  else if after.isEmpty then .taken
  else .notDirectory

section Paths

variable {q : Path} {before after : List String}

/-- Along directories a path leads to a directory. -/
theorem find_of_clear (h : q.Proper) (hlimit : ¬ pathLimit < q.text.utf8ByteSize)
    (hclear : ∀ x ∈ steps (t.startAt q.anchor) q.parts, t.Clear x) :
    t.find q.text = .ok (t.placeOf q, some .directory) := by
  have hwalk := walk_clear (fun n hn => (h n hn).1) hclear []
  rw [List.append_nil] at hwalk
  rw [find_text h hlimit, hwalk, walk]
  rfl

/-- Up to a first place without a directory, a path is walked along directories. -/
theorem find_of_split (h : q.Proper) (hlimit : ¬ pathLimit < q.text.utf8ByteSize)
    (hsplit : q.parts = before ++ name :: after)
    (hclear : ∀ x ∈ steps (t.startAt q.anchor) before, t.Clear x) :
    t.find q.text = (t.walk (before.foldl Path.follow (t.startAt q.anchor)) (name :: after)).mapError
      fun cause => .system cause q.text := by
  have hcounts : ∀ n ∈ before, Path.counts n = true := fun n hn =>
    (h n (hsplit ▸ List.mem_append_left _ hn)).1
  rw [find_text h hlimit, hsplit, walk_clear hcounts hclear]

/-- Nothing is made along directories. -/
theorem provide_of_clear (h : q.Proper) (hlimit : ¬ pathLimit < q.text.utf8ByteSize)
    (hclear : ∀ x ∈ steps (t.startAt q.anchor) q.parts, t.Clear x) : t.provide q = (t, none) := by
  have hfind := find_of_clear h hlimit hclear
  have hmake := makeDirectory_of_some hfind
  obtain ⟨anchor, parts⟩ := q
  induction parts using List.reverseRecOn with
  | nil =>
    show t.provideDirectory _ = _
    rw [provideDirectory, hmake]
    exact orPresent_of_directory hfind _
  | append_singleton up name =>
    rw [provide_append, hmake]
    exact orPresent_of_directory hfind _

/-- A path that is too long in writing leads nowhere, and nothing is made for it. -/
theorem provide_of_long (h : q.Proper) (hlimit : pathLimit < q.text.utf8ByteSize) :
    t.provide q = (t, some (.system .nameTooLong q.text)) := by
  have hfind : t.find q.text = .error (.system .nameTooLong q.text) := find_text_of_long h hlimit
  have hnot : ∀ p, t.find q.text ≠ .ok (p, some .directory) := by simp [hfind]
  obtain ⟨anchor, parts⟩ := q
  rcases List.eq_nil_or_concat parts with rfl | ⟨up, last, rfl⟩
  · have hshort : ∀ a : Anchor, ¬ pathLimit < (Path.text ⟨a, []⟩).utf8ByteSize := by
      intro a
      cases a <;> decide
    exact absurd hlimit (hshort anchor)
  · rw [List.concat_eq_append] at hfind hnot ⊢
    rw [provide_append, makeDirectory_of_error hfind]
    exact orPresent_of_not_directory hnot _

theorem barCause_ne_missing (name : String) (after : List String) :
    barCause name after ≠ .missing := by
  rw [barCause]
  split
  · simp
  · split <;> simp

/-- What bars the way to a path is found there, and no directory. -/
theorem find_barred (h : q.Proper) (hlimit : ¬ pathLimit < q.text.utf8ByteSize)
    (hsplit : q.parts = before ++ name :: after) (hup : name ≠ "..")
    (hclear : ∀ x ∈ steps (t.startAt q.anchor) before, t.Clear x)
    (hbars : t.bars (before.foldl Path.follow (t.startAt q.anchor) ++ [name]) = true) :
    (∀ p, t.find q.text ≠ .ok (p, some .directory)) ∧
      t.makeDirectory q.text = .error (.system (barCause name after) q.text) := by
  have hname : Path.counts name = true := (h name (by simp [hsplit])).1
  have hfind := find_of_split h hlimit hsplit hclear
  rw [walk_name hname hup] at hfind
  rw [barCause]
  by_cases hlong : nameLimit < name.utf8ByteSize
  · rw [if_pos hlong] at hfind ⊢
    exact ⟨by simp [hfind, Except.mapError], makeDirectory_of_error hfind⟩
  · rw [if_neg hlong] at hfind ⊢
    obtain ⟨b, hb⟩ := (bars_append.mp hbars).resolve_left hlong
    rw [hb] at hfind
    dsimp only at hfind
    by_cases hafter : after.isEmpty = true
    · rw [if_pos hafter] at hfind ⊢
      exact ⟨by simp [hfind, Except.mapError], makeDirectory_of_some hfind⟩
    · rw [if_neg hafter] at hfind ⊢
      exact ⟨by simp [hfind, Except.mapError], makeDirectory_of_error hfind⟩

/-- **Where something bars the way, nothing is made.** -/
theorem provide_barred (h : q.Proper) (hlimit : ¬ pathLimit < q.text.utf8ByteSize)
    (hsplit : q.parts = before ++ name :: after) (hup : name ≠ "..")
    (hclear : ∀ x ∈ steps (t.startAt q.anchor) before, t.Clear x)
    (hbars : t.bars (before.foldl Path.follow (t.startAt q.anchor) ++ [name]) = true) :
    t.provide q = (t, some (.system (barCause name after) q.text)) := by
  obtain ⟨hnot, hmake⟩ := find_barred h hlimit hsplit hup hclear hbars
  obtain ⟨anchor, parts⟩ := q
  rcases List.eq_nil_or_concat parts with rfl | ⟨up, last, rfl⟩
  · simp at hsplit
  · rw [List.concat_eq_append] at hmake hnot ⊢
    rw [provide_append, hmake, ← orPresent_of_not_directory hnot]
    cases hcause : barCause name after <;>
      first | rfl | exact absurd hcause (barCause_ne_missing name after)

/-- Where nothing is, and no more parts come, one directory is made. -/
theorem find_missing (h : q.Proper) (hlimit : ¬ pathLimit < q.text.utf8ByteSize)
    (hsplit : q.parts = before ++ name :: after) (hup : name ≠ "..")
    (hclear : ∀ x ∈ steps (t.startAt q.anchor) before, t.Clear x)
    (hopen : t.bars (before.foldl Path.follow (t.startAt q.anchor) ++ [name]) = false)
    (hnone : t.item? (before.foldl Path.follow (t.startAt q.anchor) ++ [name]) = none) :
    t.find q.text =
      if after.isEmpty then .ok (before.foldl Path.follow (t.startAt q.anchor) ++ [name], none)
      else .error (.system .missing q.text) := by
  have hname : Path.counts name = true := (h name (by simp [hsplit])).1
  have hlong : ¬ nameLimit < name.utf8ByteSize := fun hlong => by
    rw [bars_append.mpr (.inl hlong)] at hopen
    cases hopen
  rw [find_of_split h hlimit hsplit hclear, walk_name hname hup, if_neg hlong, hnone]
  dsimp only
  split <;> rfl

end Paths

/-- With one more part, a way that has been provided is provided further. -/
theorem Provided.provideDirectory {anchor : Anchor} {up : List String}
    (h : Path.Proper ⟨anchor, up ++ [name]⟩)
    (hlimit : ¬ pathLimit < (Path.text ⟨anchor, up ++ [name]⟩).utf8ByteSize)
    (hup : t.Provided (steps (t.startAt anchor) up) (u, none)) :
    t.Provided (steps (t.startAt anchor) (up ++ [name]))
      (u.provideDirectory (Path.text ⟨anchor, up ++ [name]⟩)) := by
  have hstart : u.startAt anchor = t.startAt anchor := by rw [startAt, startAt, hup.here]
  have hclear : ∀ x ∈ steps (u.startAt anchor) up, u.Clear x := hstart ▸ hup.clear
  by_cases hdots : name = ".."
  · -- two dots lead back to a directory that is there
    have hfind := find_of_split (q := ⟨anchor, up ++ [name]⟩) h hlimit rfl hclear
    rw [hdots, walk_up, walk] at hfind
    have hsteps : steps (t.startAt anchor) (up ++ [name]) = steps (t.startAt anchor) up := by
      rw [steps_append, hdots, steps, if_pos rfl, steps, List.append_nil]
    rw [hsteps, FileTree.provideDirectory, hdots, makeDirectory_of_some hfind]
    dsimp only
    rwa [orPresent_of_directory hfind]
  · rw [steps_append_name _ _ hdots, steps, ← hstart]
    rw [← hstart] at hup
    rcases hbars : u.bars (up.foldl Path.follow (u.startAt anchor) ++ [name]) with - | -
    · rcases hitem : u.item? (up.foldl Path.follow (u.startAt anchor) ++ [name]) with - | i
      · have hfind := find_missing (q := ⟨anchor, up ++ [name]⟩) h hlimit rfl hdots hclear hbars hitem
        rw [FileTree.provideDirectory, makeDirectory_of_none hfind]
        exact hup.made ((hup.bars_eq _).symm.trans hbars) (by simp) hitem
      · have hdir : i = .directory := by
          cases i with
          | directory => rfl
          | file b =>
            rw [bars_append.mpr (.inr ⟨b, hitem⟩)] at hbars
            cases hbars
        have hlast : u.Clear (up.foldl Path.follow (u.startAt anchor) ++ [name]) :=
          ⟨hbars, hdir ▸ hitem⟩
        have hfind := find_of_clear (q := ⟨anchor, up ++ [name]⟩) h hlimit (t := u) (by
          rw [steps_append_name _ _ hdots, steps]
          simpa [or_imp, forall_and] using ⟨hclear, hlast⟩)
        rw [FileTree.provideDirectory, makeDirectory_of_some hfind]
        dsimp only
        rw [orPresent_of_directory hfind]
        exact hup.present hlast
    · obtain ⟨hnot, hmake⟩ :=
        find_barred (q := ⟨anchor, up ++ [name]⟩) h hlimit rfl hdots hclear hbars
      have hfail : u.provideDirectory (Path.text ⟨anchor, up ++ [name]⟩) =
          (u, some (.system (barCause name []) (Path.text ⟨anchor, up ++ [name]⟩))) := by
        rw [FileTree.provideDirectory, hmake,
          ← orPresent_of_not_directory hnot (.system (barCause name []) _)]
        cases hcause : barCause name [] <;>
          first | rfl | exact absurd hcause (barCause_ne_missing name [])
      rw [hfail]
      exact hup.barred ((hup.bars_eq _).symm.trans hbars) _

/-- **The directories that lead to a path are made up to the first place that bars the way.** -/
theorem provided_provide {q : Path} (h : q.Proper) (hlimit : ¬ pathLimit < q.text.utf8ByteSize) :
    t.Provided (steps (t.startAt q.anchor) q.parts) (t.provide q) := by
  obtain ⟨anchor, parts⟩ := q
  induction parts using List.reverseRecOn with
  | nil =>
    have hnone : ∀ x ∈ steps (t.startAt anchor) [], t.Clear x := by simp [steps]
    rw [provide_of_clear h hlimit hnone]
    exact provided_of_clear hnone
  | append_singleton up name ih =>
    rcases exists_obstacle t (t.startAt anchor) (up ++ [name]) with
      hclear | ⟨before, obstacle, after, hsplit, hdots, hclear, hnot⟩
    · rw [provide_of_clear h hlimit hclear]
      exact provided_of_clear hclear
    · by_cases hbars : t.bars (before.foldl Path.follow (t.startAt anchor) ++ [obstacle]) = true
      · rw [provide_barred h hlimit hsplit hdots hclear hbars]
        dsimp only
        rw [hsplit, steps_append_name _ _ hdots, List.append_cons]
        exact ((provided_of_clear hclear).barred hbars _).failed _
      · -- nothing is there
        have hopen := Bool.eq_false_iff.mpr hbars
        have hnone : t.item? (before.foldl Path.follow (t.startAt anchor) ++ [obstacle]) = none := by
          rcases hitem : t.item? (before.foldl Path.follow (t.startAt anchor) ++ [obstacle]) with
            - | (b | -)
          · rfl
          · exact absurd (bars_append.mpr (.inr ⟨b, hitem⟩)) hbars
          · exact absurd ⟨hopen, hitem⟩ hnot
        have hfind := find_missing h hlimit hsplit hdots hclear hopen hnone
        rcases List.eq_nil_or_concat after with rfl | ⟨after, last, rfl⟩
        · obtain ⟨rfl, hlast⟩ := List.append_inj' hsplit rfl
          obtain rfl : name = obstacle := List.singleton_inj.mp hlast
          rw [provide_append, makeDirectory_of_none hfind, steps_append_name _ _ hdots, steps]
          exact (provided_of_clear hclear).made hopen (by simp) hnone
        · -- the parts before are seen to first
          rw [List.concat_eq_append, if_neg (by simp)] at hfind
          have hup := ih (fun s hs => h s (List.mem_append_left _ hs))
            fun hlong => hlimit (Nat.lt_of_lt_of_le hlong
              (Path.utf8ByteSize_text_le (h name (by simp)).1))
          rw [provide_append, makeDirectory_of_error hfind]
          dsimp only
          rcases hprovide : t.provide ⟨anchor, up⟩ with ⟨u, - | e⟩
          · rw [hprovide] at hup
            exact hup.provideDirectory h hlimit
          · rw [hprovide] at hup
            rw [steps_append]
            exact hup.failed _

end FileTree

end TermRef
