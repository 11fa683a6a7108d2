/-
TermRef/Proofs/Files/Delivery.lean

Writing a file with the directories that lead to it.

Whether bytes can be written to a path is settled by what is at the places of its way and at its
own place before anything is made (`Admits`).  So is what a writing changes (`Writes`): the file is
stored, and directories are made where there was nothing.  `writes_writeBytes` says so of all paths
whose last part is a name, and not two dots.  Nothing else is touched (`Writes.touches`).
-/
import TermRef.Proofs.Files.Provide

namespace TermRef

namespace FileTree

variable {t : FileTree} {p : Path} {b : List UInt8} {up : List String} {name : String}

/-! ### What can be written -/

/-- Bytes can be written to a path: its text and its name are not too long, nothing bars its way,
and there is no directory at its place, nor would one be made there. -/
structure Admits (t : FileTree) (p : Path) : Prop where
  short : ¬ pathLimit < p.text.utf8ByteSize
  way : ∀ x ∈ t.wayTo p, t.bars x = false
  name : ¬ nameLimit < p.name.utf8ByteSize
  place : t.item? (t.placeOf p) ≠ some .directory
  apart : t.placeOf p ∉ t.wayTo p

/-- The places where directories are made for a path, if there is nothing. -/
def madeFor (t : FileTree) (p : Path) : List Place :=
  if pathLimit < p.parent.text.utf8ByteSize then [] else t.openPart (t.wayTo p)

theorem mem_wayTo_of_madeFor {x : Place} (h : x ∈ t.madeFor p) : x ∈ t.wayTo p := by
  rw [madeFor] at h
  split at h
  · cases h
  · exact List.takeWhile_subset _ h

/-- What writing bytes to a path comes to. -/
structure Writes (t : FileTree) (p : Path) (b : List UInt8) (r : FileTree × Option FileError) :
    Prop where
  here : r.1.here = t.here
  error : r.2 = none ↔ t.Admits p
  stored : t.Admits p → r.1.item? (t.placeOf p) = some (.file b)
  item? : ∀ x, (t.Admits p → x ≠ t.placeOf p) → r.1.item? x =
    if t.item? x = none ∧ x ∈ t.madeFor p then some .directory else t.item? x

section Parts

variable (hparts : p.parts = up ++ [name])
include hparts

theorem parent_of_parts : p.parent = ⟨p.anchor, up⟩ := by
  rw [Path.parent, hparts, List.dropLast_concat]

theorem name_of_parts : p.name = name := by
  rw [Path.name, hparts, List.getLast?_concat]
  rfl

theorem wayTo_of_parts : t.wayTo p = steps (t.startAt p.anchor) up := by
  rw [wayTo, hparts, List.dropLast_concat]

theorem placeOf_of_parts (hdots : name ≠ "..") :
    t.placeOf p = up.foldl Path.follow (t.startAt p.anchor) ++ [name] := by
  rw [placeOf, hparts, List.foldl_append, List.foldl_cons, List.foldl_nil, Path.follow,
    if_neg hdots]

/-- Why bytes are not written at the end of a way along directories, if they are not. -/
theorem write_of_clear (h : p.Proper) (hdots : name ≠ "..")
    (hclear : ∀ x ∈ t.wayTo p, t.Clear x) :
    t.write p.text b =
      if pathLimit < p.text.utf8ByteSize ∨ nameLimit < p.name.utf8ByteSize then
        .error (.system .nameTooLong p.text)
      else if t.item? (t.placeOf p) = some .directory then .error (.system .isDirectory p.text)
      else .ok (t.set (t.placeOf p) (.file b)) := by
  by_cases hlimit : pathLimit < p.text.utf8ByteSize
  · rw [if_pos (.inl hlimit), write, find_text_of_long h hlimit]
    rfl
  · have hname : Path.counts name = true := (h name (by simp [hparts])).1
    rw [wayTo_of_parts hparts] at hclear
    have hfind := find_of_split h hlimit hparts hclear
    rw [walk_name hname hdots, ← placeOf_of_parts hparts hdots] at hfind
    rw [name_of_parts hparts, write]
    by_cases hlong : nameLimit < name.utf8ByteSize
    · rw [if_pos hlong] at hfind
      rw [if_pos (.inr hlong), hfind]
      rfl
    · rw [if_neg hlong] at hfind
      rw [if_neg (by simp [hlimit, hlong])]
      rcases hitem : t.item? (t.placeOf p) with - | (b' | -)
      · rw [hitem] at hfind
        have hfound : t.find p.text = .ok (t.placeOf p, none) := hfind
        rw [hfound]
        rfl
      · rw [hitem] at hfind
        have hfound : t.find p.text = .ok (t.placeOf p, some (.file b')) := hfind
        rw [hfound]
        rfl
      · rw [hitem, walk] at hfind
        have hfound : t.find p.text = .ok (t.placeOf p, some .directory) := hfind
        rw [hfound]
        rfl

theorem utf8ByteSize_parent_le (h : p.Proper) :
    p.parent.text.utf8ByteSize ≤ p.text.utf8ByteSize := by
  obtain ⟨anchor, parts⟩ := p
  rw [parent_of_parts hparts, show parts = up ++ [name] from hparts]
  exact Path.utf8ByteSize_text_le (h name (by rw [hparts]; simp)).1

/-- Where nothing bars the way, the directories are made, and there is one at the place itself if it
is on the way or has been there. -/
theorem writeBytes_of_open (h : p.Proper) (hdots : name ≠ "..")
    (hlimit : ¬ pathLimit < p.parent.text.utf8ByteSize)
    (hopen : ∀ x ∈ t.wayTo p, t.bars x = false) (b : List UInt8) :
    ∃ u, t.Provided (t.wayTo p) (u, none) ∧
      (u.item? (t.placeOf p) = some .directory ↔
        t.item? (t.placeOf p) = some .directory ∨ t.placeOf p ∈ t.wayTo p) ∧
      Run.writeBytes t p b =
        if pathLimit < p.text.utf8ByteSize ∨ nameLimit < p.name.utf8ByteSize then
          (u, some (.system .nameTooLong p.text))
        else if u.item? (t.placeOf p) = some .directory then (u, some (.system .isDirectory p.text))
        else (u.set (t.placeOf p) (.file b), none) := by
  have hprovided : t.Provided (t.wayTo p) (t.provide p.parent) := provided_provide h.parent hlimit
  rw [Run.writeBytes]
  rcases hprovide : t.provide p.parent with ⟨u, - | e⟩
  · rw [hprovide] at hprovided
    have hstart : u.startAt p.anchor = t.startAt p.anchor := by
      rw [startAt, startAt, hprovided.here]
    have hclear : ∀ x ∈ u.wayTo p, u.Clear x := by
      rw [wayTo, hstart]
      exact hprovided.clear
    have hwrite := write_of_clear (b := b) hparts h hdots hclear
    rw [show u.placeOf p = t.placeOf p by rw [placeOf, placeOf, hstart]] at hwrite
    have hplace : u.item? (t.placeOf p) = if t.item? (t.placeOf p) = none ∧
        t.placeOf p ∈ t.wayTo p then some .directory else t.item? (t.placeOf p) := by
      have hitem := hprovided.item? (t.placeOf p)
      rwa [openPart_eq_self hopen] at hitem
    refine ⟨u, hprovided, ⟨fun hdir => ?_, ?_⟩, ?_⟩
    · rw [hplace] at hdir
      split at hdir
      · rename_i hmade
        exact .inr hmade.2
      · exact .inl hdir
    · rintro (hdir | hmem)
      · rw [hplace, if_neg (by simp [hdir]), hdir]
      · exact (hprovided.clear _ hmem).2
    · dsimp only
      rw [hwrite]
      by_cases hlong : pathLimit < p.text.utf8ByteSize ∨ nameLimit < p.name.utf8ByteSize
      · rw [if_pos hlong, if_pos hlong]
      · rw [if_neg hlong, if_neg hlong]
        by_cases hdir : u.item? (t.placeOf p) = some .directory
        · rw [if_pos hdir, if_pos hdir]
        · rw [if_neg hdir, if_neg hdir]
  · rw [hprovide] at hprovided
    exact absurd (hprovided.error.mpr hopen) (by simp)

/-- **What writing bytes to a path comes to is settled by the tree before.** -/
theorem writes_writeBytes (h : p.Proper) (hdots : name ≠ "..") (b : List UInt8) :
    t.Writes p b (Run.writeBytes t p b) := by
  -- what leaves a tree in which directories have been made, and an error
  have hfails : ∀ {u e}, ¬ t.Admits p → u.here = t.here →
      (∀ x, u.item? x = if t.item? x = none ∧ x ∈ t.madeFor p then some .directory else t.item? x) →
      t.Writes p b (u, some e) := fun hnot hhere hitem =>
    ⟨hhere, iff_of_false (by simp) hnot, fun ha => absurd ha hnot, fun x _ => hitem x⟩
  by_cases hlimit : pathLimit < p.parent.text.utf8ByteSize
  · rw [Run.writeBytes, provide_of_long h.parent hlimit]
    refine hfails (fun ha => ha.short ?_) rfl fun x => ?_
    · exact Nat.lt_of_lt_of_le hlimit (utf8ByteSize_parent_le hparts h)
    · rw [madeFor, if_pos hlimit, if_neg (by simp)]
  have hmade : t.madeFor p = t.openPart (t.wayTo p) := if_neg hlimit
  by_cases hopen : ∀ x ∈ t.wayTo p, t.bars x = false
  · obtain ⟨u, hprovided, hplace, hwrite⟩ := writeBytes_of_open hparts h hdots hlimit hopen b
    have hitem := hprovided.item?
    rw [← hmade] at hitem
    rw [hwrite]
    by_cases hlong : pathLimit < p.text.utf8ByteSize ∨ nameLimit < p.name.utf8ByteSize
    · rw [if_pos hlong]
      exact hfails (fun ha => hlong.elim ha.short ha.name) hprovided.here hitem
    rw [if_neg hlong]
    by_cases hdir : u.item? (t.placeOf p) = some .directory
    · rw [if_pos hdir]
      exact hfails (fun ha => (hplace.mp hdir).elim ha.place ha.apart) hprovided.here hitem
    · rw [if_neg hdir]
      have hadmits : t.Admits p := by
        obtain ⟨hshort, hname⟩ := not_or.mp hlong
        obtain ⟨hfree, hapart⟩ := not_or.mp fun hor => hdir (hplace.mpr hor)
        exact ⟨hshort, hopen, hname, hfree, hapart⟩
      have hset : ∀ x, (u.set (t.placeOf p) (.file b)).item? x =
          if x = t.placeOf p then some (.file b) else u.item? x := by
        refine item?_set ?_ _
        rw [placeOf_of_parts hparts hdots]
        simp
      refine ⟨hprovided.here, iff_of_true rfl hadmits, fun _ => ?_, fun x hx => ?_⟩
      · rw [hset, if_pos rfl]
      · rw [hset, if_neg (hx hadmits)]
        exact hitem x
  · have hprovided : t.Provided (t.wayTo p) (t.provide p.parent) := provided_provide h.parent hlimit
    rw [Run.writeBytes]
    rcases hprovide : t.provide p.parent with ⟨u, - | e⟩
    · rw [hprovide] at hprovided
      exact absurd (hprovided.error.mp rfl) hopen
    · rw [hprovide] at hprovided
      have hitem := hprovided.item?
      rw [← hmade] at hitem
      exact hfails (fun ha => hopen ha.way) hprovided.here hitem

end Parts

/-! ### What is touched -/

/-- Another tree has something else at the place of a path, where bytes can be written to it, and
directories at places on its way, where there was nothing; and nothing else apart from that. -/
def Touches (t : FileTree) (p : Path) (u : FileTree) : Prop :=
  ∀ x, u.item? x ≠ t.item? x → t.Admits p ∧ x = t.placeOf p ∨
    x ∈ t.wayTo p ∧ t.item? x = none ∧ u.item? x = some .directory

theorem Touches.refl (t : FileTree) (p : Path) : t.Touches p t := fun _ h => absurd rfl h

/-- **Writing to a path touches what it leads to and the way there**, at most. -/
theorem Writes.touches {r : FileTree × Option FileError} (h : t.Writes p b r) :
    t.Touches p r.1 := by
  intro x hx
  by_cases hplace : t.Admits p ∧ x = t.placeOf p
  · exact .inl hplace
  · have hitem := h.item? x fun ha hxp => hplace ⟨ha, hxp⟩
    split at hitem
    · rename_i hmade
      exact .inr ⟨mem_wayTo_of_madeFor hmade.2, hmade.1, hitem⟩
    · exact absurd hitem hx

end FileTree

end TermRef
