/-
TermRef/Proofs/Files/Change.lean

What a change of a tree of files leaves alone.

A tree grows outside of some places if elsewhere it only gains directories, where there was
nothing (`GrowsOutside`).  Making directories lets a tree grow outside of no place at all
(`growsOutside_provide`), and writing a file outside of the one place that its path leads to
(`Stores`).  Place by place such changes add up: what has been stored last is there, and where
nothing has been stored a file stays, and there is none still if there was none
(`Becomes.trans`).

Where a path leads is settled by directories (`find_of_directories`).  Storing a file takes none of
them away, and so the path still leads to the place of the file (`find_set`).
-/
import TermRef.Proofs.Files.NullFree

namespace TermRef

namespace FileTree

variable {t u v : FileTree} {path : String} {b : List UInt8} {p q : Place} {i : Option Item}

/-! ### Items -/

/-- Setting an item changes what is at its place, and nothing else. -/
theorem find?_setItem (p : Place) (i : Item) (es : List (Place × Item)) (q : Place) :
    ((setItem p i es).find? fun e => e.1 == q).map (·.2) =
      if q = p then some i else (es.find? fun e => e.1 == q).map (·.2) := by
  induction es with
  | nil =>
    by_cases h : q = p
    · simp [setItem, h]
    · simp [setItem, h, Ne.symm h]
  | cons e es ih =>
    obtain ⟨k, j⟩ := e
    rw [setItem]
    by_cases hk : k = p
    · rw [if_pos hk]
      by_cases h : q = p
      · simp [hk, h]
      · have hkq : k ≠ q := fun hkq => h (hkq.symm.trans hk)
        simp [hkq, h]
    · rw [if_neg hk]
      by_cases hkq : k = q
      · have h : q ≠ p := fun h => hk (hkq.trans h)
        simp [hkq, h]
      · simpa [hkq] using ih

theorem item?_set (hp : p ≠ []) (i : Item) (q : Place) :
    (t.set p i).item? q = if q = p then some i else t.item? q := by
  rw [item?, item?, set, find?_setItem]
  by_cases hq : q = []
  · rw [if_pos hq, if_pos hq, if_neg fun h => hp (h.symm.trans hq)]
  · rw [if_neg hq, if_neg hq]

/-! ### Names in a directory -/

/-- The name of what lies right below a place. -/
def childName? (p q : Place) : Option String :=
  if p.isPrefixOf q && q.length == p.length + 1 then q.getLast? else none

theorem childName?_eq_some {p q : Place} {name : String} :
    childName? p q = some name ↔ q = p ++ [name] := by
  rw [childName?]
  constructor
  · intro h
    split at h
    · rename_i hq
      rw [Bool.and_eq_true, List.isPrefixOf_iff_prefix, beq_iff_eq] at hq
      obtain ⟨⟨rest, rfl⟩, hlen⟩ := hq
      obtain ⟨x, rfl⟩ : ∃ x, rest = [x] := List.length_eq_one_iff.mp (by simpa using hlen)
      rw [List.getLast?_append_of_ne_nil _ (by simp)] at h
      obtain rfl : x = name := by simpa using h
      rfl
    · cases h
  · rintro rfl
    simp

theorem childNames_eq (t : FileTree) (p : Place) :
    t.childNames p = (t.items.map Prod.fst).filterMap (childName? p) := by
  rw [List.filterMap_map]
  rfl

theorem mem_childNames {name : String} :
    name ∈ t.childNames p ↔ ∃ e ∈ t.items, e.1 = p ++ [name] := by
  rw [childNames_eq, List.filterMap_map, List.mem_filterMap]
  exact exists_congr fun e => and_congr_right fun _ => childName?_eq_some

theorem mem_childNames_of_item? {name : String} {i : Item} (h : t.item? (p ++ [name]) = some i) :
    name ∈ t.childNames p := by
  rw [item?, if_neg (by simp)] at h
  obtain ⟨e, he, -⟩ := Option.map_eq_some_iff.mp h
  exact mem_childNames.mpr ⟨e, List.mem_of_find?_eq_some he, by simpa using List.find?_some he⟩

/-! ### Where paths lead -/

/-- A walk that ends at no directory ends at an item of the tree, or where there is none. -/
theorem item?_of_walk {names : List String} (h : t.walk p names = .ok (q, i))
    (hi : i ≠ some .directory) : q ≠ [] ∧ t.item? q = i := by
  fun_induction walk t p names with
  | case1 p =>
    cases h
    exact absurd rfl hi
  | case2 p name r _ ih => exact ih h
  | case3 p r _ ih => exact ih h
  | case4 => cases h
  | case5 p name r _ _ _ q' hdir ih => exact ih h
  | case6 p name r _ _ _ q' b hfile hr =>
    obtain ⟨hq, rfl⟩ := Prod.mk.inj (Except.ok.inj h)
    exact hq ▸ ⟨by simp [q'], hfile⟩
  | case7 => cases h
  | case8 p name r _ _ _ q' hnone hr =>
    obtain ⟨hq, rfl⟩ := Prod.mk.inj (Except.ok.inj h)
    exact hq ▸ ⟨by simp [q'], hnone⟩
  | case9 => cases h

/-- A walk that ends at no directory leads to the same place in another tree, if the directories
are there as well, and at the place is a file. -/
theorem walk_of_directories {names : List String} (h : t.walk p names = .ok (q, i))
    (hi : i ≠ some .directory)
    (hdirs : ∀ x, t.item? x = some .directory → u.item? x = some .directory)
    (hq : u.item? q = some (.file b)) : u.walk p names = .ok (q, some (.file b)) := by
  fun_induction walk t p names with
  | case1 p =>
    cases h
    exact absurd rfl hi
  | case2 p name r hc ih =>
    rw [walk, if_pos hc]
    exact ih h
  | case3 p r hc ih =>
    rw [walk, if_neg hc, if_pos rfl]
    exact ih h
  | case4 => cases h
  | case5 p name r hc hup hlen q' hdir ih =>
    rw [walk, if_neg hc, if_neg hup, if_neg hlen]
    dsimp only
    rw [hdirs (p ++ [name]) hdir]
    exact ih h
  | case6 p name r hc hup hlen q' b' hfile hr =>
    obtain ⟨rfl, -⟩ := Prod.mk.inj (Except.ok.inj h)
    rw [walk, if_neg hc, if_neg hup, if_neg hlen]
    dsimp only
    rw [hq]
    exact if_pos hr
  | case7 => cases h
  | case8 p name r hc hup hlen q' hnone hr =>
    obtain ⟨rfl, -⟩ := Prod.mk.inj (Except.ok.inj h)
    rw [walk, if_neg hc, if_neg hup, if_neg hlen]
    dsimp only
    rw [hq]
    exact if_pos hr
  | case9 => cases h

/-- The directory at which the walk along a path in writing starts. -/
def startOf (t : FileTree) (path : String) : Place :=
  if path.toList.head? = some '/' then [] else t.here

/-- A path is found by a walk along its names, unless it is none or too long. -/
theorem find_eq_ok {x : Place × Option Item} : t.find path = .ok x ↔
    TermRef.NullFree path ∧ path ≠ "" ∧ ¬ pathLimit < path.utf8ByteSize ∧
      t.walk (t.startOf path) (Path.names path) = .ok x := by
  have hnull : path.toList.contains '\x00' = true ↔ ¬ TermRef.NullFree path := by
    rw [TermRef.NullFree, not_not]
    simp
  constructor
  · intro h
    rw [find] at h
    split at h
    · cases h
    · rename_i hfree
      split at h
      · cases h
      · rename_i hempty
        split at h
        · cases h
        · rename_i hlimit
          refine ⟨not_not.mp fun hf => hfree (hnull.mpr hf), hempty, hlimit, ?_⟩
          rw [startOf]
          dsimp only at h
          split at h
          · rename_i hwalk
            rw [hwalk, Except.ok.inj h]
          · cases h
  · rintro ⟨hfree, hempty, hlimit, hwalk⟩
    rw [startOf] at hwalk
    rw [find, if_neg fun h => hnull.mp h hfree, if_neg hempty, if_neg hlimit]
    dsimp only
    rw [hwalk]

theorem exists_find_of_isFile (h : t.isFile path = true) :
    ∃ x b, t.find path = .ok (x, some (.file b)) := by
  rw [isFile] at h
  split at h
  · exact ⟨_, _, ‹_›⟩
  · cases h

/-- Where there is no directory, a path leads to an item of the tree, or to nothing. -/
theorem item?_of_find (h : t.find path = .ok (q, i)) (hi : i ≠ some .directory) :
    q ≠ [] ∧ t.item? q = i :=
  item?_of_walk (find_eq_ok.mp h).2.2.2 hi

/-- **Where a path leads is settled by directories**: it leads to the same place in another tree
that has them, if a file is there. -/
theorem find_of_directories (h : t.find path = .ok (q, i)) (hi : i ≠ some .directory)
    (hhere : u.here = t.here)
    (hdirs : ∀ x, t.item? x = some .directory → u.item? x = some .directory)
    (hq : u.item? q = some (.file b)) : u.find path = .ok (q, some (.file b)) := by
  obtain ⟨hfree, hempty, hlimit, hwalk⟩ := find_eq_ok.mp h
  have hstart : u.startOf path = t.startOf path := by rw [startOf, startOf, hhere]
  exact find_eq_ok.mpr
    ⟨hfree, hempty, hlimit, hstart ▸ walk_of_directories hwalk hi hdirs hq⟩

/-- A path to a file leads to that file once it is stored. -/
theorem find_set (h : t.find path = .ok (q, i)) (hi : i ≠ some .directory) (b : List UInt8) :
    (t.set q (.file b)).find path = .ok (q, some (.file b)) := by
  obtain ⟨hq, hitem⟩ := item?_of_find h hi
  have hset := item?_set (t := t) hq (.file b)
  refine find_of_directories h hi rfl (fun x hx => ?_) (by rw [hset, if_pos rfl])
  -- a directory is not at the place stored to
  have hne : x ≠ q := by
    rintro rfl
    exact hi (hitem.symm.trans hx)
  rw [hset, if_neg hne, hx]

/-! ### Growth -/

/-- What has become of a place where bytes may have been stored: they are there, and no directory
was; or what was there is there, or a directory where there was nothing. -/
def Becomes (q : Place) (t u : FileTree) : Option (List UInt8) → Prop
  | some b => t.item? q ≠ some .directory ∧ u.item? q = some (.file b)
  | none => u.item? q = t.item? q ∨ t.item? q = none ∧ u.item? q = some .directory

/-- Of what is stored at a place one after the other, the last counts. -/
theorem Becomes.trans {x y : Option (List UInt8)} (h : Becomes q t u x) (h' : Becomes q u v y) :
    Becomes q t v (y.or x) := by
  rcases y with - | b
  · rw [Option.none_or]
    rcases x with - | b
    · rcases h with he | ⟨hnone, hdir⟩
      · rcases h' with he' | ⟨hnone', hdir'⟩
        · exact .inl (he'.trans he)
        · exact .inr ⟨he ▸ hnone', hdir'⟩
      · rcases h' with he' | ⟨hnone', -⟩
        · exact .inr ⟨hnone, he'.trans hdir⟩
        · rw [hdir] at hnone'
          cases hnone'
    · obtain ⟨hfree, hfile⟩ := h
      rcases h' with he' | ⟨hnone', -⟩
      · exact ⟨hfree, he'.trans hfile⟩
      · rw [hfile] at hnone'
        cases hnone'
  · obtain ⟨hfree', hfile'⟩ := h'
    refine ⟨fun hdir => ?_, hfile'⟩
    -- a directory would still have been there in between
    rcases x with - | b'
    · rcases h with he | ⟨hnone, -⟩
      · exact hfree' (he.trans hdir)
      · rw [hdir] at hnone
        cases hnone
    · exact h.1 hdir

/-- Outside of some places, a tree only gains directories, where there was nothing. -/
structure GrowsOutside (ps : List Place) (t u : FileTree) : Prop where
  here : u.here = t.here
  item? : ∀ q ∉ ps, Becomes q t u none

namespace GrowsOutside

variable {ps qs : List Place}

theorem refl (ps : List Place) (t : FileTree) : GrowsOutside ps t t := ⟨rfl, fun _ _ => .inl rfl⟩

/-- Growth adds up, outside of all places that the parts leave open. -/
theorem trans (h : GrowsOutside ps t u) (h' : GrowsOutside qs u v) :
    GrowsOutside (ps ++ qs) t v where
  here := h'.here.trans h.here
  item? := by
    intro q hq
    rw [List.mem_append, not_or] at hq
    exact (h.item? q hq.1).trans (h'.item? q hq.2)

/-- What is there stays there. -/
theorem item?_eq_some {j : Item} (h : GrowsOutside ps t u) (hq : q ∉ ps)
    (hj : t.item? q = some j) : u.item? q = some j := by
  rcases h.item? q hq with he | ⟨hnone, -⟩
  · exact he.trans hj
  · rw [hj] at hnone
    cases hnone

end GrowsOutside

/-- Making directories, a tree grows outside of no place. -/
theorem growsOutside_makeDirectory (h : t.makeDirectory path = .ok u) : GrowsOutside [] t u := by
  rw [makeDirectory] at h
  rcases hf : t.find path with e | ⟨q, - | j⟩
  · rw [hf] at h
    cases h
  · rw [hf] at h
    obtain rfl : t.set q .directory = u := Except.ok.inj h
    obtain ⟨hq, hnone⟩ := item?_of_find hf (by simp)
    refine ⟨rfl, fun q' _ => ?_⟩
    rw [Becomes, item?_set hq]
    by_cases hq' : q' = q
    · rw [if_pos hq', hq']
      exact .inr ⟨hnone, rfl⟩
    · rw [if_neg hq']
      exact .inl rfl
  · rw [hf] at h
    cases h

theorem orPresent_fst (t : FileTree) (path : String) (e : FileError) :
    (t.orPresent path e).1 = t := by
  rw [orPresent]
  split <;> rfl

theorem growsOutside_provideDirectory (t : FileTree) (path : String) :
    GrowsOutside [] t (t.provideDirectory path).1 := by
  rw [provideDirectory]
  split
  · rename_i hmade
    exact growsOutside_makeDirectory hmade
  · exact .refl [] t
  · rw [orPresent_fst]
    exact .refl [] t

theorem growsOutside_provideAll (anchor : Anchor) (up : List String) (t : FileTree) :
    GrowsOutside [] t (provideAll anchor up t).1 := by
  induction up with
  | nil => exact growsOutside_provideDirectory t _
  | cons name up ih =>
    rw [provideAll]
    split
    · rename_i hmade
      exact growsOutside_makeDirectory hmade
    · -- the directory above is made first
      rcases hr : provideAll anchor up t with ⟨u, - | e⟩
      · rw [hr] at ih
        exact ih.trans (growsOutside_provideDirectory u _)
      · rw [hr] at ih
        exact ih
    · rw [orPresent_fst]
      exact .refl [] t

/-- **Making the directories that lead to a path, a tree grows and loses nothing.** -/
theorem growsOutside_provide (t : FileTree) (p : Path) : GrowsOutside [] t (t.provide p).1 :=
  growsOutside_provideAll p.anchor p.parts.reverse t

/-! ### Files stored -/

/-- Bytes are stored in the file that a path leads to, at a place, and the tree grows outside of
it. -/
structure Stores (t : FileTree) (path : String) (p : Place) (b : List UInt8) (u : FileTree) :
    Prop where
  grows : GrowsOutside [p] t u
  leads : u.find path = .ok (p, some (.file b))
  wasFile : t.item? p ≠ some .directory

/-- What is stored is at its place. -/
theorem Stores.becomes (h : t.Stores path p b u) : Becomes p t u (some b) :=
  ⟨h.wasFile, (item?_of_find h.leads (by simp)).2⟩

/-- A file that is written is stored. -/
theorem stores_write (h : t.write path b = .ok u) : ∃ p, t.Stores path p b u := by
  rw [write] at h
  have hset : ∀ p i, t.find path = .ok (p, i) → i ≠ some .directory →
      t.set p (.file b) = u → t.Stores path p b u := by
    rintro p i hf hi rfl
    obtain ⟨hp, hitem⟩ := item?_of_find hf hi
    refine ⟨⟨rfl, fun q hq => .inl ?_⟩, find_set hf hi b, by rwa [hitem]⟩
    rw [item?_set hp, if_neg (by simpa using hq)]
  rcases hf : t.find path with e | ⟨p, - | (b' | -)⟩
  · rw [hf] at h
    cases h
  · rw [hf] at h
    exact ⟨p, hset p _ hf (by simp) (Except.ok.inj h)⟩
  · rw [hf] at h
    exact ⟨p, hset p _ hf (by simp) (Except.ok.inj h)⟩
  · rw [hf] at h
    cases h

end FileTree

open FileTree

/-- Bytes written with the directories that lead to them are stored. -/
theorem stores_writeBytes {t u : FileTree} {target : Path} {b : List UInt8}
    (h : Run.writeBytes t target b = (u, none)) : ∃ p, t.Stores target.text p b u := by
  have hgrows := growsOutside_provide t target.parent
  rw [Run.writeBytes] at h
  rcases hp : t.provide target.parent with ⟨v, - | e⟩
  · rw [hp] at h hgrows
    dsimp only at h
    rcases hw : v.write target.text b with e | w
    · rw [hw] at h
      cases h
    · rw [hw] at h
      obtain rfl : w = u := (Prod.mk.inj h).1
      obtain ⟨p, hstores⟩ := stores_write hw
      refine ⟨p, hgrows.trans hstores.grows, hstores.leads, fun hdir => hstores.wasFile ?_⟩
      exact hgrows.item?_eq_some (by simp) hdir
  · rw [hp] at h
    cases h

/-- Otherwise directories may have been made. -/
theorem growsOutside_writeBytes {t u : FileTree} {target : Path} {b : List UInt8} {e : FileError}
    (h : Run.writeBytes t target b = (u, some e)) : GrowsOutside [] t u := by
  have hgrows := growsOutside_provide t target.parent
  rw [Run.writeBytes] at h
  rcases hp : t.provide target.parent with ⟨v, - | e⟩
  · rw [hp] at h hgrows
    dsimp only at h
    rcases hw : v.write target.text b with e | w
    · rw [hw] at h
      rwa [← (Prod.mk.inj h).1]
    · rw [hw] at h
      cases (Prod.mk.inj h).2
  · rw [hp] at h hgrows
    rwa [← (Prod.mk.inj h).1]

end TermRef
