/-
TermRef/Proofs/Files/NullFree.lean

The null character, and how far it is from files.

A path in writing that holds the null character is no path, and this is the only way in
which it can be none (`find_eq_nullCharacter`).  Names in a tree of files hold no null
character, and neither do the texts that are made of such names: paths in writing, paths
seen from elsewhere, and the paths that a pattern names.

So with names, a pattern and an output directory without the null character no path of
a run is refused as none: files are found (`files_of_nullFree`), read
(`read_eq_nullCharacter`) and written (`sound_writeBytes`).
-/
import Mathlib.Data.List.TakeDrop
import TermRef.Proofs.Text.Pieces
import TermRef.Run

namespace TermRef

/-! ### Texts -/

/-- The text is without the null character. -/
def NullFree (s : String) : Prop := '\x00' ∉ s.toList

instance (s : String) : Decidable (NullFree s) := inferInstanceAs (Decidable ('\x00' ∉ s.toList))

theorem not_mem_intercalate {x : Char} {sep : List Char} {xs : List (List Char)} (hs : x ∉ sep)
    (hxs : ∀ l ∈ xs, x ∉ l) : x ∉ sep.intercalate xs := by
  induction xs with
  | nil => simp [List.intercalate]
  | cons l xs ih =>
    have hl : x ∉ l := hxs l List.mem_cons_self
    have hrest := ih fun l' hl' => hxs l' (List.mem_cons_of_mem _ hl')
    cases xs with
    | nil => simpa [List.intercalate] using hl
    | cons l' xs => simp [List.intercalate_cons_cons, hl, hs, hrest]

theorem subset_intercalate {sep l : List Char} {xs : List (List Char)} (hl : l ∈ xs) :
    l ⊆ sep.intercalate xs := by
  induction xs with
  | nil => cases hl
  | cons k xs ih =>
    cases xs with
    | nil => simp [List.intercalate, List.mem_singleton.mp hl]
    | cons k' xs =>
      rw [List.intercalate_cons_cons]
      rcases List.mem_cons.mp hl with rfl | hl
      · exact List.subset_append_of_subset_left _ (List.subset_append_left _ _)
      · exact List.subset_append_of_subset_right _ (ih hl)

namespace NullFree

theorem append {s s' : String} (h : NullFree s) (h' : NullFree s') : NullFree (s ++ s') := by
  rw [NullFree, String.toList_append, List.mem_append, not_or]
  exact ⟨h, h'⟩

theorem slashed {xs : List String} (h : ∀ s ∈ xs, NullFree s) :
    NullFree ("/".intercalate xs) := by
  rw [NullFree, String.toList_intercalate]
  refine not_mem_intercalate (by decide) fun l hl => ?_
  obtain ⟨s, hs, rfl⟩ := List.mem_map.mp hl
  exact h s hs

/-- A text of characters of another one. -/
theorem ofList {s : String} {l : List Char} (h : NullFree s) (hl : ∀ c ∈ l, c ∈ s.toList) :
    NullFree (String.ofList l) := by
  rw [NullFree, String.toList_ofList]
  exact fun hmem => h (hl _ hmem)

end NullFree

/-! ### Paths -/

namespace Path

/-- No part of the path holds the null character. -/
def NullFree (p : Path) : Prop := ∀ s ∈ p.parts, TermRef.NullFree s

theorem nullFree_ofText {s : String} (h : TermRef.NullFree s) : (ofText s).NullFree := by
  intro part hpart
  obtain ⟨w, hw, rfl⟩ := List.mem_map.mp (List.mem_filter.mp hpart).1
  exact h.ofList (Pieces.mem_of_mem_cut hw)

theorem NullFree.text {p : Path} (h : p.NullFree) : TermRef.NullFree p.text := by
  rw [Path.text]
  split
  · decide
  · refine .append ?_ (.slashed h)
    cases p.anchor <;> decide

/-- Every part of a path is in its text. -/
theorem nullFree_of_text {p : Path} (h : TermRef.NullFree p.text) : p.NullFree := by
  intro part hpart hnull
  rw [Path.text, if_neg fun hdot => by rw [hdot.2] at hpart; cases hpart] at h
  refine h ?_
  rw [String.toList_append, String.toList_intercalate]
  exact List.mem_append_right _ (subset_intercalate (List.mem_map_of_mem hpart) hnull)

theorem NullFree.below {p : Path} {parts : List String} (h : p.NullFree)
    (hparts : ∀ s ∈ parts, TermRef.NullFree s) : (p.below parts).NullFree := by
  intro s hs
  rcases List.mem_append.mp hs with hs | hs
  · exact h s hs
  · exact hparts s hs

/-- Settling leaves parts out, and brings none in. -/
theorem mem_of_mem_settle {parts : List String} {s : String} (h : s ∈ settle parts) :
    s ∈ parts := by
  have hfold : ∀ done : List String, s ∈ parts.foldl follow done → s ∈ done ∨ s ∈ parts := by
    clear h
    induction parts with
    | nil => exact fun done h => .inl h
    | cons part parts ih =>
      intro done h
      rcases ih _ h with h | h
      · rw [follow] at h
        split at h
        · exact .inl (List.dropLast_subset _ h)
        · rcases List.mem_append.mp h with h | h
          · exact .inl h
          · exact .inr (List.mem_cons.mpr (.inl (List.mem_singleton.mp h)))
      · exact .inr (List.mem_cons_of_mem _ h)
  rcases hfold [] h with h | h
  · cases h
  · exact h

theorem mem_of_mem_absolute {here : Place} {p : Path} {s : String}
    (h : s ∈ (p.absolute here).parts) : s ∈ here ∨ s ∈ p.parts := by
  rw [Path.absolute] at h
  split at h
  · exact List.mem_append.mp (mem_of_mem_settle h)
  · exact .inr (mem_of_mem_settle h)

end Path

/-- What leads from the input root to a path is made of parts of the path, and of the names of the
working directory. -/
theorem mem_of_mem_partsOf {here : Place} {inputRoot p : Path} {s : String}
    (h : s ∈ Run.partsOf here inputRoot p) : s ∈ here ∨ s ∈ p.parts := by
  refine Path.mem_of_mem_absolute ?_
  rw [Run.partsOf] at h
  unfold Path.partsFrom? at h
  split at h
  · exact List.mem_of_mem_drop h
  · exact h

theorem nullFree_partsOf {here : Place} {p : Path} (inputRoot : Path)
    (hhere : ∀ s ∈ here, NullFree s) (h : p.NullFree) :
    ∀ s ∈ Run.partsOf here inputRoot p, NullFree s := fun s hs =>
  (mem_of_mem_partsOf hs).elim (hhere s) (h s)

/-! ### Trees -/

namespace FileTree

variable {t : FileTree} {path : String}

/-- No name in the tree holds the null character. -/
def NullFree (t : FileTree) : Prop := ∀ e ∈ t.items, ∀ s ∈ e.1, TermRef.NullFree s

/-- **A path in writing is none exactly if it holds the null character.** -/
theorem find_eq_nullCharacter :
    t.find path = .error .nullCharacter ↔ ¬ TermRef.NullFree path := by
  rw [find, TermRef.NullFree, Decidable.not_not]
  by_cases h : path.toList.contains '\x00' = true
  · rw [if_pos h]
    simpa using h
  · rw [if_neg h]
    have hmem : '\x00' ∉ path.toList := by simpa using h
    refine iff_of_false (fun he => ?_) hmem
    split at he
    · cases he
    · split at he
      · cases he
      · dsimp only at he
        split at he <;> cases he

theorem read_eq_nullCharacter :
    t.read path = .error .nullCharacter ↔ ¬ TermRef.NullFree path := by
  rw [← find_eq_nullCharacter (t := t), read]
  rcases t.find path with e | ⟨p, _ | (b | -)⟩ <;> simp [Bind.bind, Except.bind, throw, throwThe,
    MonadExceptOf.throw, Pure.pure, Except.pure]

/-- Writing a file changes items only, and fails for the null character only if its path
holds it. -/
theorem write_outcome (t : FileTree) (path : String) (b : List UInt8) :
    (∃ u, t.write path b = .ok u ∧ u.here = t.here) ∨
      ∃ e, t.write path b = .error e ∧ (TermRef.NullFree path → e ≠ .nullCharacter) := by
  have hnull : t.find path = .error .nullCharacter ↔ ¬ TermRef.NullFree path :=
    find_eq_nullCharacter
  rw [write]
  rcases hf : t.find path with e | ⟨p, - | (b' | -)⟩
  · exact .inr ⟨e, rfl, fun h he => hnull.mp (by rw [hf, he]) h⟩
  · exact .inl ⟨_, rfl, rfl⟩
  · exact .inl ⟨_, rfl, rfl⟩
  · exact .inr ⟨_, rfl, fun _ => by simp⟩

/-- So does making a directory. -/
theorem makeDirectory_outcome (t : FileTree) (path : String) :
    (∃ u, t.makeDirectory path = .ok u ∧ u.here = t.here) ∨
      ∃ e, t.makeDirectory path = .error e ∧ (TermRef.NullFree path → e ≠ .nullCharacter) := by
  have hnull : t.find path = .error .nullCharacter ↔ ¬ TermRef.NullFree path :=
    find_eq_nullCharacter
  rw [makeDirectory]
  rcases hf : t.find path with e | ⟨p, - | i⟩
  · exact .inr ⟨e, rfl, fun h he => hnull.mp (by rw [hf, he]) h⟩
  · exact .inl ⟨_, rfl, rfl⟩
  · exact .inr ⟨_, rfl, fun _ => by simp⟩

/-- A change of the tree stays in the working directory, and does not fail for the null
character if what it is about is clear of it. -/
def Sound (t : FileTree) (clear : Prop) (r : FileTree × Option FileError) : Prop :=
  r.1.here = t.here ∧ (clear → r.2 ≠ some .nullCharacter)

variable {clear : Prop}

theorem sound_orPresent {e : FileError} (h : clear → e ≠ .nullCharacter) :
    t.Sound clear (t.orPresent path e) := by
  rw [orPresent]
  split
  · exact ⟨rfl, fun _ => by simp⟩
  · exact ⟨rfl, fun hc he => h hc (Option.some.inj he)⟩

theorem sound_provideDirectory (h : clear → TermRef.NullFree path) :
    t.Sound clear (t.provideDirectory path) := by
  rw [provideDirectory]
  rcases t.makeDirectory_outcome path with ⟨u, hu, hhere⟩ | ⟨e, he, hne⟩
  · rw [hu]
    exact ⟨hhere, fun _ => by simp⟩
  · rw [he]
    split
    · contradiction
    · exact ⟨rfl, fun _ => by simp⟩
    · rename_i heq
      cases heq
      exact sound_orPresent fun hc => hne (h hc)

theorem sound_provideAll {anchor : Anchor} {up : List String}
    (h : clear → ∀ s ∈ up, TermRef.NullFree s) : t.Sound clear (provideAll anchor up t) := by
  induction up with
  | nil =>
    rw [provideAll]
    exact sound_provideDirectory fun _ =>
      Path.NullFree.text (p := ⟨anchor, []⟩) (by simp [Path.NullFree])
  | cons name up ih =>
    have hpath : clear → TermRef.NullFree (Path.text ⟨anchor, (name :: up).reverse⟩) := fun hc =>
      Path.NullFree.text fun s hs => h hc s (List.mem_reverse.mp hs)
    have hup : t.Sound clear (provideAll anchor up t) := ih fun hc s hs =>
      h hc s (List.mem_cons_of_mem _ hs)
    rw [provideAll]
    rcases t.makeDirectory_outcome (Path.text ⟨anchor, (name :: up).reverse⟩) with
      ⟨u, hu, hhere⟩ | ⟨e, he, hne⟩
    · rw [hu]
      exact ⟨hhere, fun _ => by simp⟩
    · rw [he]
      split
      · contradiction
      · rcases hr : provideAll anchor up t with ⟨u, - | e'⟩
        · rw [hr] at hup
          obtain ⟨hhere, hnone⟩ := sound_provideDirectory (t := u) hpath
          exact ⟨hhere.trans hup.1, hnone⟩
        · rwa [hr] at hup
      · rename_i heq
        cases heq
        exact sound_orPresent fun hc => hne (hpath hc)

/-- Making the directories that lead to a path. -/
theorem sound_provide {p : Path} (h : clear → p.NullFree) : t.Sound clear (t.provide p) :=
  sound_provideAll fun hc s hs => h hc s (List.mem_reverse.mp hs)

end FileTree

/-- Writing a file, with the directories that lead to it. -/
theorem sound_writeBytes (t : FileTree) (target : Path) (b : List UInt8) :
    t.Sound target.NullFree (Run.writeBytes t target b) := by
  have hparent : t.Sound target.NullFree (t.provide target.parent) :=
    FileTree.sound_provide fun h s hs => h s (List.dropLast_subset _ hs)
  rw [Run.writeBytes]
  rcases hr : t.provide target.parent with ⟨u, - | e⟩
  · rw [hr] at hparent
    dsimp only
    rcases u.write_outcome target.text b with ⟨v, hv, hhere⟩ | ⟨e, he, hne⟩
    · rw [hv]
      exact ⟨hhere.trans hparent.1, fun _ => by simp⟩
    · rw [he]
      exact ⟨hparent.1, fun h heq => hne h.text (Option.some.inj heq)⟩
  · rwa [hr] at hparent

/-! ### Patterns -/

namespace Glob

/-- Taking a pattern to pieces loses nothing. -/
theorem flatMap_pieces (s : List Char) : (pieces s).flatMap pieceText = s := by
  fun_induction pieces s with
  | case1 => rfl
  | case2 r h ih => simpa [pieceText, h] using ih
  | case3 r slashes name more h ih => simpa [pieceText, h] using ih
  | case4 c r hc h ih => simpa [pieceText, h] using ih
  | case5 c r hc name more h ih => simpa [pieceText, h] using ih
  | case6 c r hc hnil hcons ih => simpa [pieceText] using ih

variable {t : FileTree} {s : String}

/-- The stem and the names of a pattern are made of its characters. -/
theorem nullFree_ofText (h : NullFree s) :
    NullFree (Pattern.ofText s).stem ∧ ∀ name ∈ (Pattern.ofText s).names, NullFree name := by
  have hpieces : ∀ p ∈ pieces s.toList, ∀ c ∈ pieceText p, c ∈ s.toList := fun p hp c hc =>
    flatMap_pieces s.toList ▸ List.mem_flatMap.mpr ⟨p, hp, hc⟩
  have hmagic : ∀ p ∈ (pieces s.toList).dropWhile (fun p => !WildPart.isMagic p.2),
      ∀ c ∈ pieceText p, c ∈ s.toList := fun p hp => hpieces p (List.dropWhile_subset _ hp)
  rw [Pattern.ofText, List.span_eq_takeWhile_dropWhile]
  refine ⟨h.ofList fun c hc => ?_, fun name hname => ?_⟩
  · rcases List.mem_append.mp hc with hc | hc
    · obtain ⟨p, hp, hc⟩ := List.mem_flatMap.mp hc
      exact hpieces p (List.takeWhile_subset _ hp) c hc
    · split at hc
      · rcases hhead : ((pieces s.toList).dropWhile fun p => !WildPart.isMagic p.2).head? with - | p
        · rw [hhead] at hc
          cases hc
        · rw [hhead] at hc
          exact hmagic p (List.mem_of_head? hhead) c (List.mem_append_left _ hc)
      · cases hc
  · obtain ⟨p, hp, rfl⟩ := List.mem_map.mp hname
    exact h.ofList fun c hc => hmagic p hp c (List.mem_append_right _ hc)

end Glob

end TermRef
