/-
TermRef/Proofs/Files/Normal.lean

The normal form of a path in writing.

What a text says about the way from the root of all files is a list of names: those of the
working directory, if the text does not begin with a slash, and its own (`Path.spelled`).  Some of
them make no difference.  A name that does not count can be left out, and so can a name together
with the two dots that lead back from it, and two dots at the root (`Path.Omits`).

It does not matter in which order this is done.  Leaving out never changes what settling the names
comes to (`Path.Omits.settledFrom_eq`), plain names, of which nothing can be left out, are settled
(`Path.plain_iff`, `Path.Plain.settledFrom`), and by leaving out one gets that far
(`Path.reaches_settledFrom`).  So every text has one normal form, and that is the absolute path
(`Path.isNormal_iff`).
-/
import TermRef.Proofs.Files.Beside
import Mathlib.Logic.Relation

namespace TermRef.Path

open Relation

variable {ns ms done : List String} {here s : String} {p : Path}

/-! ### Names that make no difference -/

/-- Names, and what is left of them without some that make no difference. -/
inductive Omits : List String → List String → Prop
  /-- A name that does not count. -/
  | blank {name : String} (before after : List String) : counts name = false →
      Omits (before ++ name :: after) (before ++ after)
  /-- A name, and two dots that lead back from it. -/
  | back {name : String} (before after : List String) : counts name = true → name ≠ ".." →
      Omits (before ++ name :: ".." :: after) (before ++ after)
  /-- Two dots at the root, from where nothing leads back. -/
  | root (after : List String) : Omits (".." :: after) after

/-- All names count, and none are two dots. -/
def Plain (ns : List String) : Prop := ∀ n ∈ ns, counts n = true ∧ n ≠ ".."

/-- Nothing can be left out of plain names, and of all others something can. -/
theorem plain_iff : Plain ns ↔ ∀ ms, ¬ Omits ns ms := by
  constructor
  · intro h ms homits
    cases homits with
    | @blank name before after hblank =>
      have hcounts := (h name (by simp)).1
      rw [hblank] at hcounts
      cases hcounts
    | back before after => exact (h ".." (by simp)).2 rfl
    | root after => exact (h ".." (by simp)).2 rfl
  · intro h
    have hcounts : ∀ n ∈ ns, counts n = true := by
      intro n hn
      obtain ⟨before, after, rfl⟩ := List.append_of_mem hn
      exact Bool.of_not_eq_false fun hblank => h _ (.blank before after hblank)
    refine fun n hn => ⟨hcounts n hn, ?_⟩
    rintro rfl
    -- the first two dots are at the root, or behind a name that they lead back from
    obtain ⟨before, after, rfl, hfirst⟩ := List.eq_append_cons_of_mem hn
    rcases List.eq_nil_or_concat before with rfl | ⟨before, n, rfl⟩
    · exact h _ (.root after)
    · rw [List.concat_eq_append, List.append_assoc] at h
      refine h _ (.back before after (hcounts n (by simp)) ?_)
      rintro rfl
      exact hfirst (by simp)

/-! ### Settling -/

/-- What names lead to from where others have led, those that do not count left out. -/
def settledFrom (done ns : List String) : List String := (ns.filter counts).foldl follow done

theorem settledFrom_append (done ns ms : List String) :
    settledFrom done (ns ++ ms) = settledFrom (settledFrom done ns) ms := by
  rw [settledFrom, List.filter_append, List.foldl_append, settledFrom, settledFrom]

theorem settledFrom_blank {name : String} (h : counts name = false) (done ns : List String) :
    settledFrom done (name :: ns) = settledFrom done ns := by
  rw [settledFrom, List.filter_cons_of_neg (by simp [h]), settledFrom]

theorem settledFrom_up (done ns : List String) :
    settledFrom done (".." :: ns) = settledFrom done.dropLast ns := by
  rw [settledFrom, List.filter_cons_of_pos (by decide), List.foldl_cons, follow, if_pos rfl,
    settledFrom]

theorem settledFrom_name {name : String} (h : counts name = true) (hup : name ≠ "..")
    (done ns : List String) :
    settledFrom done (name :: ns) = settledFrom (done ++ [name]) ns := by
  rw [settledFrom, List.filter_cons_of_pos h, List.foldl_cons, follow, if_neg hup, settledFrom]

/-- **Leaving out names that make no difference makes none** to what they lead to. -/
theorem Omits.settledFrom_eq (h : Omits ns ms) : settledFrom [] ns = settledFrom [] ms := by
  cases h with
  | blank before after hblank =>
    rw [settledFrom_append, settledFrom_append, settledFrom_blank hblank]
  | back before after hcounts hup =>
    rw [settledFrom_append, settledFrom_append, settledFrom_name hcounts hup, settledFrom_up,
      List.dropLast_concat]
  | root => rw [settledFrom_up, List.dropLast_nil]

theorem Plain.append_name {name : String} (h : Plain done) (hname : counts name = true)
    (hup : name ≠ "..") : Plain (done ++ [name]) := by
  intro n hn
  rcases List.mem_append.mp hn with hn | hn
  · exact h n hn
  · rw [List.mem_singleton.mp hn]
    exact ⟨hname, hup⟩

/-- Plain names lead where they say. -/
theorem Plain.settledFrom (h : Plain ns) : Path.settledFrom done ns = done ++ ns := by
  rw [Path.settledFrom, List.filter_eq_self.mpr fun n hn => (h n hn).1,
    FileTree.foldl_follow_of_not_mem fun hup => (h ".." hup).2 rfl]

/-- **Names are settled by leaving out those that make no difference**, one after the other, and
what they are settled as is plain. -/
theorem reaches_settledFrom (ns : List String) (h : Plain done) :
    ReflTransGen Omits (done ++ ns) (settledFrom done ns) ∧ Plain (settledFrom done ns) := by
  induction ns generalizing done with
  | nil =>
    rw [List.append_nil]
    exact ⟨.refl, h⟩
  | cons n ns ih =>
    rcases hn : counts n with _ | _
    · rw [settledFrom_blank hn]
      exact (ih h).imp_left fun hreach => hreach.head (.blank done ns hn)
    by_cases hup : n = ".."
    · subst hup
      rw [settledFrom_up]
      rcases List.eq_nil_or_concat done with rfl | ⟨done, m, rfl⟩
      · exact (ih h).imp_left fun hreach => hreach.head (.root ns)
      · rw [List.concat_eq_append] at h ⊢
        rw [List.dropLast_concat, List.append_assoc, List.singleton_append]
        obtain ⟨hm, hmup⟩ := h m (by simp)
        exact (ih fun k hk => h k (List.mem_append_left _ hk)).imp_left fun hreach =>
          hreach.head (.back done ns hm hmup)
    · rw [settledFrom_name hn hup, List.append_cons]
      exact ih (h.append_name hn hup)

theorem reaches_settled (ns : List String) :
    ReflTransGen Omits ns (settledFrom [] ns) ∧ Plain (settledFrom [] ns) := by
  have hnil : Plain [] := by simp [Plain]
  exact reaches_settledFrom ns hnil

/-! ### The normal form -/

/-- The text names a path from the root on. -/
def IsRooted (s : String) : Prop := s.toList.head? = some '/'

instance (s : String) : Decidable (IsRooted s) := inferInstanceAs (Decidable (_ = _))

/-- The names that lead from the root of all files to what a text names, as they are written. -/
def spelled (here s : String) : List String :=
  if IsRooted s then names s else names here ++ names s

/-- The path is the normal form of a text, seen from a working directory: it is got from the names
of the text by leaving out such as make no difference, and no more can be left out. -/
structure IsNormal (here s : String) (p : Path) : Prop where
  anchor : p.anchor = if IsRooted s then (ofText s).anchor else .root
  reached : ReflTransGen Omits (spelled here s) p.parts
  settled : ∀ ns, ¬ Omits p.parts ns

theorem anchor_ofText (s : String) : (ofText s).anchor = .here ↔ ¬ IsRooted s := by
  rw [IsRooted, ofText]
  rcases s.toList with - | ⟨c, r⟩
  · simp [anchorOf]
  · by_cases hc : c = '/'
    · subst hc
      simp only [List.takeWhile_cons, beq_self_eq_true, if_true, List.length_cons]
      rcases (r.takeWhile (· == '/')).length with _ | _ | _ <;> simp [anchorOf]
    · simp [anchorOf, hc]

/-- An absolute path is made of the names that its text spells out, once they are settled. -/
theorem absolute_eq (here s : String) : (ofText s).absolute (ofText here).parts =
    ⟨if IsRooted s then (ofText s).anchor else .root, settledFrom [] (spelled here s)⟩ := by
  by_cases h : IsRooted s
  · have hne : (ofText s).anchor ≠ .here := fun ha => (anchor_ofText s).mp ha h
    rw [spelled, if_pos h, if_pos h, absolute]
    split
    · exact absurd ‹_› hne
    · rfl
  · rw [spelled, if_neg h, if_neg h, absolute, (anchor_ofText s).mpr h, settledFrom,
      List.filter_append]
    rfl

/-- **Every text has one normal form, and that is the absolute path.** -/
theorem isNormal_iff : IsNormal here s p ↔ p = (ofText s).absolute (ofText here).parts := by
  obtain ⟨hreach, hplain⟩ := reaches_settled (spelled here s)
  rw [absolute_eq]
  constructor
  · intro h
    have hsame : ∀ {ns}, ReflTransGen Omits (spelled here s) ns →
        settledFrom [] (spelled here s) = settledFrom [] ns := by
      intro ns hns
      induction hns with
      | refl => rfl
      | tail _ hstep ih => exact ih.trans hstep.settledFrom_eq
    rw [hsame h.reached, (plain_iff.mpr h.settled).settledFrom, ← h.anchor, List.nil_append]
  · rintro rfl
    exact ⟨rfl, hreach, plain_iff.mp hplain⟩

end TermRef.Path
