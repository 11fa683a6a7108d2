/-
TermRef/Proofs/Run/Stored.lean

What a run leaves among the files.

The bytes that a visit stores are the bytes of its file with some parts exchanged: those of the
references that have a link, for those of their links (`Spliced.patched`).  `Patched` reads the
bytes one by one, so whatever lies between these parts is kept as it is, line ends, marks and
all; it rests on the bytes of a text being those of its parts one after the other, and on bytes
being read as the one text whose bytes they are.  Without a link all bytes are kept
(`Patched.eq_of_nil`).

A visit stores bytes only if its file is a text with references and the bytes can be written,
and then where the output path leads; without references it changes nothing at all
(`VisitFiles`).  Over a run, each place holds what has been stored there last (`Tour.becomes`),
by one of the visits (`Tour.lastStored`), or else what it held before; where there was nothing
there can be a directory then, but no file (`resolve_changes_only_outputs`).

A text consists of characters, and every character has bytes.  So a conversion can always be
put into bytes, and writing it fails only at what there is among the files.
-/
import TermRef.Proofs.Run.Account

namespace TermRef

open FileTree

/-! ### Bytes patched -/

/-- Bytes with some parts exchanged for others. -/
inductive Patched : List UInt8 → List (List UInt8 × List UInt8) → List UInt8 → Prop
  /-- The bytes end. -/
  | done : Patched [] [] []
  /-- A byte is kept. -/
  | keep {a b ps out} : Patched b ps out → Patched (a :: b) ps (a :: out)
  /-- A part is exchanged for another one. -/
  | swap {old new b ps out} : Patched b ps out → Patched (old ++ b) ((old, new) :: ps) (new ++ out)

namespace Patched

variable {b out : List UInt8} {ps : List (List UInt8 × List UInt8)}

/-- Bytes in front are kept. -/
theorem keepAll (h : Patched b ps out) (kept : List UInt8) :
    Patched (kept ++ b) ps (kept ++ out) := by
  induction kept with
  | nil => exact h
  | cons a kept ih => exact .keep ih

/-- Where nothing is exchanged, all bytes are kept. -/
theorem eq_of_nil (h : Patched b [] out) : out = b := by
  generalize hps : ([] : List (List UInt8 × List UInt8)) = ps at h
  induction h with
  | done => rfl
  | keep _ ih => rw [ih hps]
  | swap => cases hps

end Patched

/-- References and their links, as bytes. -/
def linkBytes (ps : List (Occurrence × String)) : List (List UInt8 × List UInt8) :=
  ps.map fun p => (Utf8.encode p.1.text.toList, Utf8.encode p.2.toList)

/-- **A text with links for references has the bytes of the text, with those of the links for
those of the references.** -/
theorem Spliced.patched {n : Nat} {s out : List Char} {ps : List (Occurrence × Option String)}
    (h : Spliced n s ps out) :
    Patched (Utf8.encode s) (linkBytes (ps.filterMap fun p => p.2.map fun l => (p.1, l)))
      (Utf8.encode out) := by
  induction h with
  | done => exact .done
  | @keep n x s ps out _ ih =>
    rw [Utf8.encode_cons, Utf8.encode_cons]
    exact ih.keepAll _
  | @span n o w l s ps out _ _ htext _ _ ih =>
    rw [Utf8.encode_append, Utf8.encode_append]
    rcases l with - | l
    · exact ih.keepAll _
    · rw [← htext]
      exact .swap ih

/-! ### One visit -/

/-- What a visit does among the files. -/
structure VisitFiles (r : Run) (p : Path) (v : Visit) (s : Run) : Prop where
  /-- Nothing changes at all, unless the file is a text with references. -/
  untouched : (∀ text, r.Holds p text → r.resolver.grammar.scan text = []) → s.files = r.files
  /-- If it is, its conversion is stored exactly if it can be written. -/
  stored : v.stored? ≠ none ↔ ∃ text os out, r.Holds p text ∧
    Converts r.resolver r.glossary p.text text os out ∧
    (Run.writeBytes r.files (r.outputPath p) (Utf8.encode out.toList)).2 = none
  /-- It is stored where the output path leads, and has links for references. -/
  delivered : ∀ place b, v.stored? = some (place, b) →
    s.files.find (r.outputPath p).text = .ok (place, some (.file b)) ∧
      ∃ text, r.Holds p text ∧ Patched (Utf8.encode text.toList) (linkBytes v.replaced) b
  /-- Without links it is a copy. -/
  copied : ∀ place b, v.stored? = some (place, b) → v.replaced = [] →
    r.files.read p.text = .ok b
  /-- Elsewhere at most directories come in. -/
  places : ∀ q, Becomes q r.files s.files (v.storedAt q)

namespace Run

variable {r s : Run} {p : Path} {v : Visit}

/-- The bytes that a visit stores. -/
theorem Visits.delivered {place : Place} {b : List UInt8} (h : r.Visits p v s)
    (hv : v.stored? = some (place, b)) :
    s.files.find (r.outputPath p).text = .ok (place, some (.file b)) ∧
      ∃ text, r.Holds p text ∧ Patched (Utf8.encode text.toList) (linkBytes v.replaced) b := by
  cases h with
  | unreadable => cases hv
  | plain => cases hv
  | unwritable => cases hv
  | @written text os out _ _ hholds hconv _ hstores =>
    obtain ⟨rfl, rfl⟩ := Prod.mk.inj (Option.some.inj hv)
    refine ⟨hstores.leads, text, hholds, ?_⟩
    have hpatched := hconv.spliced.patched
    rwa [List.filterMap_map] at hpatched

/-- A conversion is stored exactly if it can be written. -/
theorem Visits.stored_iff (h : r.Visits p v s) : v.stored? ≠ none ↔
    ∃ text os out, r.Holds p text ∧ Converts r.resolver r.glossary p.text text os out ∧
      (writeBytes r.files (r.outputPath p) (Utf8.encode out.toList)).2 = none := by
  constructor
  · intro hv
    cases h with
    | unreadable => exact absurd rfl hv
    | plain => exact absurd rfl hv
    | unwritable => exact absurd rfl hv
    | @written text os out _ _ hholds hconv hwrite =>
      exact ⟨text, os, out, hholds, hconv, by rw [hwrite]⟩
  · rintro ⟨text, os, out, hholds, hconv, hwrite⟩
    cases h with
    | unreadable hun => exact absurd hholds hun.not_holds
    | plain hholds' hscan => exact absurd hconv (hholds'.not_converts hholds hscan)
    | written => exact Option.some_ne_none _
    | unwritable hholds' hconv' hwrite' =>
      obtain ⟨rfl, rfl⟩ := hholds.converts_unique hholds' hconv hconv'
      rw [hwrite'] at hwrite
      cases hwrite

theorem Visits.visitFiles (h : r.Visits p v s) : VisitFiles r p v s where
  untouched := by
    intro hnone
    cases h with
    | unreadable _ _ _ hfiles => exact hfiles
    | plain _ _ _ hfiles => exact hfiles
    | written hholds hconv => exact absurd (hnone _ hholds) (scan_ne_nil hconv)
    | unwritable hholds hconv => exact absurd (hnone _ hholds) (scan_ne_nil hconv)
  stored := h.stored_iff
  delivered _ _ hv := h.delivered hv
  copied := by
    intro place b hv hnone
    obtain ⟨-, text, hholds, hpatched⟩ := h.delivered hv
    rw [hnone] at hpatched
    rw [hpatched.eq_of_nil]
    exact hholds
  places := h.becomes

/-! ### A whole run -/

/-- What has been stored last at a place. -/
def lastStored (q : Place) : List (Path × Visit) → Option (List UInt8)
  | [] => none
  | (_, v) :: vs => (lastStored q vs).or (v.storedAt q)

/-- What a tour makes of a place among the files. -/
theorem Tour.becomes {last : Run} {vs : List (Path × Visit)} (h : r.Tour vs last) (q : Place) :
    Becomes q r.files last.files (lastStored q vs) := by
  induction h with
  | done => exact .inl rfl
  | visit hv _ _ ih => exact (hv.becomes q).trans ih

theorem storedAt_eq_some {q : Place} {b : List UInt8} :
    v.storedAt q = some b ↔ v.stored? = some (q, b) := by
  rw [Visit.storedAt, Option.bind_eq_some_iff]
  constructor
  · rintro ⟨⟨place, bytes⟩, hstored, hq⟩
    by_cases hplace : place = q
    · rw [if_pos hplace] at hq
      obtain rfl : bytes = b := Option.some.inj hq
      rw [hstored, hplace]
    · rw [if_neg hplace] at hq
      cases hq
  · intro hstored
    exact ⟨(q, b), hstored, if_pos rfl⟩

/-- What has been stored last at a place is what one of the visits has stored there, and none
after it. -/
theorem Tour.lastStored {last : Run} {vs : List (Path × Visit)} {q : Place} {b : List UInt8}
    (h : r.Tour vs last) (hb : lastStored q vs = some b) :
    ∃ before p v rest s u, vs = before ++ (p, v) :: rest ∧ r.Tour before s ∧ s.Visits p v u ∧
      v.stored? = some (q, b) ∧ Run.lastStored q rest = none := by
  induction h with
  | done => cases hb
  | @visit start next last path visit rest hv hkeeps htour ih =>
    rw [Run.lastStored] at hb
    rcases hrest : Run.lastStored q rest with - | b'
    · rw [hrest, Option.none_or] at hb
      exact ⟨[], path, visit, rest, start, next, rfl, .done, hv, storedAt_eq_some.mp hb, hrest⟩
    · rw [hrest, Option.some_or] at hb
      obtain ⟨before, p, v, rest', s, u, rfl, hbefore, hvisit, hstored, hnone⟩ :=
        ih (hrest.trans hb)
      exact ⟨(path, visit) :: before, p, v, rest', s, u, rfl, .visit hv hkeeps hbefore, hvisit,
        hstored, hnone⟩

end Run

/-- What a run that has visited files has made of all files, with the run after the last of
them. -/
structure RunFiles (r : Run) (vs : List (Path × Visit)) (last : Run) : Prop where
  /-- The visits begin with the files as they were. -/
  begins : r.started.files = r.files
  tour : r.started.Tour vs last
  /-- Only files listed are visited, in order. -/
  listed : vs = [] ∨ ∃ ps, r.started.listFiles = .ok ps ∧ vs.map Prod.fst <+: ps
  /-- If the run succeeds, all of them are. -/
  complete : r.resolve.1 = .ok () → r.started.listFiles = .ok (vs.map Prod.fst)
  /-- Each place has what the visits have stored there last, or is as it was, or has a directory
  where there was nothing. -/
  places : ∀ q, Becomes q r.files r.resolve.2.files (Run.lastStored q vs)
  /-- What has been stored last at a place is from a visit of one of these files. -/
  outputs : ∀ q b, Run.lastStored q vs = some b → ∃ before p v rest s u,
    vs = before ++ (p, v) :: rest ∧ r.started.Tour before s ∧ s.Visits p v u ∧
      v.stored? = some (q, b) ∧ Run.lastStored q rest = none

/-- **A run changes no files but those that its output paths lead to.**  What it stores there
are the bytes of the files listed, with links for references; and whatever has been stored at a
place last is there in the end. -/
theorem resolve_changes_only_outputs (r : Run) :
    (∀ {s u : Run} {p : Path} {v : Visit}, s.Visits p v u → VisitFiles s p v u) ∧
      ∃ vs last, RunFiles r vs last := by
  refine ⟨fun hv => hv.visitFiles, ?_⟩
  obtain ⟨vs, last, htour, hlisted, hgrows, hok⟩ := r.resolve_tour
  refine ⟨vs, last, r.started_files, htour, hlisted, fun h => (hok h).1, fun q => ?_, ?_⟩
  · -- behind the last visit nothing is stored
    have hlast := htour.becomes q
    rw [Run.started_files] at hlast
    exact hlast.trans (hgrows.item? q List.not_mem_nil)
  · intro q b hb
    exact htour.lastStored hb

/-- The run over a file with two references, once more over the files that it has left. -/
def Run.repeated : Run := { Run.paired with files := Run.paired.resolve.2.files }

/-- What is stored may be there already.  Then the output path of a file with references is not
that of a file created or changed, although its conversion has been written. -/
theorem repeated_run_changes_nothing :
    Run.repeated.resolve.1 = .ok () ∧ Run.repeated.listFiles = .ok [⟨.here, ["a"]⟩] ∧
      Run.repeated.files.read "a" = .ok (Utf8.encode "[a](@) [b](@)".toList) ∧
      (Run.repeated.started.processFile ⟨.here, ["a"]⟩).1 = .ok (some ⟨.root, ["out", "a"]⟩) ∧
      Run.repeated.resolve.2.files = Run.repeated.files := by
  decide +kernel

end TermRef
