/-
TermRef/Proofs/Glossary/Load.lean

What an attempt to load a glossary comes to.

An attempt starts by looking for terminologies; without any, or if the directory cannot be
searched, it ends there and leaves the glossary as it is (`load_starts`).

The terminologies of a scope are taken over one after the other.  Each of them can be taken
over whole, or there is trouble with its file, or it upsets the attempt: its bytes are no
text, it asks for a value that does not exist, or one of its entries is refused
(`takes_or_troubles_or_upset`).  Which of these holds is settled by the file and the scope,
and not by what has been loaded before.

The attempt goes on behind terminologies that it takes over (`loadFrom_past`) and ends at the
first that it does not.  So it makes the glossary ready if it takes all of them over, and
otherwise fails as the first of the others has it (`load_takes`, `load_troubles`,
`load_upset`).
-/
import TermRef.Glossary.Load
import TermRef.Proofs.Glossary.Intake

namespace TermRef

/-! ### Files -/

/-- What a reader of a mapping makes no provision for: a path that is none, bytes that are no
text, and a text that asks for a value that does not exist. -/
inductive FileTree.Upsets (t : FileTree) (path : String) : Mishap → Prop
  | nullCharacter : t.read path = .error .nullCharacter → t.Upsets path .nullCharacter
  | bytes {b f} : t.read path = .ok b →
      Utf8.decodeChunked FileTree.chunkSize b = .error f → t.Upsets path (.bytes f)
  | value {b text f} : t.read path = .ok b →
      Utf8.decodeChunked FileTree.chunkSize b = .ok text →
      Yaml.read (Lines.unifyEnds text) = .error f → f ≠ .malformed → t.Upsets path (.value f)

variable {t : FileTree}

/-- A failure is wrapped, and a result passed on. -/
theorem mapError_bind {α β ε ε' : Type} (f : ε → ε') (x : Except ε α) (k : α → Except ε' β) :
    (x.mapError f >>= k) = match x with
      | .error e => .error (f e)
      | .ok a => k a := by
  cases x <;> rfl

/-- The three readers of a document, one after the other. -/
theorem document_eq (t : FileTree) (path : String) : t.document path =
    match t.read path with
    | .error f => .error (.file f)
    | .ok b =>
      match Utf8.decodeChunked FileTree.chunkSize b with
      | .error f => .error (.bytes f)
      | .ok text =>
        match Yaml.read (Lines.unifyEnds text) with
        | .error f => .error (.text f)
        | .ok v => .ok v := by
  rw [FileTree.document, mapError_bind]
  rcases t.read path with f | b
  · rfl
  · dsimp only
    rw [mapError_bind]
    rcases Utf8.decodeChunked FileTree.chunkSize b with f | text
    · rfl
    · dsimp only
      rcases Yaml.read (Lines.unifyEnds text) with f | v <;> rfl

/-- A document fails where one of its three readers does, and those before it do not. -/
theorem document_eq_error {path : String} {e : DocumentError} : t.document path = .error e ↔
    (∃ f, t.read path = .error f ∧ e = .file f) ∨
      ∃ b, t.read path = .ok b ∧
        ((∃ f, Utf8.decodeChunked FileTree.chunkSize b = .error f ∧ e = .bytes f) ∨
          ∃ text, Utf8.decodeChunked FileTree.chunkSize b = .ok text ∧
            ∃ f, Yaml.read (Lines.unifyEnds text) = .error f ∧ e = .text f) := by
  rw [document_eq]
  rcases t.read path with f | b
  · simp [eq_comm]
  · rcases hd : Utf8.decodeChunked FileTree.chunkSize b with f | text
    · simp [hd, eq_comm]
    · rcases hy : Yaml.read (Lines.unifyEnds text) with f | v
      · simp [hd, hy, eq_comm]
      · simp [hd, hy]

theorem ofDocument_text {f : Yaml.Fault} (hf : f ≠ .malformed) :
    MappingError.ofDocument (.text f) = .mishap (.value f) := by
  cases f with
  | malformed => exact absurd rfl hf
  | _ => rfl

/-- A file gives no mapping by mishap exactly if it upsets the reader. -/
theorem mapping_eq_mishap {α : Type} {path : String} {check : Entries → Checked α} {m : Mishap} :
    t.mapping path check = .error (.mishap m) ↔ t.Upsets path m := by
  have herror : ∀ {e}, t.document path = .error e →
      t.mapping path check = .error (.ofDocument e) := by
    intro e he
    rw [FileTree.mapping, he]
    rfl
  constructor
  · intro h
    rcases hd : t.document path with e | v
    · have he : MappingError.ofDocument e = .mishap m := Except.error.inj ((herror hd).symm.trans h)
      rcases document_eq_error.mp hd with
        ⟨f, hf, rfl⟩ | ⟨b, hb, ⟨f, hf, rfl⟩ | ⟨text, ht, f, hf, rfl⟩⟩
      · cases f with
        | system => cases he
        | nullCharacter =>
          cases he
          exact .nullCharacter hf
      · cases he
        exact .bytes hb hf
      · by_cases hmal : f = .malformed
        · rw [hmal] at he
          cases he
        · rw [ofDocument_text hmal] at he
          cases he
          exact .value hb ht hf hmal
    · -- a document that is there can only be trouble
      rw [FileTree.mapping, hd, mapError_bind] at h
      dsimp only at h
      split at h
      · split at h <;> cases h
      · cases h
  · rintro (hf | ⟨hb, hf⟩ | ⟨hb, ht, hf, hmal⟩)
    · rw [herror (document_eq_error.mpr (.inl ⟨_, hf, rfl⟩))]
      rfl
    · rw [herror (document_eq_error.mpr (.inr ⟨_, hb, .inl ⟨_, hf, rfl⟩⟩))]
      rfl
    · rw [herror (document_eq_error.mpr (.inr ⟨_, hb, .inr ⟨_, ht, _, hf, rfl⟩⟩)),
        ofDocument_text hmal]

/-! ### One terminology -/

namespace Glossary

/-- The path of a terminology. -/
def pathOf (g : Glossary) (name : String) : String := (g.directory.below [name]).text

/-- A terminology can be taken over whole. -/
def Takes (g : Glossary) (t : FileTree) (name : String) : Prop :=
  ∃ y, t.mapping (g.pathOf name) Terminology.ofEntries = .ok y ∧
    ∀ v ∈ y.entries, v.Settles g.website

/-- There is trouble with the file of a terminology. -/
def Troubles (g : Glossary) (t : FileTree) (name : String) (y : Trouble) : Prop :=
  t.mapping (g.pathOf name) Terminology.ofEntries = .error (.trouble y)

/-- A terminology upsets an attempt to load it: by its file, or by the first entry of it that is
refused. -/
inductive Upset (g : Glossary) (t : FileTree) (name : String) : Mishap → Prop
  | file {m} : t.Upsets (g.pathOf name) m → g.Upset t name m
  | entry {y pre v post m} : t.mapping (g.pathOf name) Terminology.ofEntries = .ok y →
      y.entries = pre ++ v :: post → (∀ u ∈ pre, u.Settles g.website) →
      v.Refused g.website m → g.Upset t name m

variable {g : Glossary} {name : String}

theorem takes_or_troubles_or_upset (g : Glossary) (t : FileTree) (name : String) :
    g.Takes t name ∨ (∃ y, g.Troubles t name y) ∨ ∃ m, g.Upset t name m := by
  rcases h : t.mapping (g.pathOf name) Terminology.ofEntries with (y | m) | y
  · exact .inr (.inl ⟨y, h⟩)
  · exact .inr (.inr ⟨m, .file (mapping_eq_mishap.mp h)⟩)
  · rcases forall_or_first (Value.Settles g.website) y.entries with
      hall | ⟨pre, v, post, hy, hpre, hv⟩
    · exact .inl ⟨y, h, hall⟩
    · obtain ⟨m, hm⟩ := Classical.not_forall_not.mp hv
      exact .inr (.inr ⟨m, .entry h hy hpre hm⟩)

/-- Two glossaries differ in their entries only: they are for the same scope, and one is ready
if the other is. -/
structure Like (g g' : Glossary) : Prop where
  admin : g.admin = g'.admin
  scopedir : g.scopedir = g'.scopedir
  ready : g.ready = g'.ready

theorem Like.refl (g : Glossary) : g.Like g := ⟨rfl, rfl, rfl⟩

theorem Like.trans {g g' g'' : Glossary} (h : g.Like g') (h' : g'.Like g'') : g.Like g'' :=
  ⟨h.admin.trans h'.admin, h.scopedir.trans h'.scopedir, h.ready.trans h'.ready⟩

theorem Like.pathOf {g g' : Glossary} (h : g.Like g') (name : String) :
    g.pathOf name = g'.pathOf name := by
  rw [Glossary.pathOf, Glossary.pathOf, directory, directory, h.admin, h.scopedir]

theorem Like.website {g g' : Glossary} (h : g.Like g') : g.website = g'.website := by
  rw [Glossary.website, Glossary.website, h.admin]

/-- What becomes of a terminology does not hang on what has been loaded before. -/
theorem Like.takes {g g' : Glossary} (h : g.Like g') (ht : g'.Takes t name) : g.Takes t name := by
  rw [Takes, h.pathOf name, h.website]
  exact ht

theorem Like.troubles {g g' : Glossary} {y : Trouble} (h : g.Like g') (ht : g'.Troubles t name y) :
    g.Troubles t name y := by
  rw [Troubles, h.pathOf name]
  exact ht

theorem Like.upset {g g' : Glossary} {m : Mishap} (h : g.Like g') (hu : g'.Upset t name m) :
    g.Upset t name m := by
  cases hu with
  | file hf =>
    rw [← h.pathOf name] at hf
    exact .file hf
  | entry hy he hpre hv =>
    rw [← h.pathOf name] at hy
    rw [← h.website] at hpre hv
    exact .entry hy he hpre hv

/-- Nor does it hang on whether anything has. -/
theorem Upset.emptied {m : Mishap} (h : g.Upset t name m) : g.emptied.Upset t name m := by
  cases h with
  | file hf => exact .file hf
  | entry hy he hpre hv => exact .entry hy he hpre hv

end Glossary

open Glossary

/-- Settled entries leave a glossary like it was. -/
theorem like_settle (i : Intake) (source : String) (as : List Admission) :
    (i.settle source as).glossary.Like i.glossary := by
  rw [Intake.settle, foldl_add]
  exact ⟨rfl, rfl, rfl⟩

/-! ### All terminologies -/

namespace Loading

variable {g : Glossary} {name : String} {pre : List String}

-- what the files hold is not to be computed here
seal FileTree.mapping Intake.take in
theorem loadFrom_cons (t : FileTree) (name : String) (names : List String) (g : Glossary)
    (j : Journal) : loadFrom t (name :: names) g j =
      match t.mapping (g.pathOf name) Terminology.ofEntries with
      | .error e => ⟨g, j, some (.ofMapping (.terminology (g.pathOf name)) e)⟩
      | .ok y =>
        match Intake.take g j y (g.pathOf name) with
        | (i, some m) => ⟨i.glossary, i.journal, some (.mishap m)⟩
        | (i, none) =>
          loadFrom t names i.glossary (i.journal.note .glossary .info (takenNote i name)) := rfl

/-- An attempt goes on behind a terminology that it takes over. -/
theorem loadFrom_takes (h : g.Takes t name) (names : List String) (j : Journal) :
    ∃ g' j', g'.Like g ∧ loadFrom t (name :: names) g j = loadFrom t names g' j' := by
  obtain ⟨y, hy, hall⟩ := h
  rw [loadFrom_cons, hy]
  dsimp only
  rw [Intake.take_of_settles hall]
  exact ⟨_, _, like_settle { glossary := g, journal := j } _ _, rfl⟩

theorem loadFrom_troubles {y : Trouble} (h : g.Troubles t name y) (names : List String)
    (j : Journal) :
    loadFrom t (name :: names) g j = ⟨g, j, some (.terminology (g.pathOf name) y)⟩ := by
  rw [loadFrom_cons, h]
  rfl

theorem loadFrom_upset {m : Mishap} (h : g.Upset t name m) (names : List String) (j : Journal) :
    (loadFrom t (name :: names) g j).failure = some (.mishap m) ∧
      (loadFrom t (name :: names) g j).glossary.Like g := by
  rw [loadFrom_cons]
  cases h with
  | file h =>
    rw [mapping_eq_mishap.mpr h]
    exact ⟨rfl, .refl g⟩
  | entry h hy hpre hv =>
    rw [h]
    dsimp only
    rw [Intake.take_of_refused hy hpre hv]
    exact ⟨rfl, like_settle { glossary := g, journal := j } (g.pathOf name) _⟩

/-- **An attempt goes on behind terminologies that it takes over.** -/
theorem loadFrom_past (hpre : ∀ n ∈ pre, g.Takes t n) (names : List String) (j : Journal) :
    ∃ g' j', g'.Like g ∧ loadFrom t (pre ++ names) g j = loadFrom t names g' j' := by
  induction pre generalizing g j with
  | nil => exact ⟨g, j, .refl g, rfl⟩
  | cons n pre ih =>
    obtain ⟨g₁, j₁, hlike, hload⟩ := loadFrom_takes (hpre n List.mem_cons_self) (pre ++ names) j
    have hpre' : ∀ n' ∈ pre, g₁.Takes t n' := fun n' hn' =>
      hlike.takes (hpre n' (List.mem_cons_of_mem _ hn'))
    obtain ⟨g₂, j₂, hlike', hload'⟩ := ih hpre' j₁
    exact ⟨g₂, j₂, hlike'.trans hlike, by rw [List.cons_append, hload, hload']⟩

end Loading

/-! ### The attempt -/

namespace Glossary

variable {g : Glossary} {j : Journal} {pre post : List String} {name : String}

-- nothing is to be searched or loaded here
seal searchError? terminologyNames Loading.loadFrom in
/-- An attempt by what is found. -/
theorem load_eq (t : FileTree) (g : Glossary) (j : Journal) : g.load t j =
    match searchError? t g.directory with
    | some e => ⟨g, j, some (.mishap (.listing e))⟩
    | none =>
      match terminologyNames t g.directory with
      | [] => ⟨g, j, some (.noTerminology g.directory.text)⟩
      | names => (Loading.loadFrom t names g.emptied j).finish names.length := rfl

/-- Terminologies that are found are loaded, into a glossary without entries. -/
theorem load_of_found (hs : searchError? t g.directory = none)
    (hne : terminologyNames t g.directory ≠ []) :
    g.load t j = (Loading.loadFrom t (terminologyNames t g.directory) g.emptied j).finish
      (terminologyNames t g.directory).length := by
  rw [load_eq, hs]
  dsimp only
  split
  · rename_i hnil
    exact absurd hnil hne
  · rfl

/-- **How an attempt starts**: the directory cannot be searched, or no terminology is found in
it, or those that are found are loaded. -/
theorem load_starts (t : FileTree) (g : Glossary) (j : Journal) :
    (∃ e, searchError? t g.directory = some e ∧
      g.load t j = ⟨g, j, some (.mishap (.listing e))⟩) ∨
    (terminologyNames t g.directory = [] ∧
      g.load t j = ⟨g, j, some (.noTerminology g.directory.text)⟩) ∨
    (searchError? t g.directory = none ∧ terminologyNames t g.directory ≠ [] ∧
      g.load t j = (Loading.loadFrom t (terminologyNames t g.directory) g.emptied j).finish
        (terminologyNames t g.directory).length) := by
  rcases hs : searchError? t g.directory with - | e
  · by_cases hne : terminologyNames t g.directory = []
    · exact .inr (.inl ⟨hne, by rw [load_eq, hs, hne]⟩)
    · exact .inr (.inr ⟨rfl, hne, load_of_found hs hne⟩)
  · exact .inl ⟨e, rfl, by rw [load_eq, hs]⟩

/-- An attempt that has failed makes nothing ready. -/
theorem finish_of_failure {l : Loading} {f : Failure} (h : l.failure = some f) (n : Nat) :
    l.finish n = l := by
  rw [Loading.finish, h]

/-- **The glossary is ready once all terminologies have been taken over.** -/
theorem load_takes (hs : searchError? t g.directory = none)
    (hne : terminologyNames t g.directory ≠ [])
    (h : ∀ n ∈ terminologyNames t g.directory, g.Takes t n) :
    (g.load t j).failure = none ∧ (g.load t j).glossary.ready = true := by
  obtain ⟨g', j', -, hload⟩ := Loading.loadFrom_past (t := t) (g := g.emptied) h [] j
  rw [List.append_nil] at hload
  rw [load_of_found hs hne, hload]
  exact ⟨rfl, rfl⟩

/-- **Trouble with a file fails the attempt**, if all before it are taken over. -/
theorem load_troubles {y : Trouble} (hs : searchError? t g.directory = none)
    (hn : terminologyNames t g.directory = pre ++ name :: post)
    (hpre : ∀ n ∈ pre, g.Takes t n) (h : g.Troubles t name y) :
    (g.load t j).failure = some (.terminology (g.pathOf name) y) := by
  obtain ⟨g', j', hlike, hload⟩ := Loading.loadFrom_past (t := t) (g := g.emptied) hpre
    (name :: post) j
  have hend := Loading.loadFrom_troubles (hlike.troubles h) post j'
  rw [load_of_found hs (by simp [hn]), hn, hload, hend, finish_of_failure rfl,
    hlike.pathOf name]
  rfl

/-- **So does an upset, for which no provision is made.** -/
theorem load_upset {m : Mishap} (hs : searchError? t g.directory = none)
    (hn : terminologyNames t g.directory = pre ++ name :: post)
    (hpre : ∀ n ∈ pre, g.Takes t n) (h : g.Upset t name m) :
    (g.load t j).failure = some (.mishap m) ∧ (g.load t j).glossary.ready = false := by
  obtain ⟨g', j', hlike, hload⟩ := Loading.loadFrom_past (t := t) (g := g.emptied) hpre
    (name :: post) j
  obtain ⟨hfail, hlike'⟩ := Loading.loadFrom_upset (hlike.upset h.emptied) post j'
  rw [load_of_found hs (by simp [hn]), hn, hload, finish_of_failure hfail]
  exact ⟨hfail, (hlike'.trans hlike).ready⟩

/-- An attempt that goes through has taken over what there is. -/
theorem takes_of_load (h : (g.load t j).failure = none) :
    searchError? t g.directory = none ∧ terminologyNames t g.directory ≠ [] ∧
      ∀ n ∈ terminologyNames t g.directory, g.Takes t n := by
  rcases load_starts t g j with ⟨e, -, heq⟩ | ⟨-, heq⟩ | ⟨hs, hne, -⟩
  · rw [heq] at h
    cases h
  · rw [heq] at h
    cases h
  · refine ⟨hs, hne, ?_⟩
    rcases forall_or_first (g.Takes t) (terminologyNames t g.directory) with
      hall | ⟨pre, name, post, hn, hpre, hname⟩
    · exact hall
    · rcases takes_or_troubles_or_upset g t name with htakes | ⟨y, hy⟩ | ⟨m, hm⟩
      · exact absurd htakes hname
      · rw [load_troubles hs hn hpre hy] at h
        cases h
      · rw [(load_upset hs hn hpre hm).1] at h
        cases h

end Glossary

end TermRef
