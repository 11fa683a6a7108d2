/-
TermRef/Proofs/Glossary/Arrangement.lean

Glossaries built from the same terminologies in another order.

A glossary is built from terminologies one after the other (`Glossary.BuiltFrom`): by a load, from
files in the order of their names, and then by taking over more.  Its entries are then those of
the terminologies in turn (`BuiltFrom.entries`), since what a terminology brings does not hang on
what is there.  So another order of the terminologies gives another order of the same entries, and
it can be built if the one can (`BuiltFrom.load_of_perm`).

Where a lookup finds nothing there is nothing to be found, whatever the order
(`firstFor?_eq_none`).  Where it finds something the order decides between several entries; but an
entry that is the only one with its own version stands behind no other, since an entry that lists
the version among others is looked for only when there is none (`firstFor?_of_only`).
-/
import TermRef.Proofs.Glossary.History

namespace TermRef

/-! ### Searches -/

/-- A search finds an entry that is the only one with its version as its own. -/
theorem firstFor?_of_only {es : List Entry} {e : Entry} (he : e ∈ es)
    (honly : ∀ f ∈ es, f.term = e.term → f.scopetag = e.scopetag → f.vsntag = e.vsntag → f = e) :
    firstFor? es e.term e.scopetag e.vsntag = some e := by
  obtain ⟨f, hf, hfound, hterm, hscopetag, hvsntag⟩ := exists_firstFor?_own he
  rw [hfound, honly f hf hterm hscopetag hvsntag]

/-! ### Building -/

/-- An intake that goes through has refused no entry. -/
theorem Intake.settles_of_take {g : Glossary} {j : Journal} {y : Terminology}
    {source : String} (h : (Intake.take g j y source).2 = none) :
    ∀ v ∈ y.entries, v.Settles g.website := by
  rcases forall_or_first (Value.Settles g.website) y.entries with
    hall | ⟨pre, v, post, hy, hpre, hv⟩
  · exact hall
  · obtain ⟨m, hm⟩ := Classical.not_forall_not.mp hv
    rw [take_of_refused hy hpre hm] at h
    cases h

namespace Glossary

/-- The files of the terminologies of a scope are found, and they hold these, in the order of
their names. -/
structure Holds (g : Glossary) (t : FileTree) (ys : List Terminology) : Prop where
  searched : searchError? t g.directory = none
  read : List.Forall₂ (fun name y => t.mapping (g.pathOf name) Terminology.ofEntries = .ok y)
    (terminologyNames t g.directory) ys

/-- A glossary of a scope has been built from terminologies, one after the other: the first of
them have been loaded, whatever was there before, and more have been taken over since. -/
inductive BuiltFrom (admin : ScopeAdmin) (scopedir : Path) : List Terminology → Glossary → Prop
  | loaded {g : Glossary} {t : FileTree} {ys : List Terminology} {j : Journal} :
      g.admin = admin → g.scopedir = scopedir → g.Holds t ys → (g.load t j).failure = none →
      BuiltFrom admin scopedir ys (g.load t j).glossary
  | taken {g : Glossary} {ys : List Terminology} {j : Journal} {y : Terminology}
      {source : String} : BuiltFrom admin scopedir ys g → (Intake.take g j y source).2 = none →
      BuiltFrom admin scopedir (ys ++ [y]) (Intake.take g j y source).1.glossary

variable {g g' : Glossary} {t : FileTree} {ys ys' : List Terminology} {j : Journal}

/-- The files are taken over if no entry in what they hold is refused, and only then. -/
theorem Holds.takes_iff (h : g.Holds t ys) :
    (∀ n ∈ terminologyNames t g.directory, g.Takes t n) ↔
      ∀ y ∈ ys, ∀ v ∈ y.entries, v.Settles g.website := by
  obtain ⟨-, hread⟩ := h
  generalize terminologyNames t g.directory = names at hread
  induction hread with
  | nil => simp
  | @cons name y names ys hy _ ih =>
    have htakes : g.Takes t name ↔ ∀ v ∈ y.entries, v.Settles g.website := by
      constructor
      · rintro ⟨y', hy', hall⟩
        obtain rfl := Except.ok.inj (hy.symm.trans hy')
        exact hall
      · exact fun hall => ⟨y, hy, hall⟩
    rw [List.forall_mem_cons, List.forall_mem_cons, htakes, ih]

/-- A load that goes through brings in the entries of what the files hold, and of nothing else. -/
theorem Holds.extends_load (h : g.Holds t ys) (hl : (g.load t j).failure = none) :
    ∃ g', g.emptied.Extends (ys.flatMap fun y => y.runtimeEntries g.website) g' ∧
      (g.load t j).glossary = { g' with ready := true } := by
  obtain ⟨hs, hne, -⟩ := takes_of_load hl
  rw [load_of_found hs hne] at hl ⊢
  have hloads := Loading.loads_loadFrom t (terminologyNames t g.directory) g.emptied j
  rcases hfail :
    (Loading.loadFrom t (terminologyNames t g.directory) g.emptied j).failure with - | f
  · obtain ⟨ys', hys', hext⟩ := hloads.complete hfail
    simp only [pathOf_emptied, website_emptied] at hys' hext
    -- what a file holds is settled by the file
    have hunique : Relator.RightUnique fun name y =>
        t.mapping (g.pathOf name) Terminology.ofEntries = .ok y := fun _ _ _ hy hy' =>
      Except.ok.inj (hy.symm.trans hy')
    obtain rfl := List.right_unique_forall₂' hunique h.read hys'
    refine ⟨_, hext, ?_⟩
    rw [Loading.finish, hfail]
  · rw [finish_of_failure hfail, hfail] at hl
    cases hl

/-- What a glossary of a scope is like once it has been built from terminologies. -/
structure MadeOf (admin : ScopeAdmin) (scopedir : Path) (ys : List Terminology) (g : Glossary) :
    Prop where
  like : g.Like { admin, scopedir, ready := true }
  indexed : g.Indexed
  nonempty : ys ≠ []
  settles : ∀ y ∈ ys, ∀ v ∈ y.entries, v.Settles admin.scope.website
  entries : g.entries = ys.flatMap fun y => y.runtimeEntries admin.scope.website

section Building

variable {admin : ScopeAdmin} {scopedir : Path}

theorem MadeOf.website (h : MadeOf admin scopedir ys g) : g.website = admin.scope.website :=
  h.like.website

theorem madeOf_load (hadmin : g.admin = admin) (hscopedir : g.scopedir = scopedir)
    (h : g.Holds t ys) (hl : (g.load t j).failure = none) :
    MadeOf admin scopedir ys (g.load t j).glossary := by
  subst hadmin hscopedir
  obtain ⟨-, hne, htakes⟩ := takes_of_load hl
  obtain ⟨g', hext, heq⟩ := h.extends_load hl
  rw [heq]
  refine ⟨⟨hext.like.admin, hext.like.scopedir, rfl⟩, hext.indexed g.indexed_emptied, ?_,
    h.takes_iff.mp htakes, hext.entries⟩
  rintro rfl
  exact hne (List.forall₂_nil_right_iff.mp h.read)

/-- A terminology that is taken over comes in behind the others. -/
theorem MadeOf.take {y : Terminology} {source : String} (h : MadeOf admin scopedir ys g)
    (ht : (Intake.take g j y source).2 = none) :
    MadeOf admin scopedir (ys ++ [y]) (Intake.take g j y source).1.glossary := by
  have hext := extends_take g j y source
  rw [acceptedEntries_eq g j y source ht, h.website] at hext
  refine ⟨hext.like.trans h.like, hext.indexed h.indexed, by simp, fun y' hy' => ?_, ?_⟩
  · rcases List.mem_append.mp hy' with hy' | hy'
    · exact h.settles y' hy'
    · obtain rfl := List.mem_singleton.mp hy'
      exact h.website ▸ Intake.settles_of_take ht
  · rw [hext.entries, h.entries, List.flatMap_append, List.flatMap_singleton]

/-- **A glossary has the entries of the terminologies that it has been built from**, one after
the other. -/
theorem BuiltFrom.madeOf (h : BuiltFrom admin scopedir ys g) : MadeOf admin scopedir ys g := by
  induction h with
  | loaded hadmin hscopedir hholds hl => exact madeOf_load hadmin hscopedir hholds hl
  | taken _ ht ih => exact ih.take ht

/-- What files hold is loaded in any order in which it has been built once. -/
theorem BuiltFrom.load_of_perm (h : BuiltFrom admin scopedir ys g) (hperm : ys.Perm ys')
    {g₀ : Glossary} (hadmin : g₀.admin = admin) (hscopedir : g₀.scopedir = scopedir)
    (hholds : g₀.Holds t ys') (j : Journal) :
    BuiltFrom admin scopedir ys' (g₀.load t j).glossary := by
  have hmade := h.madeOf
  refine .loaded hadmin hscopedir hholds (load_takes hholds.searched (fun hnil => ?_) ?_).1
  · have hread := hholds.read
    rw [hnil, List.forall₂_nil_left_iff] at hread
    exact hmade.nonempty (hread ▸ hperm).eq_nil
  · subst hadmin
    exact hholds.takes_iff.mpr fun y hy => hmade.settles y (hperm.mem_iff.mpr hy)

/-- **The order of terminologies hardly matters to lookups.**  Once a glossary has been built from
some of them, it can be built from them in any other order in which files hold them.  A lookup
finds nothing in the one glossary just if it finds nothing in the other; and if there is one entry
only for a term of a scope with a version as its own, this is the entry that both lookups find,
whatever other entries list the version. -/
theorem lookup_of_perm (h : BuiltFrom admin scopedir ys g) (hperm : ys.Perm ys') :
    (∀ (g₀ : Glossary) (t' : FileTree) (j' : Journal), g₀.admin = admin →
      g₀.scopedir = scopedir → g₀.Holds t' ys' →
      BuiltFrom admin scopedir ys' (g₀.load t' j').glossary) ∧
    ∀ g', BuiltFrom admin scopedir ys' g' → ∀ term scopetag vsntag,
      (g.lookup term scopetag vsntag = .ok none ↔ g'.lookup term scopetag vsntag = .ok none) ∧
      ∀ e ∈ g.entries, e.term = term → e.scopetag = scopetag → e.vsntag = vsntag →
        (∀ f ∈ g.entries, f.term = term → f.scopetag = scopetag → f.vsntag = vsntag → f = e) →
        g.lookup term scopetag vsntag = .ok (some e) ∧
          g'.lookup term scopetag vsntag = .ok (some e) := by
  refine ⟨fun g₀ t' j' hadmin hscopedir hholds => h.load_of_perm hperm hadmin hscopedir hholds j',
    fun g' h' term scopetag vsntag => ?_⟩
  have hmade := h.madeOf
  have hmade' := h'.madeOf
  -- what a lookup finds hangs on which entries there are, and these are the same
  have hentries : ∀ e, e ∈ g.entries ↔ e ∈ g'.entries := by
    rw [hmade.entries, hmade'.entries]
    exact fun e => (hperm.flatMap_right _).mem_iff
  rw [hmade.indexed.lookup, hmade'.indexed.lookup, hmade.like.ready, hmade'.like.ready, if_pos rfl,
    if_pos rfl]
  refine ⟨?_, ?_⟩
  · rw [Except.ok.injEq, Except.ok.injEq, firstFor?_eq_none, firstFor?_eq_none]
    simp only [hentries]
  · rintro e he rfl rfl rfl honly
    have honly' := fun f hf => honly f ((hentries f).mpr hf)
    exact ⟨congrArg _ (firstFor?_of_only he honly),
      congrArg _ (firstFor?_of_only ((hentries e).mp he) honly')⟩

end Building

/-! ### Two files -/

/-- A file of a terminology, with an entry for the term `a` in a version, and with other names of
the version. -/
def versionFile (vsntag altvsntags : String) : List UInt8 :=
  Utf8.encode ("terminology: \x7baltvsntags: [" ++ altvsntags ++ "]\x7d\n" ++
    "entries: [\x7bterm: a, vsntag: " ++ vsntag ++
    ", scopetag: s, locator: l, glossaryText: w\x7d]").toList

/-- A scope with two terminologies. -/
def twoFiles (first second : List UInt8) : FileTree where
  here := []
  items := [(["mrg.s.1.yaml"], .file first), (["mrg.s.2.yaml"], .file second)]

theorem searchError?_twoFiles (first second : List UInt8) :
    searchError? (twoFiles first second) bare.directory = none := by
  have hfind : (twoFiles first second).find bare.directory.text = .ok ([], some .directory) := rfl
  have hnames : (twoFiles first second).childNames [] = ["mrg.s.1.yaml", "mrg.s.2.yaml"] := rfl
  rw [searchError?, hfind]
  dsimp only
  rw [hnames]
  decide

theorem terminologyNames_twoFiles (first second : List UInt8) :
    terminologyNames (twoFiles first second) bare.directory = ["mrg.s.1.yaml", "mrg.s.2.yaml"] := by
  have hfind : (twoFiles first second).find bare.directory.text = .ok ([], some .directory) := rfl
  have hnames : (twoFiles first second).childNames [] = ["mrg.s.1.yaml", "mrg.s.2.yaml"] := rfl
  have hmatch : ∀ n ∈ ["mrg.s.1.yaml", "mrg.s.2.yaml"],
      matchesName Failure.terminologyWildcard n = true := by decide
  have hfile : ∀ n ∈ ["mrg.s.1.yaml", "mrg.s.2.yaml"],
      ∃ b, (twoFiles first second).item? ([] ++ [n]) = some (.file b) := by
    simp [twoFiles, FileTree.item?]
  rw [terminologyNames, hfind]
  dsimp only
  rw [hnames, List.filter_eq_self.mpr]
  · exact List.mergeSort_of_pairwise (by decide)
  · intro n hn
    obtain ⟨b, hb⟩ := hfile n hn
    rw [hmatch n hn, hb]
    rfl

/-- What is read from a file hangs on its bytes only. -/
theorem mapping_of_read {α : Type} {t t' : FileTree} {path path' : String} {b : List UInt8}
    (h : t.read path = .ok b) (h' : t'.read path' = .ok b) (check : Entries → Checked α) :
    t.mapping path check = t'.mapping path' check := by
  rw [FileTree.mapping, FileTree.mapping, document_eq, document_eq, h, h']

/-- The files can change places. -/
theorem holds_twoFiles {first second : List UInt8} {y z : Terminology}
    (h : bare.Holds (twoFiles first second) [y, z]) :
    bare.Holds (twoFiles second first) [z, y] := by
  refine ⟨searchError?_twoFiles second first, ?_⟩
  have hread := h.read
  rw [terminologyNames_twoFiles] at hread ⊢
  cases hread with
  | cons hy hz =>
    cases hz with
    | cons hz _ =>
      exact .cons ((mapping_of_read rfl rfl _).trans hz)
        (.cons ((mapping_of_read rfl rfl _).trans hy) .nil)

/-- Whether a terminology is taken over, and the tags of its entries. -/
def outline (y : Terminology) : Bool × List (List String) :=
  ((Intake.take bare {} y "f").2.isNone,
    (y.runtimeEntries bare.website).map fun e => e.term :: e.scopetag :: e.vsntag :: e.altvsntags)

theorem exists_outline (t : FileTree) (path : String) (x : Bool × List (List String))
    (h : (t.mapping path Terminology.ofEntries).toOption.map outline = some x) :
    ∃ y, t.mapping path Terminology.ofEntries = .ok y ∧ outline y = x := by
  rcases hy : t.mapping path Terminology.ofEntries with f | y
  · rw [hy] at h
    cases h
  · rw [hy] at h
    exact ⟨y, rfl, Option.some.inj h⟩

/-- A terminology with the tags of one entry has one entry with these tags. -/
theorem runtimeEntries_of_outline {y : Terminology} {b : Bool}
    {term scopetag vsntag : String} {altvsntags : List String}
    (h : outline y = (b, [term :: scopetag :: vsntag :: altvsntags])) :
    ∃ e, y.runtimeEntries bare.website = [e] ∧ e.term = term ∧ e.scopetag = scopetag ∧
      e.vsntag = vsntag ∧ e.altvsntags = altvsntags := by
  obtain ⟨e, he, htags⟩ := List.map_eq_singleton_iff.mp (Prod.mk.inj h).2
  obtain ⟨hterm, hrest⟩ := List.cons.inj htags
  obtain ⟨hscopetag, hrest⟩ := List.cons.inj hrest
  obtain ⟨hvsntag, haltvsntags⟩ := List.cons.inj hrest
  exact ⟨e, he, hterm, hscopetag, hvsntag, haltvsntags⟩

/-- A scope with an entry for a version and, in another file, one that lists this version. -/
def twoVersions : FileTree := twoFiles (versionFile "v" "w") (versionFile "w" "")

theorem exists_holds_twoVersions : ∃ y z, bare.Holds twoVersions [y, z] ∧
    outline y = (true, [["a", "s", "v", "w"]]) ∧ outline z = (true, [["a", "s", "w"]]) := by
  obtain ⟨y, hy, houtline⟩ := exists_outline twoVersions (bare.pathOf "mrg.s.1.yaml")
    (true, [["a", "s", "v", "w"]]) (by decide +kernel)
  obtain ⟨z, hz, houtline'⟩ := exists_outline twoVersions (bare.pathOf "mrg.s.2.yaml")
    (true, [["a", "s", "w"]]) (by decide +kernel)
  refine ⟨y, z, ⟨searchError?_twoFiles _ _, ?_⟩, houtline, houtline'⟩
  rw [twoVersions, terminologyNames_twoFiles]
  exact .cons hy (.cons hz .nil)

/-- The entry for the version is found from either side of the one that lists it. -/
theorem lookup_of_perm_twoVersions : ∃ y z,
    BuiltFrom bare.admin bare.scopedir [y, z] (bare.load twoVersions {}).glossary ∧
    [y, z].Perm [z, y] ∧
    ∃ e ∈ (bare.load twoVersions {}).glossary.entries, e.vsntag = "w" ∧
      (bare.load twoVersions {}).glossary.lookup "a" "s" "w" = .ok (some e) ∧
      (bare.load (twoFiles (versionFile "w" "") (versionFile "v" "w")) {}).glossary.lookup
        "a" "s" "w" = .ok (some e) := by
  obtain ⟨y, z, hholds, hy, hz⟩ := exists_holds_twoVersions
  obtain ⟨e, he, -, -, hv, -⟩ := runtimeEntries_of_outline hy
  obtain ⟨f, hf, hterm, hscopetag, hw, -⟩ := runtimeEntries_of_outline hz
  have hsettles : ∀ u ∈ [y, z], ∀ v ∈ u.entries, v.Settles bare.website := by
    have htaken : ∀ u ∈ [y, z], (Intake.take bare {} u "f").2 = none := by
      simp only [List.forall_mem_cons]
      exact ⟨Option.isNone_iff_eq_none.mp (Prod.mk.inj hy).1,
        Option.isNone_iff_eq_none.mp (Prod.mk.inj hz).1, by simp⟩
    exact fun u hu => Intake.settles_of_take (htaken u hu)
  have hbuilt : BuiltFrom bare.admin bare.scopedir [y, z] (bare.load twoVersions {}).glossary :=
    .loaded rfl rfl hholds (load_takes hholds.searched
      (by rw [twoVersions, terminologyNames_twoFiles]; simp) (hholds.takes_iff.mpr hsettles)).1
  -- one entry from each file, and only the second has the version as its own
  have hentries : (bare.load twoVersions {}).glossary.entries = [e, f] := by
    rw [hbuilt.madeOf.entries]
    show y.runtimeEntries bare.website ++ (z.runtimeEntries bare.website ++ []) = [e, f]
    rw [he, hf]
    rfl
  have hperm : [y, z].Perm [z, y] := .swap z y []
  obtain ⟨hload, hlookup⟩ := lookup_of_perm hbuilt hperm
  have hother := hload bare _ {} rfl rfl (holds_twoFiles hholds)
  refine ⟨y, z, hbuilt, hperm, f, by simp [hentries], hw, ?_⟩
  refine (hlookup _ hother "a" "s" "w").2 f (by simp [hentries]) hterm hscopetag hw ?_
  intro f' hf' _ _ hw'
  rw [hentries] at hf'
  rcases List.mem_cons.mp hf' with rfl | hf'
  · rw [hv] at hw'
    exact absurd hw' (by decide)
  · exact List.mem_singleton.mp hf'

end Glossary

end TermRef
