/-
TermRef/Proofs/Files/Listing.lean

How often a pattern names a file.

Each name of a pattern finds names in the directories that those before it lead to (`Finds`): they
are different, do not lead back, and lead on by their parts (`ofText_extend`).  What the names find
one after the other is a way (`Way`), and a pattern names one file for each way that ends at one
(`files_ways`).

Different ways can end at one file.  All names but two stars lead on by a fixed number of parts, so
if two stars stand in a pattern at most once, the parts of a path tell what each name has found
(`Way.eq_of_wayParts_eq`), and no path is named twice (`nodup_files`).  If no name leads back, the
paths named are found at different places (`eq_of_find_eq`).
-/
import Mathlib.Data.List.Nodup
import TermRef.Proofs.Files.Beside

namespace TermRef

/-! ### Parts of texts -/

namespace Path

variable {s : String}

theorem names_append (a b : String) : names (a ++ "/" ++ b) = names a ++ names b := by
  have hlist : (a ++ "/" ++ b).toList = a.toList ++ '/' :: b.toList := by simp
  rw [names, hlist, Pieces.cut_append, List.map_append]
  rfl

/-- The parts before a slash come before those behind it. -/
theorem parts_append (a b : String) :
    (ofText (a ++ "/" ++ b)).parts = (ofText a).parts ++ (ofText b).parts := by
  show (names _).filter counts = _
  rw [names_append, List.filter_append]
  rfl

/-- Names are the parts of the text that they make with slashes in between. -/
theorem parts_intercalate {parts : List String} (h : Proper ⟨.root, parts⟩) :
    (ofText ("/".intercalate parts)).parts = parts := by
  rcases eq_or_ne parts [] with rfl | hne
  · decide
  · show (names _).filter counts = _
    rw [names_intercalate hne fun s hs => (h s hs).2.1]
    exact List.filter_eq_self.mpr fun s hs => (h s hs).1

theorem takeWhile_slash (h : s.toList.head? ≠ some '/') : s.toList.takeWhile (· == '/') = [] := by
  rcases hs : s.toList with - | ⟨c, r⟩
  · rfl
  · rw [hs, List.head?_cons, Ne, Option.some.injEq] at h
    rw [List.takeWhile_cons, if_neg (by simpa using h)]

/-- Text behind a path does not change where the path starts, unless it goes on with slashes where
the path is all slashes. -/
theorem anchor_append {d n : String} (hd : d.toList ≠ [])
    (h : d.toList.getLast? ≠ some '/' ∨ n.toList.head? ≠ some '/') :
    (ofText (d ++ n)).anchor = (ofText d).anchor := by
  have hcount : (d ++ n).toList.takeWhile (· == '/') = d.toList.takeWhile (· == '/') := by
    rw [String.toList_append, List.takeWhile_append]
    split
    · rename_i hall
      have hself : d.toList.takeWhile (· == '/') = d.toList :=
        (List.takeWhile_prefix _).eq_of_length hall
      have hall' : ∀ c ∈ d.toList, (c == '/') = true := List.takeWhile_eq_self_iff.mp hself
      have hslash : d.toList.getLast hd = '/' := eq_of_beq (hall' _ (List.getLast_mem hd))
      have hlast : d.toList.getLast? = some '/' := by rw [List.getLast?_eq_some_getLast hd, hslash]
      rw [hself, takeWhile_slash (h.resolve_left fun hne => hne hlast), List.append_nil]
    · rfl
  show anchorOf _ = anchorOf _
  rw [hcount]

end Path

namespace Glob

open TermRef.Path

/-- A text that ends in a slash, without it. -/
theorem eq_append_slash {d : String} (h : d.toList.getLast? = some '/') :
    ∃ before, d = before ++ "/" := by
  obtain ⟨before, hbefore⟩ := List.getLast?_eq_some_iff.mp h
  exact ⟨String.ofList before, String.toList_injective (by simpa using hbefore)⟩

theorem parts_extend (d n : String) :
    (ofText (extend d n)).parts = (ofText d).parts ++ (ofText n).parts := by
  have hempty : (ofText "").parts = [] := rfl
  rw [extend]
  split
  · rename_i hd
    rw [hd, hempty, List.nil_append]
  · split
    · rename_i hlast
      obtain ⟨before, rfl⟩ := eq_append_slash hlast
      have hbefore := parts_append before ""
      rw [String.append_empty, hempty, List.append_nil] at hbefore
      rw [parts_append, hbefore]
    · exact parts_append d n

theorem anchor_extend (d : String) {n : String} (hn : n.toList.head? ≠ some '/') :
    (ofText (extend d n)).anchor = (ofText d).anchor := by
  rw [extend]
  split
  · rename_i hd
    rw [hd]
    show anchorOf _ = .here
    rw [takeWhile_slash hn]
    rfl
  · rename_i hd
    have hne : d.toList ≠ [] := fun h => hd (String.toList_eq_nil_iff.mp h)
    split
    · exact anchor_append hne (.inr hn)
    · rename_i hlast
      rw [String.append_assoc]
      exact anchor_append hne (.inl hlast)

/-- **A name leads on by its parts.** -/
theorem ofText_extend (d : String) {n : String} (hn : n.toList.head? ≠ some '/') :
    ofText (extend d n) = (ofText d).below (ofText n).parts := by
  rw [below, ← anchor_extend d hn, ← parts_extend]

end Glob

/-! ### Trees -/

namespace FileTree

/-- A tree as there can be: there is one item at a place, and places are made of names, none of
which leads back. -/
structure Proper (t : FileTree) : Prop where
  places : (t.items.map Prod.fst).Nodup
  names : ∀ e ∈ t.items, Path.Proper ⟨.root, e.1⟩ ∧ ".." ∉ e.1

instance (t : FileTree) : Decidable t.Proper :=
  decidable_of_iff
    ((t.items.map Prod.fst).Nodup ∧ ∀ e ∈ t.items, Path.Proper ⟨.root, e.1⟩ ∧ ".." ∉ e.1)
    ⟨fun h => ⟨h.1, h.2⟩, fun h => ⟨h.places, h.names⟩⟩

variable {t : FileTree} {p q : Place} {n : String} {e e' : Place × Item}

/-- The place is at or below another one. -/
theorem isBelow_iff : (if p.isPrefixOf e.1 then some (e.1.drop p.length, e.2) else none) = some e' ↔
    e = (p ++ e'.1, e'.2) := by
  constructor
  · intro h
    split at h
    · rename_i hpre
      obtain rfl := Option.some.inj h
      rw [List.prefix_iff_eq_append.mp (List.isPrefixOf_iff_prefix.mp hpre)]
    · cases h
  · rintro rfl
    rw [if_pos (List.isPrefixOf_iff_prefix.mpr (List.prefix_append _ _)), List.drop_left]

theorem mem_itemsFrom : e ∈ t.itemsFrom p ↔ (p ++ e.1, e.2) ∈ t.items := by
  rw [itemsFrom, List.mem_filterMap]
  constructor
  · rintro ⟨e', he', h⟩
    rwa [← isBelow_iff.mp h]
  · exact fun h => ⟨_, h, isBelow_iff.mpr rfl⟩

/-- The names in a directory are different. -/
theorem Proper.nodup_childNames (h : t.Proper) (p : Place) : (t.childNames p).Nodup := by
  rw [childNames_eq]
  refine h.places.filterMap fun q q' n hq hq' => ?_
  rw [Option.mem_def, childName?_eq_some] at hq hq'
  exact hq.trans hq'.symm

/-- So are the places at and below a directory. -/
theorem Proper.nodup_itemsFrom (h : t.Proper) (p : Place) :
    ((t.itemsFrom p).map Prod.fst).Nodup := by
  have hitems : (t.itemsFrom p).Nodup := List.Nodup.filterMap
    (fun e e' x hx hx' => (isBelow_iff.mp hx).trans (isBelow_iff.mp hx').symm)
    (List.Nodup.of_map Prod.fst h.places)
  refine hitems.map_on ?_
  rintro ⟨x, i⟩ hx ⟨y, j⟩ hy (rfl : x = y)
  have hplaces := List.inj_on_of_nodup_map h.places (mem_itemsFrom.mp hx) (mem_itemsFrom.mp hy) rfl
  obtain rfl : i = j := (Prod.mk.inj hplaces).2
  rfl

/-- What is below a directory is so by names, none of which leads back. -/
theorem Proper.below (h : t.Proper) (he : e ∈ t.items) (hplace : e.1 = p ++ q) :
    Path.Proper ⟨.root, q⟩ ∧ ".." ∉ q := by
  obtain ⟨hproper, hdots⟩ := h.names e he
  rw [hplace] at hproper hdots
  exact ⟨fun s hs => hproper s (List.mem_append_right _ hs),
    fun hs => hdots (List.mem_append_right _ hs)⟩

end FileTree

namespace Glob

open TermRef.Path TermRef.FileTree

variable {t : FileTree} {dirsOnly : Bool} {path name wildcard : String} {ns : List String}

/-! ### Names found -/

/-- How many parts what a name finds has. -/
def width (name : String) : Nat :=
  if WildPart.isMagic name.toList then 1 else (ofText name).parts.length

/-- What a name of a pattern finds in a directory: different ways on, which do not lead back, nor
start at the root, and are of one length unless the name stands for directories at any depth. -/
structure Finds (name : String) (ns : List String) : Prop where
  nodup : (ns.map fun n => (ofText n).parts).Nodup
  relative : ∀ n ∈ ns, n.toList.head? ≠ some '/'
  down : name ≠ ".." → ∀ n ∈ ns, ".." ∉ (ofText n).parts
  width : name ≠ "**" → ∀ n ∈ ns, (ofText n).parts.length = width name

/-- Names with slashes in between do not start with one. -/
theorem relative_intercalate {parts : List String} (h : Path.Proper ⟨.root, parts⟩) :
    ("/".intercalate parts).toList.head? ≠ some '/' := by
  rcases parts with - | ⟨s, parts⟩
  · decide
  · have hhere : Path.Proper ⟨.here, s :: parts⟩ := h
    obtain ⟨c, r, hc, hne⟩ := toList_intercalate_eq_cons hhere
    rw [hc]
    simpa using hne

/-- Different places below a directory, each made of names, are different ways on. -/
theorem finds_places (qs : List Place) (hqs : qs.Nodup)
    (h : ∀ q ∈ qs, Path.Proper ⟨.root, q⟩ ∧ ".." ∉ q)
    (hwidth : name ≠ "**" → ∀ q ∈ qs, q.length = width name) :
    Finds name (qs.map fun q => "/".intercalate q) := by
  have hparts : ∀ q ∈ qs, (ofText ("/".intercalate q)).parts = q := fun q hq =>
    parts_intercalate (h q hq).1
  refine ⟨?_, ?_, fun _ => ?_, fun hname => ?_⟩
  · rw [List.map_map]
    show (qs.map fun q => (ofText ("/".intercalate q)).parts).Nodup
    rwa [List.map_congr_left hparts, List.map_id']
  · exact List.forall_mem_map.mpr fun q hq => relative_intercalate (h q hq).1
  · exact List.forall_mem_map.mpr fun q hq => (hparts q hq).symm ▸ (h q hq).2
  · exact List.forall_mem_map.mpr fun q hq => (hparts q hq).symm ▸ hwidth hname q hq

theorem finds_namesIn (ht : t.Proper) (hmagic : WildPart.isMagic wildcard.toList = true)
    (h : namesIn t dirsOnly path wildcard = .ok ns) : Finds wildcard ns := by
  have hone : ∀ ns : List String, ns = (ns.map fun n => [n]).map fun q => "/".intercalate q := by
    intro ns
    simp [Function.comp_def]
  rw [namesIn] at h
  rcases hd : directory? t path with e | (- | p)
  · rw [hd] at h
    cases h
  · rw [hd] at h
    obtain rfl := Except.ok.inj h
    exact finds_places [] .nil (by simp) (by simp)
  · rw [hd] at h
    obtain rfl := Except.ok.inj h
    rw [hone (List.filter _ _)]
    refine finds_places _ ?_ ?_ fun _ => ?_
    · exact ((ht.nodup_childNames p).filter _).map fun a b hab => List.singleton_inj.mp hab
    · refine List.forall_mem_map.mpr fun n hn => ?_
      obtain ⟨e, he, hplace⟩ := mem_childNames.mp (List.mem_filter.mp hn).1
      exact ht.below he hplace
    · refine List.forall_mem_map.mpr fun n _ => ?_
      rw [width, if_pos hmagic]
      rfl

theorem finds_namesBelow (ht : t.Proper) (h : namesBelow t dirsOnly path = .ok ns) :
    Finds "**" ns := by
  rw [namesBelow] at h
  rcases hd : directory? t path with e | (- | p)
  · rw [hd] at h
    cases h
  · rw [hd] at h
    obtain rfl := Except.ok.inj h
    exact finds_places [] .nil (by simp) (by simp)
  · rw [hd] at h
    obtain rfl := Except.ok.inj h
    -- the directory itself is the place of no names below it
    rw [show ∀ qs : List (Place × Item), ("" :: qs.map fun e => "/".intercalate e.1) =
      ([] :: qs.map Prod.fst).map fun q => "/".intercalate q by simp]
    refine finds_places _ ?_ ?_ fun hname => absurd rfl hname
    · refine List.nodup_cons.mpr ⟨fun hmem => ?_, ?_⟩
      · obtain ⟨e, he, hnil⟩ := List.mem_map.mp hmem
        simpa [hnil] using (List.mem_filter.mp he).2
      · exact (ht.nodup_itemsFrom p).sublist (List.filter_sublist.map _)
    · refine List.forall_mem_cons.mpr ⟨by simp [Path.Proper], List.forall_mem_map.mpr ?_⟩
      exact fun e he => ht.below (mem_itemsFrom.mp (List.mem_filter.mp he).1) rfl

theorem finds_nameIn (t : FileTree) (path : String) (hname : '/' ∉ name.toList)
    (hmagic : WildPart.isMagic name.toList = false) : Finds name (nameIn t path name) := by
  have hparts : (ofText name).parts ⊆ [name] := by
    show (names name).filter counts ⊆ [name]
    rw [names, Pieces.cut_of_not_mem hname, List.map_singleton, String.ofList_toList]
    exact List.filter_subset_self _
  have hself : Finds name [name] := by
    refine ⟨List.nodup_singleton _, ?_, fun hup => ?_, fun _ => ?_⟩
    · exact List.forall_mem_singleton.mpr fun hhead => hname (List.mem_of_head? hhead)
    · refine List.forall_mem_singleton.mpr fun hdots => hup ?_
      exact (List.mem_singleton.mp (hparts hdots)).symm
    · rw [List.forall_mem_singleton, width, hmagic]
      rfl
  have hnone : Finds name [] := ⟨.nil, by simp, by simp, by simp⟩
  rw [nameIn]
  split <;> split
  · exact hself
  · exact hnone
  · exact hself
  · exact hnone

/-- **A name of a pattern finds different ways on.** -/
theorem finds_step (ht : t.Proper) (hname : '/' ∉ name.toList)
    (h : step t dirsOnly path name = .ok ns) : Finds name ns := by
  rw [step] at h
  split at h
  · rename_i hdeep
    exact hdeep ▸ finds_namesBelow ht h
  · split at h
    · exact finds_namesIn ht ‹_› h
    · obtain rfl := Except.ok.inj h
      exact finds_nameIn t path hname ((Bool.not_eq_true _).mp ‹_›)

/-! ### Ways -/

/-- A way along which names lead on from a path: what each of them finds. -/
inductive Way (t : FileTree) : String → List String → List String → Prop
  | done {path : String} : Way t path [] []
  | step {path name n : String} {more ns way : List String} :
      step t (!more.isEmpty) path name = .ok ns → n ∈ ns → Way t (extend path n) more way →
      Way t path (name :: more) (n :: way)

/-- The path at the end of a way. -/
def ending (path : String) (way : List String) : String := way.foldl extend path

/-- The parts that a way leads through. -/
def wayParts (way : List String) : List String := way.flatMap fun n => (ofText n).parts

variable {names more way way' : List String}

section Ways

variable (ht : t.Proper) (hnames : ∀ name ∈ names, '/' ∉ name.toList)
include ht hnames

/-- A way ends at the path that leads on through its parts. -/
theorem Way.ofText_ending (h : Way t path names way) :
    ofText (ending path way) = (ofText path).below (wayParts way) := by
  induction h with
  | done => simp [ending, wayParts, Path.below]
  | @step path name n more ns way hstep hn _ ih =>
    obtain ⟨hname, hmore⟩ := List.forall_mem_cons.mp hnames
    have hrelative := (finds_step ht hname hstep).relative n hn
    show ofText (ending (extend path n) way) = _
    rw [ih hmore, ofText_extend path hrelative]
    simp [wayParts, Path.below]

/-- A way does not lead back if no name does. -/
theorem Way.not_mem_wayParts (h : Way t path names way) (hdots : ".." ∉ names) :
    ".." ∉ wayParts way := by
  induction h with
  | done => simp [wayParts]
  | @step path name n more ns way hstep hn _ ih =>
    obtain ⟨hname, hmore⟩ := List.forall_mem_cons.mp hnames
    obtain ⟨hup, hups⟩ := not_or.mp (List.mem_cons.not.mp hdots)
    have hdown := (finds_step ht hname hstep).down (Ne.symm hup) n hn
    exact List.mem_append.not.mpr (not_or.mpr ⟨hdown, ih hmore hups⟩)

/-- All ways along the same names have one length, if no name stands for directories at any
depth. -/
theorem Way.length_wayParts_eq {path' : String} (h : Way t path names way)
    (h' : Way t path' names way') (hdeep : "**" ∉ names) :
    (wayParts way).length = (wayParts way').length := by
  induction h generalizing path' way' with
  | done =>
    cases h'
    rfl
  | @step path name n more ns way hstep hn _ ih =>
    cases h' with
    | @step _ _ n' _ ns' way' hstep' hn' hway' =>
      obtain ⟨hname, hmore⟩ := List.forall_mem_cons.mp hnames
      obtain ⟨hone, hmores⟩ := not_or.mp (List.mem_cons.not.mp hdeep)
      have hwidth := (finds_step ht hname hstep).width (Ne.symm hone) n hn
      have hwidth' := (finds_step ht hname hstep').width (Ne.symm hone) n' hn'
      show ((ofText n).parts ++ wayParts way).length = ((ofText n').parts ++ wayParts way').length
      rw [List.length_append, List.length_append, hwidth, hwidth', ih hmore hway' hmores]

/-- **Different ways lead through different parts**, if no more than one name stands for
directories at any depth.  Before that name the parts fall to the names from the left, and behind
it from the right. -/
theorem Way.eq_of_wayParts_eq (h : Way t path names way) (h' : Way t path names way')
    (hdeep : names.count "**" ≤ 1) (heq : wayParts way = wayParts way') : way = way' := by
  induction h generalizing way' with
  | done =>
    cases h'
    rfl
  | @step path name n more ns way hstep hn hway ih =>
    cases h' with
    | @step _ _ n' _ ns' way' hstep' hn' hway' =>
      obtain rfl : ns = ns' := Except.ok.inj (hstep.symm.trans hstep')
      obtain ⟨hname, hmore⟩ := List.forall_mem_cons.mp hnames
      have hfinds := finds_step ht hname hstep
      have hsplit : (ofText n).parts = (ofText n').parts ∧ wayParts way = wayParts way' := by
        by_cases hone : name = "**"
        · have hrest : "**" ∉ more := by
            rw [hone, List.count_cons_self] at hdeep
            exact List.count_eq_zero.mp (by omega)
          exact List.append_inj' heq (hway.length_wayParts_eq ht hmore hway' hrest)
        · exact List.append_inj heq ((hfinds.width hone n hn).trans (hfinds.width hone n' hn').symm)
      obtain rfl : n = n' := List.inj_on_of_nodup_map hfinds.nodup hn hn' hsplit.1
      have hdeep' : more.count "**" ≤ 1 := (List.count_le_count_cons).trans hdeep
      rw [ih hmore hway' hdeep' hsplit.2]

end Ways

/-! ### Listings -/

/-- What succeeds for all members of a list gives a result for each. -/
theorem mapM_eq_ok {α β ε : Type} {f : α → Except ε (List β)} {xs : List α} {yss : List (List β)}
    (h : xs.mapM f = .ok yss) :
    ∃ g : α → List β, (∀ x ∈ xs, f x = .ok (g x)) ∧ yss = xs.map g := by
  refine ⟨fun x => (f x).toOption.getD [], ?_⟩
  induction xs generalizing yss with
  | nil =>
    obtain rfl := Except.ok.inj h
    simp
  | cons x xs ih =>
    rw [List.mapM_cons] at h
    rcases hx : f x with e | ys
    · rw [hx] at h
      cases h
    · rcases hxs : xs.mapM f with e | yss'
      · rw [hx, hxs] at h
        cases h
      · rw [hx, hxs] at h
        obtain rfl := Except.ok.inj h
        obtain ⟨hall, hmap⟩ := ih hxs
        refine ⟨List.forall_mem_cons.mpr ⟨?_, hall⟩, ?_⟩
        · simp only [hx, Except.toOption, Option.getD_some]
        · rw [List.map_cons, ← hmap]
          simp only [hx, Except.toOption, Option.getD_some]

/-- What a name of a pattern finds from several paths, it finds from each. -/
theorem pathsFrom_cons {ds found : List String} (h : pathsFrom t ds (name :: more) = .ok found) :
    ∃ ns : String → List String, (∀ d ∈ ds, step t (!more.isEmpty) d name = .ok (ns d)) ∧
      pathsFrom t (ds.flatMap fun d => (ns d).map (extend d)) more = .ok found := by
  rw [pathsFrom] at h
  rcases hds : ds.mapM fun d => do
      pure ((← step t (!more.isEmpty) d name).map (extend d)) with e | xss
  · rw [hds] at h
    cases h
  · rw [hds] at h
    obtain ⟨g, hg, rfl⟩ := mapM_eq_ok hds
    have hsteps : ∀ d, ∃ ns, d ∈ ds →
        step t (!more.isEmpty) d name = .ok ns ∧ g d = ns.map (extend d) := by
      intro d
      rcases hd : step t (!more.isEmpty) d name with e | ns
      · refine ⟨[], fun hmem => ?_⟩
        have hgd := hg d hmem
        rw [hd] at hgd
        cases hgd
      · refine ⟨ns, fun hmem => ⟨rfl, ?_⟩⟩
        have hgd := hg d hmem
        rw [hd] at hgd
        exact (Except.ok.inj hgd).symm
    choose ns hns using hsteps
    refine ⟨ns, fun d hd => (hns d hd).1, ?_⟩
    rwa [List.flatMap_def, ← List.map_congr_left fun d hd => (hns d hd).2]

theorem ending_concat (path : String) (way : List String) (n : String) :
    ending path (way ++ [n]) = extend (ending path way) n :=
  List.foldl_concat _ _ _ _

/-- **Names lead on to one path for each way along them**, in order. -/
theorem pathsFrom_ways {vs : List (List String)} {found : List String} (ht : t.Proper)
    (hnames : ∀ name ∈ names, '/' ∉ name.toList) (hvs : vs.Nodup)
    (h : pathsFrom t (vs.map (ending path)) names = .ok found) :
    ∃ ws : List (List String), ws.Nodup ∧ found = ws.map (ending path) ∧
      ∀ w, w ∈ ws ↔ ∃ v ∈ vs, ∃ way, Way t (ending path v) names way ∧ w = v ++ way := by
  induction names generalizing vs with
  | nil =>
    obtain rfl := Except.ok.inj h
    refine ⟨vs, hvs, rfl, fun w => ⟨fun hw => ⟨w, hw, [], .done, (List.append_nil w).symm⟩, ?_⟩⟩
    rintro ⟨v, hv, way, hway, rfl⟩
    cases hway
    rwa [List.append_nil]
  | cons name more ih =>
    obtain ⟨hname, hmore⟩ := List.forall_mem_cons.mp hnames
    obtain ⟨ns, hns, hrest⟩ := pathsFrom_cons h
    have hfinds : ∀ v ∈ vs, step t (!more.isEmpty) (ending path v) name =
        .ok (ns (ending path v)) := fun v hv => hns _ (List.mem_map_of_mem hv)
    -- the ways so far, each led on by what the name finds behind it
    let us := vs.flatMap fun v => (ns (ending path v)).map fun n => v ++ [n]
    have hus : us.Nodup := by
      refine List.nodup_flatMap.mpr ⟨fun v hv => ?_, hvs.imp fun {v v'} hne => ?_⟩
      · have hnodup := (finds_step ht hname (hfinds v hv)).nodup.of_map
        exact hnodup.map fun n n' heq => List.singleton_inj.mp (List.append_cancel_left heq)
      · refine List.disjoint_left.mpr fun u hu hu' => ?_
        obtain ⟨n, -, rfl⟩ := List.mem_map.mp hu
        obtain ⟨n', -, heq⟩ := List.mem_map.mp hu'
        exact hne (List.append_inj' heq rfl).1.symm
    have hmap : us.map (ending path) =
        (vs.map (ending path)).flatMap fun d => (ns d).map (extend d) := by
      simp only [us, List.map_flatMap, List.flatMap_map, List.map_map, Function.comp_def,
        ending_concat]
    obtain ⟨ws, hws, hfound, hmem⟩ := ih hmore hus (hmap ▸ hrest)
    refine ⟨ws, hws, hfound, fun w => (hmem w).trans ⟨?_, ?_⟩⟩
    · rintro ⟨u, hu, way, hway, rfl⟩
      obtain ⟨v, hv, hu⟩ := List.mem_flatMap.mp hu
      obtain ⟨n, hn, rfl⟩ := List.mem_map.mp hu
      rw [ending_concat] at hway
      exact ⟨v, hv, n :: way, .step (hfinds v hv) hn hway, by simp⟩
    · rintro ⟨v, hv, way, hway, rfl⟩
      cases hway with
      | @step _ _ n _ ns' way hstep hn hway =>
        obtain rfl : ns (ending path v) = ns' := Except.ok.inj ((hfinds v hv).symm.trans hstep)
        refine ⟨v ++ [n], List.mem_flatMap.mpr ⟨v, hv, List.mem_map_of_mem hn⟩, way, ?_, by simp⟩
        rwa [ending_concat]

/-- The names of a pattern hold no slash. -/
theorem not_mem_names (pattern : String) :
    ∀ name ∈ (Pattern.ofText pattern).names, '/' ∉ name.toList := by
  have hpieces : ∀ s : List Char, ∀ p ∈ pieces s, '/' ∉ p.2 := by
    intro s
    fun_induction pieces s with
    | case1 => simp
    | case2 r h ih => simp
    | case3 r slashes name more h ih => simpa [h] using ih
    | case4 c r hc h ih => simpa using Ne.symm hc
    | case5 c r hc name more h ih => simpa [h, Ne.symm hc] using ih
    | case6 c r hc hnil hcons ih => simpa [Ne.symm hc] using ih
  intro name hname
  rw [Pattern.ofText, List.span_eq_takeWhile_dropWhile] at hname
  obtain ⟨p, hp, rfl⟩ := List.mem_map.mp hname
  rw [String.toList_ofList]
  exact hpieces _ p (List.dropWhile_subset _ hp)

/-- A path that leads to a file leads somewhere. -/
theorem leadsSomewhere_of_isFile {path : String} (h : t.isFile path = true) :
    t.leadsSomewhere path = true := by
  obtain ⟨x, b, hfind⟩ := exists_find_of_isFile h
  rw [leadsSomewhere, hfind]

/-- **A pattern names one path for each way along its names.**  If it has none, the stem leads
somewhere or no file is named. -/
theorem paths_ways {pattern : String} {found : List String} (ht : t.Proper)
    (h : paths t pattern = .ok found) :
    ∃ ws : List (List String), ws.Nodup ∧
      (∀ w, w ∈ ws ↔ Way t (Pattern.ofText pattern).stem (Pattern.ofText pattern).names w) ∧
      (found.filter t.isFile).Perm
        ((ws.map (ending (Pattern.ofText pattern).stem)).filter t.isFile) := by
  have hnames := not_mem_names pattern
  rw [paths] at h
  generalize Pattern.ofText pattern = p at h hnames ⊢
  obtain ⟨stem, names⟩ := p
  dsimp only at h hnames ⊢
  split at h
  · rename_i hempty
    obtain rfl := List.isEmpty_iff.mp hempty
    obtain rfl := Except.ok.inj h
    refine ⟨[[]], List.nodup_singleton _, fun w => ?_, ?_⟩
    · rw [List.mem_singleton]
      constructor
      · rintro rfl
        exact .done
      · intro hw
        cases hw
        rfl
    · split
      · exact .refl _
      · rename_i hnowhere
        have hnone : t.isFile stem ≠ true := fun hfile => hnowhere (leadsSomewhere_of_isFile hfile)
        show List.Perm [] ([stem].filter t.isFile)
        rw [List.filter_cons_of_neg hnone]
        exact .refl _
  · rcases hfound : pathsFrom t [stem] names with e | xs
    · rw [hfound] at h
      cases h
    · rw [hfound] at h
      obtain rfl := Except.ok.inj h
      -- nothing has been found on the way to the stem
      have hstart : pathsFrom t ([[]].map (ending stem)) names = .ok xs := hfound
      obtain ⟨ws, hws, rfl, hmem⟩ := pathsFrom_ways ht hnames (List.nodup_singleton _) hstart
      refine ⟨ws, hws, fun w => (hmem w).trans ?_, (List.mergeSort_perm _ _).filter _⟩
      simp [ending]

/-- **A pattern names one file for each way along its names that ends at a file**, and no other. -/
theorem files_ways {pattern : String} {ps : List Path} (ht : t.Proper)
    (h : files t pattern = .ok ps) :
    ∃ ws : List (List String), ws.Nodup ∧
      (∀ w, w ∈ ws ↔ Way t (Pattern.ofText pattern).stem (Pattern.ofText pattern).names w ∧
        t.isFile (ending (Pattern.ofText pattern).stem w) = true) ∧
      ps.Perm (ws.map fun w => ofText (ending (Pattern.ofText pattern).stem w)) := by
  rw [files] at h
  rcases hfound : paths t pattern with e | found
  · rw [hfound] at h
    cases h
  · rw [hfound] at h
    obtain rfl := Except.ok.inj h
    obtain ⟨ws, hws, hmem, hperm⟩ := paths_ways ht hfound
    refine ⟨ws.filter fun w => t.isFile (ending (Pattern.ofText pattern).stem w), hws.filter _,
      fun w => ?_, ?_⟩
    · rw [List.mem_filter, hmem]
    · rw [List.filter_map] at hperm
      rw [← Function.comp_def ofText, ← List.map_map]
      exact hperm.map ofText

/-! ### Once -/

section Once

variable {pattern : String} {ps : List Path}

/-- **No path is named twice**, if no more than one name of the pattern stands for directories at
any depth. -/
theorem nodup_files (ht : t.Proper) (h : files t pattern = .ok ps)
    (hdeep : (Pattern.ofText pattern).names.count "**" ≤ 1) : ps.Nodup := by
  have hnames := not_mem_names pattern
  obtain ⟨ws, hws, hmem, hperm⟩ := files_ways ht h
  refine hperm.nodup_iff.mpr (hws.map_on fun w hw w' hw' heq => ?_)
  have hway := ((hmem w).mp hw).1
  have hway' := ((hmem w').mp hw').1
  rw [hway.ofText_ending ht hnames, hway'.ofText_ending ht hnames] at heq
  exact hway.eq_of_wayParts_eq ht hnames hway' hdeep
    (List.append_cancel_left (congrArg Path.parts heq))

/-- What is named is a path of names. -/
theorem proper_of_mem_files (h : files t pattern = .ok ps) : ∀ p ∈ ps, p.Proper := by
  rw [files] at h
  rcases hfound : paths t pattern with e | found
  · rw [hfound] at h
    cases h
  · rw [hfound] at h
    obtain rfl := Except.ok.inj h
    refine List.forall_mem_map.mpr fun s hs => proper_ofText ?_
    obtain ⟨x, b, hfind⟩ := exists_find_of_isFile (List.mem_filter.mp hs).2
    exact (find_eq_ok.mp hfind).1

/-- **Different paths that are named are found at different places**, if no name of the pattern
leads back; and that in every tree, whatever has become of the files. -/
theorem eq_of_find_eq (ht : t.Proper) (h : files t pattern = .ok ps)
    (hdots : ".." ∉ (Pattern.ofText pattern).names) {u : FileTree}
    {p q : Path} (hp : p ∈ ps) (hq : q ∈ ps) {x : Place} {i j : Option Item}
    (hfind : u.find p.text = .ok (x, i)) (hfind' : u.find q.text = .ok (x, j)) : p = q := by
  have hnames := not_mem_names pattern
  have hplace : u.placeOf p = u.placeOf q :=
    (place_of_find (proper_of_mem_files h p hp) hfind).symm.trans
      (place_of_find (proper_of_mem_files h q hq) hfind')
  obtain ⟨ws, -, hmem, hperm⟩ := files_ways ht h
  obtain ⟨w, hw, rfl⟩ := List.mem_map.mp (hperm.mem_iff.mp hp)
  obtain ⟨w', hw', rfl⟩ := List.mem_map.mp (hperm.mem_iff.mp hq)
  have hway := ((hmem w).mp hw).1
  have hway' := ((hmem w').mp hw').1
  rw [hway.ofText_ending ht hnames, hway'.ofText_ending ht hnames] at hplace ⊢
  rw [placeOf_below (hway.not_mem_wayParts ht hnames hdots),
    placeOf_below (hway'.not_mem_wayParts ht hnames hdots)] at hplace
  rw [List.append_cancel_left hplace]

end Once

end Glob

end TermRef
