/-
TermRef/Proofs/Files/Way.lean

The way along a path.

A path leads through places, one for each of its names (`steps`); two dots lead back and to no
new place.  Which places these are is settled by the names, whatever there is in a tree.  A walk
along the names goes on as long as there are directories at these places, and looks at nothing
else (`walk_clear`).  So what it comes to hangs on the first place without one (`exists_obstacle`):
the walk is told that nothing is there, or it is stopped there (`bars`), by a file or by a name
that is too long.

The text of a path is walked along the parts of the path (`find_text`), if these are names as
files can have them (`Path.Proper`).
-/
import TermRef.Proofs.Files.Change

namespace TermRef

/-! ### Paths and their texts -/

namespace Path

/-- The parts of the path are names: they count, and hold neither a slash nor the null
character. -/
def Proper (p : Path) : Prop :=
  ∀ s ∈ p.parts, counts s = true ∧ '/' ∉ s.toList ∧ TermRef.NullFree s

instance (p : Path) : Decidable p.Proper :=
  inferInstanceAs (Decidable (∀ s ∈ p.parts, _ ∧ _ ∧ _))

variable {p : Path}

theorem Proper.nullFree (h : p.Proper) : p.NullFree := fun s hs => (h s hs).2.2

theorem Proper.parent (h : p.Proper) : p.parent.Proper := fun s hs =>
  h s (List.dropLast_subset _ hs)

/-- A text without the null character names a path of such parts. -/
theorem proper_ofText {s : String} (h : TermRef.NullFree s) : (ofText s).Proper := by
  intro part hpart
  obtain ⟨hname, hcounts⟩ := List.mem_filter.mp hpart
  refine ⟨hcounts, ?_, nullFree_ofText h part hpart⟩
  obtain ⟨w, hw, rfl⟩ := List.mem_map.mp hname
  rw [String.toList_ofList]
  exact Pieces.not_mem_of_mem_cut hw

theorem ne_empty_of_counts {s : String} (h : counts s = true) : s ≠ "" := by
  rintro rfl
  cases h

theorem toList_ne_nil_of_counts {s : String} (h : counts s = true) : s.toList ≠ [] := fun hs =>
  ne_empty_of_counts h (String.toList_eq_nil_iff.mp hs)

theorem names_slash (s : String) : names ("/" ++ s) = "" :: names s := by
  have hcut : Pieces.cut '/' ("/" ++ s).toList = [] :: Pieces.cut '/' s.toList := by
    rw [String.toList_append]
    exact Pieces.cut_append_cons (l := []) (by simp) s.toList
  rw [names, hcut]
  rfl

theorem names_intercalate {parts : List String} (hne : parts ≠ [])
    (h : ∀ s ∈ parts, '/' ∉ s.toList) : names ("/".intercalate parts) = parts := by
  have hcut : Pieces.cut '/' ("/".intercalate parts).toList = parts.map String.toList := by
    rw [String.toList_intercalate]
    refine Pieces.cut_join (by simpa using hne) fun w hw => ?_
    obtain ⟨s, hs, rfl⟩ := List.mem_map.mp hw
    exact h s hs
  rw [names, hcut, List.map_map]
  simp

theorem text_eq (h : p.parts ≠ []) : p.text = p.anchor.text ++ "/".intercalate p.parts := by
  rw [text, if_neg fun hdot => h hdot.2]

/-- With more parts, a path is longer in writing. -/
theorem utf8ByteSize_text_le {anchor : Anchor} {up : List String} {name : String}
    (hname : counts name = true) :
    (text ⟨anchor, up⟩).utf8ByteSize ≤ (text ⟨anchor, up ++ [name]⟩).utf8ByteSize := by
  rw [text_eq (p := ⟨anchor, up ++ [name]⟩) (by simp)]
  by_cases hup : up = []
  · subst hup
    have hpos : 0 < name.utf8ByteSize := by
      rw [Nat.pos_iff_ne_zero, Ne, String.utf8ByteSize_eq_zero_iff]
      exact ne_empty_of_counts hname
    have hone : (text ⟨anchor, []⟩).utf8ByteSize ≤ anchor.text.utf8ByteSize + 1 := by
      cases anchor <;> decide
    simp only [List.nil_append, String.intercalate_singleton, String.utf8ByteSize_append]
    omega
  · rw [text_eq (p := ⟨anchor, up⟩) hup, String.intercalate_append_of_ne_nil hup (by simp)]
    simp only [String.utf8ByteSize_append]
    omega

/-- Names written with slashes in between begin with a character of a name. -/
theorem toList_intercalate_eq_cons {s : String} {parts : List String}
    (h : Proper ⟨.here, s :: parts⟩) :
    ∃ c r, ("/".intercalate (s :: parts)).toList = c :: r ∧ c ≠ '/' := by
  obtain ⟨hs, hslash, -⟩ := h s List.mem_cons_self
  obtain ⟨c, r, hc⟩ := List.exists_cons_of_ne_nil (toList_ne_nil_of_counts hs)
  rw [hc] at hslash
  refine ⟨c, r ++ (("/".intercalate (s :: parts)).toList.drop (r.length + 1)), ?_,
    fun hslash' => hslash (hslash' ▸ List.mem_cons_self)⟩
  rw [String.toList_intercalate, List.map_cons, hc]
  rcases parts with - | ⟨s', parts⟩
  · simp [List.intercalate]
  · rw [List.map_cons, List.intercalate_cons_cons]
    simp

theorem text_ne_empty (h : p.Proper) : p.text ≠ "" := by
  obtain ⟨anchor, parts⟩ := p
  rcases parts with - | ⟨s, parts⟩
  · cases anchor <;> decide
  · obtain ⟨c, r, hc, -⟩ := toList_intercalate_eq_cons h
    rw [text_eq (by simp)]
    intro hempty
    have hnil := congrArg String.toList hempty
    rw [String.toList_append, hc] at hnil
    exact absurd hnil (by simp)

/-- The text of a path begins with a slash if the path starts at the root. -/
theorem head?_text (h : p.Proper) : p.text.toList.head? = some '/' ↔ p.anchor ≠ .here := by
  obtain ⟨anchor, parts⟩ := p
  rcases parts with - | ⟨s, parts⟩
  · cases anchor <;> decide
  · obtain ⟨c, r, hc, hne⟩ := toList_intercalate_eq_cons h
    rw [text_eq (by simp), String.toList_append, hc]
    cases anchor <;> simp [Anchor.text, hne]

end Path

namespace FileTree

variable {t : FileTree} {p : Place}

/-! ### Steps -/

/-- The place where the walk along a path starts. -/
def startAt (t : FileTree) (a : Anchor) : Place := if a = .here then t.here else []

/-- The places that names lead through from a place.  Two dots lead back, and to no place on the
way. -/
def steps : Place → List String → List Place
  | _, [] => []
  | p, name :: r =>
    if name = ".." then steps p.dropLast r else (p ++ [name]) :: steps (p ++ [name]) r

/-- The place that a path leads to, whatever is there. -/
def placeOf (t : FileTree) (p : Path) : Place := p.parts.foldl Path.follow (t.startAt p.anchor)

/-- The places that a path leads through before its last part. -/
def wayTo (t : FileTree) (p : Path) : List Place := steps (t.startAt p.anchor) p.parts.dropLast

theorem steps_append (p : Place) (names more : List String) :
    steps p (names ++ more) = steps p names ++ steps (names.foldl Path.follow p) more := by
  induction names generalizing p with
  | nil => rfl
  | cons name names ih =>
    rw [List.cons_append, steps, steps, List.foldl_cons, Path.follow]
    split
    · exact ih _
    · rw [ih, List.cons_append]

theorem steps_append_name (p : Place) (names : List String) {name : String} (h : name ≠ "..")
    (more : List String) : steps p (names ++ name :: more) = steps p names ++
      (names.foldl Path.follow p ++ [name]) ::
        steps (names.foldl Path.follow p ++ [name]) more := by
  rw [steps_append, steps, if_neg h]

/-! ### Walks -/

/-- Nothing gets past the place: its name is too long, or there is a file. -/
def bars (t : FileTree) (x : Place) : Bool :=
  nameLimit < (x.getLast?.getD "").utf8ByteSize ||
    match t.item? x with
    | some (.file _) => true
    | _ => false

/-- There is a directory at the place, and a walk gets past it. -/
def Clear (t : FileTree) (x : Place) : Prop := t.bars x = false ∧ t.item? x = some .directory

theorem bars_append {name : String} : t.bars (p ++ [name]) = true ↔
    nameLimit < name.utf8ByteSize ∨ ∃ b, t.item? (p ++ [name]) = some (.file b) := by
  rw [bars, List.getLast?_append, Bool.or_eq_true, decide_eq_true_iff]
  rcases t.item? (p ++ [name]) with - | (b | -) <;> simp

theorem walk_up (p : Place) (r : List String) : t.walk p (".." :: r) = t.walk p.dropLast r := by
  rw [walk, if_neg (by decide), if_pos rfl]

theorem walk_name {name : String} (hc : Path.counts name = true) (h : name ≠ "..")
    (r : List String) : t.walk p (name :: r) =
      if nameLimit < name.utf8ByteSize then .error .nameTooLong
      else match t.item? (p ++ [name]) with
        | some .directory => t.walk (p ++ [name]) r
        | some (.file b) => if r.isEmpty then .ok (p ++ [name], some (.file b))
          else .error .notDirectory
        | none => if r.isEmpty then .ok (p ++ [name], none) else .error .missing := by
  rw [walk, if_neg (by simp [hc])]
  exact if_neg h

/-- **A walk goes on where there are directories.** -/
theorem walk_clear {names : List String} (hc : ∀ n ∈ names, Path.counts n = true)
    (h : ∀ x ∈ steps p names, t.Clear x) (more : List String) :
    t.walk p (names ++ more) = t.walk (names.foldl Path.follow p) more := by
  induction names generalizing p with
  | nil => rfl
  | cons name names ih =>
    have hrest := fun n hn => hc n (List.mem_cons_of_mem _ hn)
    rw [steps] at h
    rw [List.cons_append, List.foldl_cons, Path.follow]
    by_cases hup : name = ".."
    · rw [if_pos hup] at h ⊢
      rw [hup, walk_up]
      exact ih hrest h
    · rw [if_neg hup] at h ⊢
      obtain ⟨hopen, hdir⟩ := h _ List.mem_cons_self
      have hlen : ¬ nameLimit < name.utf8ByteSize := fun hlen => by
        rw [bars_append.mpr (.inl hlen)] at hopen
        cases hopen
      rw [walk_name (hc name List.mem_cons_self) hup, if_neg hlen, hdir]
      exact ih hrest fun x hx => h x (List.mem_cons_of_mem _ hx)

/-- There are directories all along the names, or there is a first place without one. -/
theorem exists_obstacle (t : FileTree) (p : Place) (names : List String) :
    (∀ x ∈ steps p names, t.Clear x) ∨ ∃ before name after, names = before ++ name :: after ∧
      name ≠ ".." ∧ (∀ x ∈ steps p before, t.Clear x) ∧
      ¬ t.Clear (before.foldl Path.follow p ++ [name]) := by
  induction names generalizing p with
  | nil => exact .inl (by simp [steps])
  | cons name names ih =>
    rw [steps]
    by_cases hup : name = ".."
    · rw [if_pos hup]
      refine (ih p.dropLast).imp_right ?_
      rintro ⟨before, name', after, rfl, hname, hclear, hnot⟩
      refine ⟨name :: before, name', after, rfl, hname, ?_, ?_⟩
      · rwa [steps, if_pos hup]
      · rwa [List.foldl_cons, Path.follow, if_pos hup]
    · rw [if_neg hup]
      by_cases hclear : t.Clear (p ++ [name])
      · rcases ih (p ++ [name]) with hall | ⟨before, name', after, rfl, hname, hbefore, hnot⟩
        · exact .inl (List.forall_mem_cons.mpr ⟨hclear, hall⟩)
        · refine .inr ⟨name :: before, name', after, rfl, hname, ?_, ?_⟩
          · rw [steps, if_neg hup]
            exact List.forall_mem_cons.mpr ⟨hclear, hbefore⟩
          · rwa [List.foldl_cons, Path.follow, if_neg hup]
      · exact .inr ⟨[], name, names, rfl, hup, by simp [steps], hclear⟩

/-! ### Texts -/

/-- Empty names and dots in front lead nowhere. -/
theorem walk_skip {name : String} (h : Path.counts name = false) (r : List String) :
    t.walk p (name :: r) = t.walk p r := by
  rw [walk, if_pos (by simp [h])]

/-- The text of a path is walked along its parts. -/
theorem walk_names_text {q : Path} (h : q.Proper) : t.walk p (Path.names q.text) =
    t.walk p q.parts := by
  have hslash : ∀ s ∈ q.parts, '/' ∉ s.toList := fun s hs => (h s hs).2.1
  have hparts : t.walk p (Path.names ("/".intercalate q.parts)) = t.walk p q.parts := by
    by_cases hne : q.parts = []
    · rw [hne]
      exact walk_skip (by decide) []
    · rw [Path.names_intercalate hne hslash]
  rw [Path.text]
  split
  · rename_i hdot
    rw [hdot.2]
    exact walk_skip (by decide) []
  · cases q.anchor with
    | here => simpa [Anchor.text] using hparts
    | root =>
      rw [show Anchor.text .root = "/" from rfl, Path.names_slash, walk_skip (by decide), hparts]
    | doubleRoot =>
      rw [show Anchor.text .doubleRoot = "/" ++ "/" from rfl, String.append_assoc,
        Path.names_slash, Path.names_slash, walk_skip (by decide), walk_skip (by decide), hparts]

theorem find_eq_walk {path : String} (hfree : TermRef.NullFree path) (hempty : path ≠ "")
    (hlimit : ¬ pathLimit < path.utf8ByteSize) :
    t.find path =
      (t.walk (t.startOf path) (Path.names path)).mapError fun cause => .system cause path := by
  have hnull : ¬ path.toList.contains '\x00' = true := by simpa [TermRef.NullFree] using hfree
  rw [find, if_neg hnull, if_neg hempty, if_neg hlimit, startOf]
  dsimp only
  split <;> simp_all [Except.mapError]

/-- **The text of a path is found by a walk along its parts**, if it is not too long. -/
theorem find_text {q : Path} (h : q.Proper) (hlimit : ¬ pathLimit < q.text.utf8ByteSize) :
    t.find q.text =
      (t.walk (t.startAt q.anchor) q.parts).mapError fun cause => .system cause q.text := by
  have hstart : t.startOf q.text = t.startAt q.anchor := by
    rw [startOf, startAt]
    by_cases hhere : q.anchor = .here
    · rw [if_pos hhere, if_neg fun hhead => (Path.head?_text h).mp hhead hhere]
    · rw [if_neg hhere, if_pos ((Path.head?_text h).mpr hhere)]
  rw [find_eq_walk h.nullFree.text (Path.text_ne_empty h) hlimit, hstart, walk_names_text h]

theorem find_text_of_long {q : Path} (h : q.Proper) (hlimit : pathLimit < q.text.utf8ByteSize) :
    t.find q.text = .error (.system .nameTooLong q.text) := by
  have hnull : ¬ q.text.toList.contains '\x00' = true := by
    simpa [TermRef.NullFree] using h.nullFree.text
  rw [find, if_neg hnull, if_neg (Path.text_ne_empty h), if_pos hlimit]

/-- A walk along names leads to the place that they name, wherever it leads to one. -/
theorem place_of_walk {q : Place} {names : List String} {i : Option Item}
    (hc : ∀ n ∈ names, Path.counts n = true) (h : t.walk p names = .ok (q, i)) :
    q = names.foldl Path.follow p := by
  fun_induction walk t p names with
  | case1 p => exact (Prod.mk.inj (Except.ok.inj h)).1.symm
  | case2 p name r hnot => simp [hc name List.mem_cons_self] at hnot
  | case3 p r _ ih => exact ih (fun n hn => hc n (List.mem_cons_of_mem _ hn)) h
  | case4 => cases h
  | case5 p name r _ hup _ q' _ ih =>
    rw [List.foldl_cons, Path.follow, if_neg hup]
    exact ih (fun n hn => hc n (List.mem_cons_of_mem _ hn)) h
  | case6 p name r _ hup _ q' b _ hr =>
    obtain rfl := List.isEmpty_iff.mp hr
    rw [List.foldl_cons, Path.follow, if_neg hup]
    exact (Prod.mk.inj (Except.ok.inj h)).1.symm
  | case7 => cases h
  | case8 p name r _ hup _ q' _ hr =>
    obtain rfl := List.isEmpty_iff.mp hr
    rw [List.foldl_cons, Path.follow, if_neg hup]
    exact (Prod.mk.inj (Except.ok.inj h)).1.symm
  | case9 => cases h

/-- **What is found at a path is at its place.** -/
theorem place_of_find {path : Path} {x : Place} {i : Option Item} (hpath : path.Proper)
    (h : t.find path.text = .ok (x, i)) : x = t.placeOf path := by
  by_cases hlimit : pathLimit < path.text.utf8ByteSize
  · rw [find_text_of_long hpath hlimit] at h
    cases h
  · rw [find_text hpath hlimit] at h
    rcases hwalk : t.walk (t.startAt path.anchor) path.parts with e | found
    · rw [hwalk] at h
      cases h
    · rw [hwalk] at h
      obtain rfl : found = (x, i) := Except.ok.inj h
      exact place_of_walk (fun n hn => (hpath n hn).1) hwalk

end FileTree

end TermRef
