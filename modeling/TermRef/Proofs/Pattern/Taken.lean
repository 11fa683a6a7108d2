/-
TermRef/Proofs/Pattern/Taken.lean

What the parts of a pattern take, and what its groups read afterwards.

`Cursor.Took c e w reads` says that the characters `w` lead from `c` to `e`, and that
the groups at `e` read as `reads` says.  For each construct that the named grammars
are made of there are two lemmas, one for each direction:

* `walk_…_eq_some` — what is accepted has been taken in this way;
* `walk_…_isSome` — what can be taken in this way is accepted.

The second says nothing of which way is preferred, and the first holds of any way, so
together they settle a pattern as soon as the text can be taken apart in one way only.
Where preference does matter there are equations: `walk_optional` for what may be
absent, and `walk_lazy_eq_greedy` for runs whose continuation refuses every character
of the set, which then end at the same place in every mode.
-/
import Mathlib.Logic.Function.Basic
import Mathlib.Tactic.ByContra
import TermRef.Proofs.Pattern.Walk

namespace TermRef.Pattern

open Function

/-! ### Readings -/

/-- The text of a group, which is empty if the group has not taken part. -/
def Cursor.read (c : Cursor) (i : Nat) : List Char := ((c.group? i).map Capture.text).getD []

/-- The characters `w` lead from `c` to `e`, where the groups read as given. -/
structure Cursor.Took (c e : Cursor) (w : List Char) (reads : Nat → List Char) : Prop where
  rest : c.rest = w ++ e.rest
  before : e.before = w.reverse ++ c.before
  pos : e.pos = c.pos + w.length
  reads : e.read = reads

namespace Cursor

theorem read_of_groups {c d : Cursor} (h : c.groups = d.groups) : c.read = d.read := by
  funext i
  rw [read, read, group?, group?, h]

theorem read_clear (c : Cursor) : c.clear.read = fun _ => [] := rfl

theorem read_capture (c : Cursor) (i start : Nat) :
    (c.capture i start).read = update c.read i (c.before.take (c.pos - start)).reverse := by
  funext j
  by_cases hj : j = i
  · subst hj
    simp [read, group?, capture, Capture.text]
  · rw [update_of_ne hj]
    -- a group that is not `i` is found where it was
    have hij : (i == j) = false := by simpa using fun h : i = j => hj h.symm
    have hfind : ∀ l : List (Nat × Capture),
        (l.filter fun g => g.1 != i).find? (fun g => g.1 == j) = l.find? fun g => g.1 == j := by
      intro l
      rw [List.find?_filter]
      congr 1
      funext g
      by_cases hg : g.1 = j <;> simp [hg, hj]
    simp only [read, group?, capture, List.find?_cons, hij, hfind]

namespace Took

variable {c d e : Cursor} {w v : List Char} {f g : Nat → List Char}

theorem past {r : List Char} (h : c.rest = w ++ r) : c.Took (c.past w r) w c.read :=
  ⟨h, rfl, rfl, read_of_groups rfl⟩

theorem trans (h : c.Took d w f) (h' : d.Took e v g) : c.Took e (w ++ v) g where
  rest := by rw [h.rest, h'.rest, List.append_assoc]
  before := by rw [h'.before, h.before, List.reverse_append, List.append_assoc]
  pos := by rw [h'.pos, h.pos, List.length_append, Nat.add_assoc]
  reads := h'.reads

theorem capture (h : c.Took d w f) (i : Nat) : c.Took (d.capture i c.pos) w (update f i w) where
  rest := h.rest
  before := h.before
  pos := h.pos
  reads := by
    have hw : d.before.take (d.pos - c.pos) = w.reverse := by
      rw [h.before, h.pos, Nat.add_sub_cancel_left]
      simp
    rw [read_capture, h.reads, hw, List.reverse_reverse]

theorem textFrom (h : c.Took d w f) : c.textFrom d = w := by
  rw [Cursor.textFrom, h.before, h.pos, Nat.add_sub_cancel_left]
  simp

/-- What is taken from position `i` on ends behind it by its length. -/
theorem pos_inText {s : List Char} {i : Nat} (h : (inText s i).Took d w f) (hw : w ≠ []) :
    d.pos = i + w.length := by
  have hi : i ≤ s.length := by
    by_contra hlt
    have hr := h.rest
    rw [inText_rest, List.drop_eq_nil_of_le (Nat.le_of_not_le hlt)] at hr
    exact hw (List.append_eq_nil_iff.mp hr.symm).1
  rw [h.pos, inText, List.length_take_of_le hi]

/-- A group that reads nothing may as well be said to read nothing. -/
theorem update_nil (h : c.Took d w f) {i : Nat} (hi : f i = []) : c.Took d w (update f i []) := by
  rw [← hi, update_eq_self]
  exact h

/-- Where a group reads nothing, it may be said to have taken nothing. -/
theorem skip {i : Nat} (hi : c.read i = []) : c.Took c [] (update c.read i []) := by
  have hnil : c.Took (c.past [] c.rest) [] c.read := past rfl
  rw [past_nil] at hnil
  exact hnil.update_nil hi

end Took

end Cursor

/-! ### Characters and runs -/

variable {k : Rest} {c d : Cursor}

theorem mem_char {x y : Char} : (CharSet.single x).mem y = true ↔ y = x := by
  simp [CharSet.mem, CharSet.single, SetItem.mem, Fold.apply, Char.toNat_inj]

theorem walk_seq (a b : Node) (k : Rest) : (Node.seq a b).walk k = a.walk (b.walk k) := rfl

theorem walk_group (i : Nat) (a : Node) (k : Rest) :
    (Node.group i a).walk k = fun c => a.walk (fun e => k (e.capture i c.pos)) c := rfl

theorem walk_char_eq_some {x : Char} (h : (Node.char x).walk k c = some d) :
    ∃ e, c.Took e [x] c.read ∧ e.groups = c.groups ∧ k e = some d := by
  rw [Node.char, Node.walk] at h
  rcases e : c.next? with - | ⟨y, c'⟩
  · simp [e] at h
  · obtain ⟨r, hr, rfl⟩ := Cursor.next?_eq_some e
    simp only [e, Option.ite_none_right_eq_some] at h
    obtain ⟨hy, h⟩ := h
    obtain rfl := mem_char.mp hy
    exact ⟨_, .past hr, rfl, h⟩

theorem walk_char_congr {x : Char} {k' : Rest}
    (h : ∀ e, c.Took e [x] c.read → k e = k' e) :
    (Node.char x).walk k c = (Node.char x).walk k' c := by
  rw [Node.char, Node.walk, Node.walk]
  rcases e : c.next? with - | ⟨y, c'⟩
  · rfl
  · obtain ⟨r, hr, rfl⟩ := Cursor.next?_eq_some e
    by_cases hy : (CharSet.single x).mem y = true
    · obtain rfl := mem_char.mp hy
      simp only [hy, if_true]
      exact h _ (.past hr)
    · simp [hy]

theorem walk_char_isSome {x : Char} {r : List Char} (h : c.rest = x :: r)
    (hk : ∀ e, c.Took e [x] c.read → e.rest = r → (k e).isSome) :
    ((Node.char x).walk k c).isSome := by
  rw [Node.char, Node.walk, Cursor.next?_of_rest h]
  simp only [mem_char, if_true]
  exact hk _ (.past h) rfl

theorem walk_run_eq_some {mode : Mode} {lo : Nat} {s : CharSet}
    (h : (Node.run mode lo none s).walk k c = some d) :
    ∃ e w, c.Took e w c.read ∧ e.groups = c.groups ∧ lo ≤ w.length ∧
      (∀ x ∈ w, s.mem x = true) ∧ k e = some d := by
  rw [Node.walk] at h
  rcases e : c.skip s.mem lo with - | c'
  · simp [e] at h
  · rw [e] at h
    obtain ⟨w, r, hr, rfl, hlo, hw⟩ := skip_eq_some e
    obtain ⟨v, t, ht, hv, hk⟩ := runOf_eq_some h
    refine ⟨_, w ++ v, (Cursor.Took.past hr).trans (.past ht), rfl, ?_, ?_, hk⟩
    · simp [hlo]
    · intro x hx
      rcases List.mem_append.mp hx with hx | hx
      · exact hw x hx
      · exact hv x hx

theorem runOf_isSome {mode : Mode} {p : Char → Bool} {g : List (Nat × Capture)}
    {before w r : List Char} {n : Nat} (hm : mode ≠ .possessive) (hw : ∀ x ∈ w, p x = true)
    (hk : (k ((⟨before, w ++ r, n, g⟩ : Cursor).past w r)).isSome) :
    (runOf mode p k g none before (w ++ r) n).isSome := by
  induction w generalizing before n with
  | nil =>
    have hk' : (k ⟨before, r, n, g⟩).isSome := by simpa [Cursor.past] using hk
    obtain ⟨a, ha⟩ := Option.isSome_iff_exists.mp hk'
    -- a greedy run may go further and still come back, and a lazy one need not go on
    cases mode with
    | possessive => exact absurd rfl hm
    | greedy =>
      cases r with
      | nil => exact hk'
      | cons x r =>
        simp only [List.nil_append, runOf, greedyRun]
        split
        · split
          · rfl
          · exact hk'
        · exact hk'
    | lazy =>
      cases r with
      | nil => exact hk'
      | cons x r => simp [runOf, lazyRun, ha]
  | cons x w ih =>
    have hx : p x = true := hw x (by simp)
    have hrest : (runOf mode p k g none (x :: before) (w ++ r) (n + 1)).isSome := by
      refine ih (fun y hy => hw y (by simp [hy])) ?_
      rwa [Cursor.past_cons]
    obtain ⟨a, ha⟩ := Option.isSome_iff_exists.mp hrest
    cases mode with
    | possessive => exact absurd rfl hm
    | greedy =>
      simp only [runOf] at ha
      simp [runOf, greedyRun, roomFor, hx, lessOne, ha]
    | lazy =>
      simp only [runOf] at ha
      simp only [List.cons_append, runOf, lazyRun, roomFor, hx, lessOne, Option.map_none, ha]
      split <;> rfl

theorem walk_run_isSome {mode : Mode} {lo : Nat} {s : CharSet} {w r : List Char}
    (hm : mode ≠ .possessive) (h : c.rest = w ++ r) (hlo : lo ≤ w.length)
    (hw : ∀ x ∈ w, s.mem x = true)
    (hk : ∀ e, c.Took e w c.read → e.rest = r → (k e).isSome) :
    ((Node.run mode lo none s).walk k c).isSome := by
  have htake : (w.take lo).length = lo := List.length_take_of_le hlo
  have hsplit : c.rest = w.take lo ++ (w.drop lo ++ r) := by
    rw [← List.append_assoc, List.take_append_drop, h]
  have hskip : c.skip s.mem lo = some (c.past (w.take lo) (w.drop lo ++ r)) := by
    have := skip_of_rest hsplit fun x hx => hw x (List.mem_of_mem_take hx)
    rwa [htake] at this
  rw [Node.walk, hskip]
  refine runOf_isSome hm (fun x hx => hw x (List.mem_of_mem_drop hx)) ?_
  have hpast : (c.past (w.take lo) (w.drop lo ++ r)).past (w.drop lo) r = c.past w r := by
    rw [Cursor.past_past, List.take_append_drop]
  exact hpast ▸ hk _ (.past h) rfl

theorem walk_group_run_eq_some {i lo : Nat} {mode : Mode} {s : CharSet}
    (h : (Node.group i (.run mode lo none s)).walk k c = some d) :
    ∃ e w, c.Took e w (update c.read i w) ∧ lo ≤ w.length ∧ (∀ x ∈ w, s.mem x = true) ∧
      k e = some d := by
  rw [walk_group] at h
  obtain ⟨e, w, ht, -, hlo, hw, hk⟩ := walk_run_eq_some h
  exact ⟨_, w, ht.capture i, hlo, hw, hk⟩

theorem walk_group_run_isSome {i lo : Nat} {mode : Mode} {s : CharSet} {w r : List Char}
    (hm : mode ≠ .possessive) (h : c.rest = w ++ r) (hlo : lo ≤ w.length)
    (hw : ∀ x ∈ w, s.mem x = true)
    (hk : ∀ e, c.Took e w (update c.read i w) → e.rest = r → (k e).isSome) :
    ((Node.group i (.run mode lo none s)).walk k c).isSome := by
  rw [walk_group]
  exact walk_run_isSome hm h hlo hw fun e ht he => hk _ (ht.capture i) he

/-! ### What may be absent -/

/-- What may be absent is tried first and left out afterwards. -/
theorem walk_optional (a : Node) (k : Rest) (c : Cursor) :
    (Node.optional a).walk k c = (a.walk k c).or (k c) := by
  -- after the one round that there may be, nothing is left to try
  have hend : ∀ f l, rounds .greedy a.walk k f (some 0) l = k := by
    intro f l
    funext e
    cases f <;> simp [rounds, roomFor]
  have hfirst : ∀ f, rounds .greedy a.walk k (f + 1) (some 1) none c = (a.walk k c).or (k c) := by
    intro f
    have hround : a.walk (rounds .greedy a.walk k f (some 0) (some c.pos)) c = a.walk k c := by
      rw [hend]
    simp only [rounds, roomFor, lessOne, Option.map_some, Nat.sub_self, hround]
    cases a.walk k c <;> rfl
  exact hfirst _

theorem walk_optional_eq_some {a : Node} (h : (Node.optional a).walk k c = some d) :
    a.walk k c = some d ∨ k c = some d := by
  rw [walk_optional] at h
  rcases e : a.walk k c with - | c'
  · exact .inr (by simpa [e] using h)
  · exact .inl (by simpa [e] using h)

theorem walk_optional_isSome_left {a : Node} (h : (a.walk k c).isSome) :
    ((Node.optional a).walk k c).isSome := by
  rw [walk_optional, Option.isSome_or, h, Bool.true_or]

theorem walk_optional_isSome_right {a : Node} (h : (k c).isSome) :
    ((Node.optional a).walk k c).isSome := by
  rw [walk_optional, Option.isSome_or, h, Bool.or_true]

/-! ### Conditions on what follows -/

/-- Matching leaves the groups as they are. -/
def Node.Keeps (n : Node) : Prop :=
  ∀ k c d, n.walk k c = some d → ∃ e, e.groups = c.groups ∧ k e = some d

namespace Node.Keeps

theorem char {x : Char} : (Node.char x).Keeps := by
  intro k c d h
  obtain ⟨e, -, he, hk⟩ := walk_char_eq_some h
  exact ⟨e, he, hk⟩

theorem run {mode : Mode} {lo : Nat} {s : CharSet} : (Node.run mode lo none s).Keeps := by
  intro k c d h
  obtain ⟨e, w, -, he, -, -, hk⟩ := walk_run_eq_some h
  exact ⟨e, he, hk⟩

theorem seq {a b : Node} (ha : a.Keeps) (hb : b.Keeps) : (Node.seq a b).Keeps := by
  intro k c d h
  rw [walk_seq] at h
  obtain ⟨e, he, h⟩ := ha _ _ _ h
  obtain ⟨f, hf, hk⟩ := hb _ _ _ h
  exact ⟨f, hf.trans he, hk⟩

theorem optional {a : Node} (ha : a.Keeps) : (Node.optional a).Keeps := by
  intro k c d h
  rcases walk_optional_eq_some h with h | h
  · exact ha k c d h
  · exact ⟨c, rfl, h⟩

theorem groups {a : Node} (ha : a.Keeps) (h : a.walk some c = some d) : d.groups = c.groups := by
  obtain ⟨e, he, hk⟩ := ha _ _ _ h
  rw [← Option.some.inj hk, he]

end Node.Keeps

/-- A condition that takes no group and holds where the rest is accepted changes nothing. -/
theorem walk_look_eq {a : Node} (ha : a.Keeps)
    (hholds : ∀ d, k c = some d → (a.walk some c).isSome) :
    (Node.look none true a).walk k c = k c := by
  have hback : c.back? (Option.getD none 0) = some c := rfl
  simp only [Node.walk, hback]
  rcases hw : a.walk some c with - | e
  · rcases hk : k c with - | d
    · rfl
    · have := hholds d hk
      rw [hw] at this
      cases this
  · dsimp only
    rw [ha.groups hw]

/-- A tree without its conditions on the text around. -/
def Node.dropLooks : Node → Node
  | .seq a b => .seq a.dropLooks b.dropLooks
  | .alt a b => .alt a.dropLooks b.dropLooks
  | .group i a => .group i a.dropLooks
  | .ifGroup i yes no => .ifGroup i yes.dropLooks no.dropLooks
  | .look _ _ _ => .empty
  | .atomic a => .atomic a.dropLooks
  | .rep mode lo hi a => .rep mode lo hi a.dropLooks
  | n => n

/-! ### Modes -/

/-- The mode that prefers as many as possible, in place of the one that prefers as few. -/
def Mode.eager : Mode → Mode
  | .lazy => .greedy
  | mode => mode

/-- A tree that takes as much as possible first wherever it would take as little. -/
def Node.eager : Node → Node
  | .run mode lo hi s => .run mode.eager lo hi s
  | .seq a b => .seq a.eager b.eager
  | .alt a b => .alt a.eager b.eager
  | .group i a => .group i a.eager
  | .ifGroup i yes no => .ifGroup i yes.eager no.eager
  | .look back present a => .look back present a.eager
  | .atomic a => .atomic a.eager
  | .rep mode lo hi a => .rep mode.eager lo hi a.eager
  | n => n

/-- The continuation goes on with no character of the set. -/
def Rest.Refuses (k : Rest) (p : Char → Bool) : Prop :=
  ∀ c x r, c.rest = x :: r → p x = true → k c = none

theorem refuses_char {p : Char → Bool} {x : Char} (h : p x = false) (k : Rest) :
    ((Node.char x).walk k).Refuses p := by
  intro c y r hr hy
  rcases e : (Node.char x).walk k c with - | d
  · rfl
  · obtain ⟨f, ht, -⟩ := walk_char_eq_some e
    obtain ⟨rfl, -⟩ := List.cons.inj (hr.symm.trans ht.rest)
    rw [h] at hy
    cases hy

theorem greedyRun_of_refuses {p : Char → Bool} (h : k.Refuses p) (g : List (Nat × Capture))
    (before rest : List Char) (n : Nat) :
    greedyRun p k g none before rest n =
      k ((⟨before, rest, n, g⟩ : Cursor).past (rest.takeWhile p) (rest.dropWhile p)) := by
  induction rest generalizing before n with
  | nil => simp [greedyRun, Cursor.past]
  | cons x r ih =>
    by_cases hx : p x = true
    · have hstop : k ⟨before, x :: r, n, g⟩ = none := h _ x r rfl hx
      simp only [greedyRun, roomFor, hx, Bool.and_self, if_true, lessOne, Option.map_none, ih, hstop,
        List.takeWhile_cons, List.dropWhile_cons, Cursor.past_cons]
      rcases k _ with - | d <;> rfl
    · simp [greedyRun, hx, Cursor.past]

theorem lazyRun_of_refuses {p : Char → Bool} (h : k.Refuses p) (g : List (Nat × Capture))
    (before rest : List Char) (n : Nat) :
    lazyRun p k g none before rest n =
      k ((⟨before, rest, n, g⟩ : Cursor).past (rest.takeWhile p) (rest.dropWhile p)) := by
  induction rest generalizing before n with
  | nil => simp [lazyRun, Cursor.past]
  | cons x r ih =>
    by_cases hx : p x = true
    · have hstop : k ⟨before, x :: r, n, g⟩ = none := h _ x r rfl hx
      simp only [lazyRun, roomFor, hx, Bool.and_self, if_true, lessOne, Option.map_none, ih, hstop,
        List.takeWhile_cons, List.dropWhile_cons, Cursor.past_cons]
    · have hpast : (⟨before, x :: r, n, g⟩ : Cursor).past [] (x :: r) = ⟨before, x :: r, n, g⟩ := by
        simp [Cursor.past]
      simp only [lazyRun, roomFor, hx, Bool.and_false, Bool.false_eq_true, if_false,
        List.takeWhile_cons, List.dropWhile_cons, hpast]
      rcases k _ with - | d <;> rfl

/-- Before a continuation that refuses the characters of its set, a lazy run is a greedy
one. -/
theorem walk_lazy_eq_greedy {lo : Nat} {s : CharSet} (h : k.Refuses s.mem) :
    (Node.run .lazy lo none s).walk k = (Node.run .greedy lo none s).walk k := by
  funext c
  rw [Node.walk, Node.walk]
  rcases c.skip s.mem lo with - | d
  · rfl
  · exact (lazyRun_of_refuses h ..).trans (greedyRun_of_refuses h ..).symm

theorem Rest.Refuses.capture {p : Char → Bool} (h : k.Refuses p) (i start : Nat) :
    Rest.Refuses (fun e => k (e.capture i start)) p :=
  fun c x r hr hx => h (c.capture i start) x r hr hx

theorem walk_group_lazy_eq_greedy {i lo : Nat} {s : CharSet} (h : k.Refuses s.mem) :
    (Node.group i (.run .lazy lo none s)).walk k =
      (Node.group i (.run .greedy lo none s)).walk k := by
  funext c
  rw [walk_group, walk_group]
  exact congrFun (walk_lazy_eq_greedy (h.capture i c.pos)) c

end TermRef.Pattern
