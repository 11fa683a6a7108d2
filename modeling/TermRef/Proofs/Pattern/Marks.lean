/-
TermRef/Proofs/Pattern/Marks.lean

Reading names, escapes, flags, repetitions and comments along with the rewritten text.

None of them takes a parenthesis that begins an opener and goes on: a name with a parenthesis in
it is no name and no number (`Foreign`), no flag is a parenthesis, and a comment is passed over
whatever stands in it (`dropPast_nameGroups`).  The bounds that readers take from the length of
the text are larger for the rewritten one, which changes nothing.

What they leave of the text begins where they have come to.  Most take characters that are no
marks, and so whatever holds of a place goes on to hold (`Lasting`).  Flags decide on the verbose
form of what follows them, as `Outside` has it (`followsTo_takeFlagGroup`).
-/
import Mathlib.Data.List.TakeDrop
import Mathlib.Data.List.TakeWhile
import TermRef.Proofs.Pattern.Brackets

namespace TermRef.Pattern

open Grammar

/-! ### Names and numerals -/

section Names

open Unicode Decimal

/-- A character that neither a name nor a numeral is written with. -/
def Foreign (c : Char) : Prop :=
  (isNameStart c = false ∧ isNameContinue c = false) ∧
    (isBlank c = false ∧ c ≠ '-' ∧ c ≠ '+') ∧ c ≠ '_' ∧ digitValue? c = none

theorem foreign_of_mem {c : Char} (h : c ∈ '?' :: marks) : Foreign c := by
  simp only [marks, List.mem_cons, List.not_mem_nil, or_false] at h
  rcases h with rfl | rfl | rfl | rfl | rfl | rfl | rfl <;> (unfold Foreign; decide +kernel)

theorem Foreign.isName_eq_false {c : Char} {name : List Char} (hc : Foreign c) (h : c ∈ name) :
    isName name = false := by
  cases name with
  | nil => rfl
  | cons x r =>
    rw [isName, Bool.and_eq_false_iff]
    rcases List.mem_cons.mp h with rfl | hr
    · exact .inl hc.1.1
    · exact .inr (List.all_eq_false.mpr ⟨c, hr, by simp [hc.1.2]⟩)

theorem Foreign.readDigits_eq_none {c : Char} (hc : Foreign c) (base : Nat) {s : List Char}
    (h : c ∈ s) (fresh : Bool) (acc : Nat) : readDigits base fresh acc s = none := by
  induction s generalizing fresh acc with
  | nil => cases h
  | cons x r ih =>
    rw [readDigits.eq_def]
    split
    case h_1 heq => cases heq
    case h_2 heq =>
      obtain ⟨rfl, rfl⟩ := List.cons.inj heq
      have hr : c ∈ r := (List.mem_cons.mp h).resolve_left hc.2.2.1
      split
      · rfl
      · exact ih hr _ _
    case h_3 y t _ heq =>
      obtain ⟨rfl, rfl⟩ := List.cons.inj heq
      rcases List.mem_cons.mp h with rfl | hr
      · rw [hc.2.2.2]
      · split
        · split
          · exact ih hr _ _
          · rfl
        · rfl

theorem mem_dropWhile {p : Char → Bool} {c : Char} {s : List Char} (h : c ∈ s)
    (hc : p c = false) : c ∈ s.dropWhile p := by
  rw [← List.takeWhile_append_dropWhile (p := p) (l := s), List.mem_append] at h
  refine h.resolve_left fun h => ?_
  rw [List.mem_takeWhile_imp h] at hc
  cases hc

theorem Foreign.readInt_eq_none {c : Char} (hc : Foreign c) (base : Nat) {s : List Char}
    (h : c ∈ s) : readInt base s = none := by
  have hstrip : c ∈ strip s := by
    rw [strip, stripRight, List.mem_reverse]
    refine mem_dropWhile (List.mem_reverse.mpr ?_) hc.2.1.1
    exact mem_dropWhile h hc.2.1.1
  have hsign : c ∈ (splitSign (strip s)).2 := by
    rw [splitSign.eq_def]
    split
    case h_1 heq =>
      rw [heq] at hstrip
      exact (List.mem_cons.mp hstrip).resolve_left hc.2.1.2.1
    case h_2 heq =>
      rw [heq] at hstrip
      exact (List.mem_cons.mp hstrip).resolve_left hc.2.1.2.2
    case h_3 => exact hstrip
  show (readDigits base true 0 (splitSign (strip s)).2).map _ = none
  rw [hc.readDigits_eq_none base hsign true 0]
  rfl

/-- No such character is in a name. -/
theorem not_mem_of_isName {name : List Char} (h : isName name = true) :
    ∀ c ∈ '?' :: marks, c ∉ name := by
  intro c hc hmem
  rw [(foreign_of_mem hc).isName_eq_false hmem] at h
  cases h

/-- Nor is any in a numeral. -/
theorem not_mem_of_readInt {name : List Char} {n : Int} (h : readInt 10 name = some n) :
    ∀ c ∈ '?' :: marks, c ∉ name := by
  intro c hc hmem
  rw [(foreign_of_mem hc).readInt_eq_none 10 hmem] at h
  cases h

end Names

theorem span_of_not_mem {close : Char} {name : List Char} (h : close ∉ name) (r : List Char) :
    (name ++ close :: r).span (· != close) = (name, close :: r) := by
  have hname : ∀ x ∈ name, (x != close) = true := fun x hx =>
    bne_iff_ne.mpr fun heq => h (heq ▸ hx)
  rw [List.span_eq_takeWhile_dropWhile, List.takeWhile_append_of_pos hname,
    List.dropWhile_append_of_pos hname]
  simp

section Groups

variable {src : List Char} {s : State}

theorem takeName_of_not_mem {close : Char} (h : close ∉ s.text) :
    takeName close s = .error .malformed := by
  have hall : ∀ x ∈ s.text, (x != close) = true := fun x hx =>
    bne_iff_ne.mpr fun heq => h (heq ▸ hx)
  have hspan : s.text.span (· != close) = (s.text, []) := by
    rw [List.span_eq_takeWhile_dropWhile, List.takeWhile_eq_self_iff.mpr hall,
      List.dropWhile_eq_nil_iff.mpr hall]
  rw [takeName, run_get_bind, hspan]
  rcases s.text with - | ⟨x, t⟩
  · rfl
  · rfl

theorem takeName_append {close : Char} {name r : List Char} (h : close ∉ name)
    (ht : s.text = name ++ close :: r) :
    takeName close s = if name = [] ∨ takeName.endsOpen name = true then .error .malformed
      else .ok (name, { s with text := r }) := by
  rw [takeName, run_get_bind, ht, span_of_not_mem h]
  rcases name with - | ⟨x, name⟩
  · rfl
  · by_cases hend : takeName.endsOpen (x :: name) = true
    · rw [if_pos (.inr hend)]
      simp only [hend, if_true]
      rfl
    · rw [if_neg (by simp [hend])]
      simp only [hend]
      rfl

theorem takeName_prefix {close : Char} {name : List Char} {u : State}
    (h : takeName close s = .ok (name, u)) : name ≠ [] ∧ name <+: s.text := by
  by_cases hmem : close ∈ s.text
  · obtain ⟨w, r, ht, hw⟩ := List.eq_append_cons_of_mem hmem
    rw [takeName_append hw ht] at h
    split at h
    · cases h
    · rename_i hend
      obtain ⟨rfl, -⟩ : w = name ∧ { s with text := r } = u := by simpa using h
      exact ⟨fun hnil => hend (.inl hnil), ht ▸ List.prefix_append _ _⟩
  · rw [takeName_of_not_mem hmem] at h
    cases h

/-- A name is followed if no name with a parenthesis in it is taken up. -/
theorem FollowsTo.takeName {β : Type} {P : β → State → Prop} {k k' : List Char → Reader β}
    {close : Char} (hclose : close ≠ '(')
    (hforeign : ∀ name u, '(' ∈ name → ∀ b v, k name u ≠ .ok (b, v))
    (hk : ∀ name r, s.text = name ++ close :: r →
      FollowsTo P { s with text := r } (k name) (k' name)) :
    FollowsTo P s (Pattern.takeName close >>= k) (Pattern.takeName close >>= k') := by
  intro b v h
  obtain ⟨name', u, hname', hb⟩ := bind_eq_ok.mp h
  by_cases hmem : close ∈ s.text
  · obtain ⟨name, r, ht, hname⟩ := List.eq_append_cons_of_mem hmem
    rw [takeName_append hname ht] at hname'
    split at hname'
    · cases hname'
    · rename_i hend
      obtain ⟨rfl, rfl⟩ : name = name' ∧ { s with text := r } = u := by simpa using hname'
      have hparen : '(' ∉ name := fun hparen => hforeign name _ hparen b v hb
      have ht' : s.named.text = name ++ close :: nameGroups r := by
        rw [text_named, ht, nameGroups_append hparen, nameGroups_cons_of_ne hclose]
      obtain ⟨hb', hv⟩ := hk name r ht b v hb
      refine ⟨bind_eq_ok.mpr ⟨name, _, ?_, hb'⟩, hv⟩
      rw [takeName_append hname ht', if_neg hend]
      rfl
  · rw [takeName_of_not_mem hmem] at hname'
    cases hname'

theorem follows_groupNamed {Q : List Char → Prop} (hs : Q s.text) (name : List Char) :
    Follows Q s (groupNamed name) (groupNamed name) := by
  rw [groupNamed]
  refine .get ?_
  rw [names_named]
  split
  · exact .pure hs _
  · exact .refuse

theorem follows_checkBehind {Q : List Char → Prop} (hs : Q s.text) (i : Nat) :
    Follows Q s (checkBehind i) (checkBehind i) := by
  rw [checkBehind]
  refine .get ?_
  rw [behind_named, closedWidths?_named]
  split
  · exact .ite (fun _ => .refuse) fun _ => .pure hs _
  · exact .pure hs _

theorem follows_openGroup {Q : List Char → Prop} (hs : Q s.text) (name : Option String) :
    Follows Q s (openGroup name) (openGroup name) := by
  rw [openGroup]
  refine .get ?_
  rw [names_named]
  rcases name with - | n
  · exact .bind (Follows.set rfl hs rfl) fun _ u _ hu => .pure hu _
  · refine .ite (fun _ => .refuse) fun _ => ?_
    exact .bind (Follows.set rfl hs rfl) fun _ u _ hu => .pure hu _

theorem follows_closeGroup {Q : List Char → Prop} (hs : Q s.text) (i : Nat) (p : Part) :
    Follows Q s (closeGroup i p) (closeGroup i p) :=
  .modify rfl hs rfl

theorem follows_takeAgain {Q : List Char → Prop} (hs : Q s.text) (f : Flags) (i : Nat) :
    Follows Q s (takeAgain f i) (takeAgain f i) := by
  rw [takeAgain]
  refine .get ?_
  rw [closedWidths?_named]
  split
  · exact .bind (follows_checkBehind hs i) fun _ u _ hu => .pure hu _
  · exact .refuse

theorem follows_lookPart {Q : List Char → Prop} (hs : Q s.text) (behind present : Bool) (p : Part) :
    Follows Q s (lookPart behind present p) (lookPart behind present p) := by
  rw [lookPart]
  refine .ite (fun _ => ?_) fun _ => .pure hs _
  refine .ite (fun _ => ?_) fun _ => .pure hs _
  exact .bind (.modify rfl hs rfl) fun _ u _ hu => .pure hu _

/-- A condition is passed over with its parentheses. -/
theorem Outside.condition {src : List Char} {v : Bool} {vs : List Bool} {name r : List Char}
    (h : Outside src (v :: vs) ('(' :: (name ++ ')' :: r)))
    (hname : ∀ c ∈ '?' :: marks, c ∉ name) : Outside src (v :: vs) r := by
  have hgroup : (name ++ ')' :: r).head? ≠ some '?' := by
    rcases name with - | ⟨c, name⟩
    · simp
    · rintro heq
      obtain rfl : c = '?' := by simpa using heq
      exact hname '?' List.mem_cons_self List.mem_cons_self
  refine ((h.group hgroup).name fun c hc => ?_).close
  exact hname c (List.mem_cons_of_mem _ hc)

theorem follows_takeCondition {v : Bool} {vs : List Bool}
    (hs : Outside src (v :: vs) ('(' :: s.text)) :
    Follows (Outside src (v :: vs)) s takeCondition takeCondition := by
  rw [takeCondition]
  have hparen : '(' ∈ '?' :: marks := by decide
  refine FollowsTo.takeName (by decide) (fun name u hmem b v => ?_) fun name r hr => ?_
  · rw [(foreign_of_mem hparen).isName_eq_false hmem,
      (foreign_of_mem hparen).readInt_eq_none 10 hmem]
    intro hk
    cases hk
  · show Follows (Outside src (v :: vs)) { s with text := r } _ _
    have hcheck : ∀ i w, Outside src (v :: vs) w.text →
        Follows (Outside src (v :: vs)) w (checkBehind i >>= fun _ => pure i)
          (checkBehind i >>= fun _ => pure i) := fun i w hw =>
      .bind (follows_checkBehind hw i) fun _ x _ hx => .pure hx i
    rw [hr] at hs
    refine .ite (fun hname => ?_) fun _ => ?_
    · have hafter := hs.condition (not_mem_of_isName hname)
      refine .bind (follows_groupNamed (s := { s with text := r }) hafter name) fun i w _ hw => ?_
      exact hcheck i w hw
    · split
      · rename_i hint
        have hafter := hs.condition (not_mem_of_readInt hint)
        exact .bind (Follows.modify (s := { s with text := r }) rfl hafter rfl)
          fun _ w _ hw => hcheck _ w hw
      · exact .refuse

/-- What opens a group is no condition. -/
theorem takeCondition_refuses (h : Opens s.text) (b : Nat) (v : State) :
    takeCondition s ≠ .ok (b, v) := by
  intro hb
  rw [takeCondition] at hb
  obtain ⟨name, u, hname, hk⟩ := bind_eq_ok.mp hb
  have hmark : '?' ∈ name := by
    obtain ⟨hne, r, hr⟩ := takeName_prefix hname
    obtain ⟨r', ht, -⟩ := h
    obtain ⟨x, w, rfl⟩ := List.exists_cons_of_ne_nil hne
    rw [ht] at hr
    exact (List.cons.inj hr).1 ▸ List.mem_cons_self
  have hforeign : Foreign '?' := foreign_of_mem List.mem_cons_self
  rw [hforeign.isName_eq_false hmark, hforeign.readInt_eq_none 10 hmark] at hk
  cases hk

end Groups

/-! ### Escapes and flags -/

section Marks

variable {src : List Char} {Q : List Char → Prop} {s : State}

theorem follows_takeNumbered (hQ : Lasting Q) (hs : Q s.text) (f : Flags) (c : Char) :
    Follows Q s (takeNumbered f c) (takeNumbered f c) := by
  rw [takeNumbered]
  refine .get ?_
  rw [text_named]
  rcases ht : s.text with - | ⟨d, t⟩
  · rw [nameGroups_nil]
    exact follows_takeAgain hs f _
  · rcases hd : d.isDigit with - | -
    · obtain ⟨r', hr'⟩ := exists_nameGroups_cons d t
      rw [hr']
      -- whatever stands behind it, the character is no digit of the number
      rcases t with - | ⟨e, t⟩ <;> rcases r' with - | ⟨e', r'⟩ <;>
        simp only [hd, Bool.false_and, Bool.false_eq_true, if_false] <;>
        exact follows_takeAgain hs f _
    · have hmark : d ∉ marks := not_mem_marks_of (by decide) hd
      have hparen : d ≠ '(' := fun h => hmark (h ▸ by decide)
      have htail : Q t := hQ d t hmark (ht ▸ hs)
      have hshort : ∀ r', r' = nameGroups t →
          Follows Q s
            (do set { s with text := t }; takeAgain f (digitsFrom 10 2 0 0 [c, d]).2.1)
            (do set { s.named with text := r' }; takeAgain f (digitsFrom 10 2 0 0 [c, d]).2.1) := by
        rintro _ rfl
        exact .bind (Follows.set rfl htail rfl) fun _ u _ hu => follows_takeAgain hu f _
      rw [nameGroups_cons_of_ne hparen]
      rcases t with - | ⟨e, t⟩
      · simp only [nameGroups_nil, hd, if_true]
        exact hshort [] nameGroups_nil.symm
      · obtain ⟨r', hr'⟩ := exists_nameGroups_cons e t
        simp only [hr', hd, if_true, Bool.true_and]
        refine .ite (fun hoctal => ?_) fun _ => hshort _ hr'.symm
        have he : e ∉ marks := not_mem_marks_of_digitIn (Bool.and_eq_true_iff.mp hoctal).2
        have hparen : e ≠ '(' := fun h => he (h ▸ by decide)
        have hrest : Q t := hQ e t he htail
        rw [nameGroups_cons_of_ne hparen] at hr'
        obtain rfl := (List.cons.inj hr').2
        refine .bind (Follows.set rfl hrest rfl) fun _ u _ hu => ?_
        exact .ite (fun _ => .refuse) fun _ => .pure hu _

theorem follows_takeEscape (hQ : Lasting Q) (hs : Q s.text) (f : Flags) (c : Char) :
    Follows Q s (takeEscape f c) (takeEscape f c) := by
  rw [takeEscape.eq_def]
  split
  · exact .pure hs _
  · exact .pure hs _
  · exact .pure hs _
  · exact .pure hs _
  · rcases kindOf c with - | ⟨k, inside⟩
    · rcases controlCode c with - | n
      · refine .bind (follows_takeCode hQ hs c) fun code u _ hu => ?_
        rcases code with - | n
        · refine .ite (fun _ => ?_) fun _ => ?_
          · refine .bind (follows_takeDigits hQ hu rfl) fun p v _ hv => ?_
            exact .pure hv _
          · refine .ite (fun _ => follows_takeNumbered hQ hu f c) fun _ => ?_
            exact .ite (fun _ => .refuseNamed) fun _ => .ite (fun _ => .refuse) fun _ => .pure hu _
        · exact .pure hu _
      · exact .pure hs _
    · exact .pure hs _

/-- A parenthesis is no flag. -/
theorem takeFlags_parenthesis (closing : List Char) (n : Nat) (f : Flags) (b : Flags × Char)
    (v : State) : takeFlags closing n f '(' s ≠ .ok (b, v) := by
  intro h
  cases n with
  | zero => cases h
  | succ n =>
    rw [takeFlags] at h
    cases h

theorem isFlag_of_add {f g : Flags} {c : Char} (h : f.add c = some g) :
    isFlag c = true ∧ g.verbose = (f.verbose || 'x' == c) := by
  revert h
  unfold isFlag Flags.add
  split <;> intro h <;> cases h
  case h_4 => exact ⟨rfl, (Bool.or_true _).symm⟩
  all_goals exact ⟨rfl, (Bool.or_false _).symm⟩

/-- The letters of the flags `g`, and behind them the character that closes them. -/
structure Letters (closing t : List Char) (f : Flags) (x : Flags × Char) (u : State) : Prop where
  intro ::
  letters : ∃ w, t = w ++ x.2 :: u.text ∧ w.all isFlag = true ∧ x.1.verbose = w.contains 'x'
  closes : closing.contains x.2 = true
  flags : u.flags = f

theorem takeFlags_eq_ok {closing : List Char} {n : Nat} {f : Flags} {c : Char} {x : Flags × Char}
    {u : State} (h : takeFlags closing n f c s = .ok (x, u)) :
    ∃ w, c :: s.text = w ++ x.2 :: u.text ∧ w.all isFlag = true ∧
      x.1.verbose = (f.verbose || w.contains 'x') ∧ closing.contains x.2 = true := by
  induction n generalizing f c s with
  | zero => cases h
  | succ n ih =>
    rw [takeFlags] at h
    rcases hadd : f.add c with - | g
    · rw [hadd] at h
      cases h
    · obtain ⟨hflag, hverbose⟩ := isFlag_of_add hadd
      rw [hadd] at h
      simp only at h
      split at h
      · cases h
      · obtain ⟨d, v, hd, hk⟩ := bind_eq_ok.mp h
        rw [takePlain_text hd]
        split at hk
        · rename_i hclosing
          cases hk
          refine ⟨[c], rfl, by simp [hflag], ?_, hclosing⟩
          rw [hverbose, List.contains_cons, List.contains_nil, Bool.or_false]
        · obtain ⟨w, hw, hall, hx, hclosing⟩ := ih hk
          refine ⟨c :: w, by rw [hw, List.cons_append], ?_, ?_, hclosing⟩
          · rw [List.all_cons, hflag, hall, Bool.true_and]
          · rw [hx, hverbose, List.contains_cons, Bool.or_assoc]

theorem follows_takeFlags {closing : List Char} (hclosing : closing.contains '(' = false)
    {n n' : Nat} (hn : n ≤ n') (f : Flags) (c : Char) :
    Follows (fun _ => True) s (takeFlags closing n f c) (takeFlags closing n' f c) := by
  induction n generalizing n' f c s with
  | zero => exact .refuse
  | succ n ih =>
    obtain ⟨n', rfl⟩ := Nat.exists_eq_succ_of_ne_zero (Nat.ne_zero_of_lt hn)
    rw [takeFlags, takeFlags]
    rcases f.add c with - | g
    · exact .refuse
    · refine .ite (fun _ => .refuse) fun _ => ?_
      refine FollowsTo.plain (fun r hr _ b v h => ?_) fun d r hd hr => ?_
      · rw [hclosing] at h
        exact takeFlags_parenthesis closing n g b v h
      · exact .ite (fun _ => .pure ⟨trivial, rfl⟩) fun _ => ih (Nat.le_of_succ_le_succ hn) g d

theorem followsTo_takeFlags {closing : List Char} (hclosing : closing.contains '(' = false)
    {n n' : Nat} (hn : n ≤ n') (c : Char) :
    FollowsTo (Letters closing (c :: s.text) s.flags) s (takeFlags closing n {} c)
      (takeFlags closing n' {} c) := by
  refine FollowsTo.mono (follows_takeFlags hclosing hn {} c) fun x u hx hu => ?_
  obtain ⟨w, hw, hall, hverbose, hcloses⟩ := takeFlags_eq_ok hx
  exact ⟨⟨w, hw, hall, hverbose⟩, hcloses, hu.2⟩

/-- What holds behind flags: for the rest of the pattern, or in the group that they are for. -/
def AfterFlags (src : List Char) (v : Bool) (vs : List Bool) (f : Flags) :
    Option (Flags × Flags) → State → Prop
  | none, u => ∃ x, Outside src ((v || x) :: vs) u.text ∧ u.flags.verbose = (f.verbose || x)
  | some (on, off), u =>
    Outside src (((v || on.verbose) && !off.verbose) :: v :: vs) u.text ∧ u.flags = f

theorem followsTo_takeFlagGroup {v : Bool} {vs : List Bool} {c : Char}
    (hs : Outside src (v :: vs) ('(' :: '?' :: c :: s.text)) :
    FollowsTo (AfterFlags src v vs s.flags) s (takeFlagGroup c) (takeFlagGroup c) := by
  rw [takeFlagGroup]
  refine .get ?_
  have hfuel : s.text.length + 1 ≤ s.named.text.length + 1 :=
    Nat.succ_le_succ (length_le_nameGroups s.text)
  refine .iteBind (P := Letters [')', '-', ':'] (c :: s.text) s.flags) (fun hc => ?_)
    (fun _ => followsTo_takeFlags rfl hfuel c) ?_
  · -- no flag is switched on
    exact .pure ⟨⟨[], by rw [hc, List.nil_append], rfl, rfl⟩, rfl, rfl⟩
  rintro ⟨on, stop⟩ u ⟨⟨w, hw, hall, hon⟩, hstop, hflags⟩
  rw [hw] at hs
  refine .ite (fun hclose => ?_) fun hgroup => .ite (fun _ => .refuse) fun _ => ?_
  · obtain rfl : stop = ')' := hclose
    have hafter := hs.flags hall
    rw [← hon] at hafter
    refine .bind (P := fun _ => AfterFlags src v vs s.flags none) (.modify rfl ?_)
      fun _ w _ hw => .pure hw
    exact ⟨on.verbose, hafter, by rw [hflags]; rfl⟩
  · refine .ite (fun hminus => ?_) fun hplus => ?_
    · obtain rfl : stop = '-' := hminus
      refine FollowsTo.plain (fun r _ _ b x h => ?_) fun d r hd hr => ?_
      · obtain ⟨y, t, hy, -⟩ := bind_eq_ok.mp h
        exact takeFlags_parenthesis _ _ _ y t hy
      refine .bind (followsTo_takeFlags (s := { u with text := r }) rfl hfuel d) ?_
      rintro ⟨off, colon⟩ x _ ⟨⟨w', hw', hall', hoff⟩, hcolon, hflags'⟩
      obtain rfl : colon = ':' := by simpa using hcolon
      refine .ite (fun _ => .refuse) fun _ => .pure ⟨?_, hflags'.trans hflags⟩
      rw [hr, hw'] at hs
      have hafter := hs.switchedOff hall hall'
      rwa [← hon, ← hoff] at hafter
    · obtain rfl : stop = ':' := by simpa [hgroup, hplus] using hstop
      have hafter := hs.switched hall
      rw [← hon] at hafter
      refine .pure ⟨?_, hflags⟩
      rwa [Bool.not_false, Bool.and_true]

/-! ### Repetitions -/

theorem follows_takeCounts (hQ : Lasting Q) (hs : Q s.text) (c : Char) :
    Follows Q s (takeCounts c) (takeCounts c) := by
  rw [takeCounts.eq_def]
  split
  · exact .pure hs _
  · exact .pure hs _
  · exact .pure hs _
  · refine .get ?_
    rw [text_named, head?_nameGroups]
    refine .ite (fun _ => .pure hs _) fun _ => ?_
    -- no more digits are taken than the text has characters
    have hlasting : Lasting fun t => Q t ∧ Within s.text t := hQ.and (Within.lasting s.text)
    have hbound : ∀ u : State, Q u.text ∧ Within s.text u.text →
        Follows (fun t => Q t ∧ Within s.text t) u (takeDigits 10 s.text.length)
          (takeDigits 10 (nameGroups s.text).length) := by
      intro u hu
      refine follows_takeDigits hlasting hu ?_
      have hlength := hu.2.length_le
      exact digitsFrom_of_le (hlength.trans (length_le_nameGroups s.text)) hlength 10 0 0
    refine (hbound s ⟨hs, List.suffix_rfl⟩).bindTo fun low u _ hu hflagsu => ?_
    refine (follows_accept hlasting (by decide) hu).bindTo fun hasHigh v _ hv hflagsv => ?_
    refine FollowsTo.iteBind (fun _ => hbound v hv) (fun _ => .pure ⟨hv, rfl⟩) ?_
    rintro high w ⟨hw, hflagsw⟩
    refine (follows_accept hlasting (by decide) hw).bindTo fun closes x _ hx hflagsx => ?_
    have hend : Q x.text ∧ x.flags = s.flags :=
      ⟨hx.1, hflagsx.trans (hflagsw.trans (hflagsv.trans hflagsu))⟩
    refine .ite (fun _ => ?_) fun _ => ?_
    · -- a brace that opens no count is a character, and the text is put back
      refine .bind (P := fun _ y => Q y.text ∧ y.flags = s.flags) (.set rfl ⟨hs, rfl⟩) ?_
      exact fun _ y _ hy => .pure hy
    · refine .ite (fun _ => .throw _) fun _ => .ite (fun _ => ?_) fun _ => .pure hend
      refine .ite (fun _ => .throw _) fun _ => ?_
      exact .ite (fun _ => .refuse) fun _ => .pure hend

theorem follows_takeMode (hQ : Lasting Q) (hs : Q s.text) : Follows Q s takeMode takeMode := by
  rw [takeMode]
  refine .bind (follows_accept hQ (by decide) hs) fun isLazy u _ hu => ?_
  refine .ite (fun _ => .pure hu _) fun _ => ?_
  refine .bind (follows_accept hQ (by decide) hu) fun isPossessive v _ hv => ?_
  exact .ite (fun _ => .pure hv _) fun _ => .pure hv _

theorem follows_repeatLast (hQ : Lasting Q) (hs : Q s.text) (c : Char) (parts : List Part)
    (dflt : Part) : Follows Q s (repeatLast c parts dflt) (repeatLast c parts dflt) := by
  rw [repeatLast]
  refine .bind (follows_takeCounts hQ hs c) fun counts u _ hu => ?_
  rcases counts with - | ⟨lo, hi⟩
  · exact .pure hu _
  · rcases parts with - | ⟨p, r⟩
    · exact .refuse
    · refine .ite (fun _ => .refuse) fun _ => ?_
      refine .bind (follows_takeMode hQ hu) fun mode v _ hv => ?_
      exact .bind (Follows.modify rfl hv rfl) fun _ w _ hw => .pure hw _

theorem follows_takeClose {v : Bool} {vs : List Bool} (hs : Outside src (v :: vs) s.text) :
    Follows (Outside src vs) s takeClose takeClose := by
  rw [takeClose]
  refine FollowsTo.accept (by decide) (fun r hr => ?_) fun _ => FollowsTo.refuse
  exact FollowsTo.pure ⟨(hr ▸ hs : Outside src (v :: vs) (')' :: r)).close, rfl⟩

/-! ### Comments -/

theorem dropPast_plain {stop c : Char} (hc : c ≠ '\\') (atEnd : Option (List Char))
    (t : List Char) :
    dropPast stop atEnd (c :: t) = if c == stop then some t else dropPast stop atEnd t :=
  dropPast.eq_4 stop atEnd c t (fun h => absurd h hc) fun _ _ h => absurd h hc

theorem not_escape {c : Char} {r : List Char} (hend : c = '\\' → r = [] → False)
    (hnext : ∀ d t, c = '\\' → r = d :: t → False) : c ≠ '\\' := by
  intro hc
  cases r with
  | nil => exact hend hc rfl
  | cons d t => exact hnext d t hc rfl

/-- Passing over a character and what was put in behind it. -/
theorem exists_nameGroups_cons_dropPast {stop : Char} (hstop : stop ∉ ['?', 'P', '<'])
    (atEnd : Option (List Char)) (c : Char) (t : List Char) :
    ∃ t', nameGroups (c :: t) = c :: t' ∧
      dropPast stop atEnd t' = dropPast stop atEnd (nameGroups t) := by
  by_cases hopens : c = '(' ∧ Opens t
  · obtain ⟨rfl, r, rfl, hequals, hbang⟩ := hopens
    refine ⟨'?' :: 'P' :: '<' :: nameGroups r, nameGroups_opener hequals hbang, ?_⟩
    have hpass : ∀ x ∈ ['?', 'P', '<'], (x == stop) = false := fun x hx =>
      beq_eq_false_iff_ne.mpr fun heq => hstop (heq ▸ hx)
    rw [nameGroups_cons_of_ne (by decide), nameGroups_cons_of_ne (by decide)]
    show (if '?' == stop then _ else if 'P' == stop then _ else if '<' == stop then _ else _) =
      if '?' == stop then _ else if '<' == stop then _ else _
    rw [hpass '?' (by simp), hpass 'P' (by simp), hpass '<' (by simp)]
    rfl
  · exact ⟨nameGroups t, nameGroups_cons fun hc ht => hopens ⟨hc, ht⟩, rfl⟩

/-- A comment ends at the same place, whatever was rewritten in it. -/
theorem dropPast_nameGroups {stop : Char} (hstop : stop ∉ ['(', '?', 'P', '<'])
    {atEnd : Option (List Char)} (hend : atEnd.map nameGroups = atEnd) (t : List Char) :
    dropPast stop atEnd (nameGroups t) = (dropPast stop atEnd t).map nameGroups := by
  have hpass : stop ∉ ['?', 'P', '<'] := fun h => hstop (List.mem_cons_of_mem _ h)
  fun_induction dropPast stop atEnd t with
  | case1 =>
    rw [nameGroups_nil]
    exact hend.symm
  | case2 => rfl
  | case3 c r ih =>
    obtain ⟨r', hr', hdrop⟩ := exists_nameGroups_cons_dropPast hpass atEnd c r
    rw [nameGroups_cons_of_ne (by decide), hr']
    exact hdrop.trans ih
  | case4 c r hend' hnext hc =>
    have hplain : c ≠ '\\' := not_escape hend' hnext
    have hparen : c ≠ '(' := by
      rintro rfl
      exact hstop (beq_iff_eq.mp hc ▸ List.mem_cons_self)
    rw [nameGroups_cons_of_ne hparen, dropPast_plain hplain, if_pos hc]
    rfl
  | case5 c r hend' hnext hc ih =>
    obtain ⟨r', hr', hdrop⟩ := exists_nameGroups_cons_dropPast hpass atEnd c r
    rw [hr', dropPast_plain (not_escape hend' hnext), if_neg hc]
    exact hdrop.trans ih

theorem follows_skipComment {stop : Char} (hstop : stop ∉ ['(', '?', 'P', '<']) (mayEnd : Bool)
    (hQ : ∀ r, dropPast stop (if mayEnd then some [] else none) s.text = some r → Q r) :
    Follows Q s (skipComment stop mayEnd) (skipComment stop mayEnd) := by
  rw [skipComment]
  refine .get ?_
  have hend : (if mayEnd then some [] else none : Option (List Char)).map nameGroups =
      if mayEnd then some [] else none := by
    cases mayEnd <;> rfl
  rw [text_named, dropPast_nameGroups hstop hend]
  rcases hdrop : dropPast stop (if mayEnd then some [] else none) s.text with - | r
  · exact .refuse
  · exact .set rfl (hQ r hdrop) rfl

end Marks

end TermRef.Pattern
