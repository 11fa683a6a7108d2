/-
TermRef/Proofs/Pattern/Verbatim.lean

A custom pattern is used as it is written.

A text that is a pattern as it stands has no group that would be rewritten: such a group is
refused (`takeOpening_refuses`).  Openers can still stand in comments, where they do no harm, and
behind a backslash or in a set, where the rewritten text is another pattern
(`escaped_opener_is_rewritten`).  With none of these the rewritten text is read as the text is,
for groups in groups to any depth and whatever flags are switched (`followsAt`), and so the
grammar scans with the very pattern that was written (`scan_verbatim`).
-/
import Mathlib.Data.List.Infix
import TermRef.Proofs.Pattern.Marks
import TermRef.Reference.Scan

namespace TermRef.Pattern

open Grammar

/-! ### What a parenthesis opens -/

section Contents

variable {src : List Char} {v : Bool} {vs : List Bool} {s : State}

/-- A group that would be rewritten is refused as it stands. -/
theorem takeOpening_refuses (h : Opens s.text) (b : Opening) (u : State) :
    takeOpening s ≠ .ok (b, u) := by
  obtain ⟨r, ht, hequals, hbang⟩ := h
  intro hb
  rw [takeOpening] at hb
  obtain ⟨extended, u, hu, hb⟩ := bind_eq_ok.mp hb
  obtain ⟨rfl, rfl⟩ : true = extended ∧ { s with text := '<' :: r } = u := by
    simpa [accept_eq (by decide) ht] using hu
  obtain ⟨c, w, hc, hb⟩ := bind_eq_ok.mp hb
  obtain ⟨rfl, hw⟩ := List.cons.inj (takePlain_text hc)
  obtain ⟨d, x, hd, hk⟩ := bind_eq_ok.mp hb
  have hr : r = d :: x.text := hw.trans (takePlain_text hd)
  rw [hr] at hequals hbang
  split at hk
  · exact hequals rfl
  · exact hbang rfl
  · cases hk

theorem takeGroup_refuses (h : Opens s.text) (n : Nat) (f : Flags) (b : Opened) (u : State) :
    takeGroup n f s ≠ .ok (b, u) := by
  intro hb
  cases n with
  | zero => cases hb
  | succ n =>
    rw [takeGroup] at hb
    obtain ⟨o, w, ho, -⟩ := bind_eq_ok.mp hb
    exact takeOpening_refuses h o w ho

/-- What holds behind the opening of a group.  Some groups have no contents. -/
def AfterOpening (src : List Char) (v : Bool) (vs : List Bool) (f : Flags) (u : State) :
    Opening → Prop
  | .plain on off => AfterFlags src v vs f (some (on, off)) u
  | .flags => AfterFlags src v vs f none u
  | .comment | .again _ => Outside src (v :: vs) u.text ∧ u.flags = f
  | .group _ | .atomic | .look _ _ | .condition _ => Outside src (v :: v :: vs) u.text ∧ u.flags = f

/-- What a name is made into. -/
theorem followsTo_takeNamed {α : Type} {P : α → State → Prop} {make : List Char → α}
    {close : Char} (hclose : close ≠ '(')
    (hP : ∀ name r, s.text = name ++ close :: r → (∀ c ∈ marks, c ∉ name) →
      P (make name) { s with text := r }) :
    FollowsTo P s
      (do
        let name ← takeName close
        if Unicode.isName name then pure (make name) else refuse)
      (do
        let name ← takeName close
        if Unicode.isName name then pure (make name) else refuse) := by
  refine .takeName hclose (fun name u hparen b w h => ?_) fun name r hr => ?_
  · rw [(foreign_of_mem (by decide)).isName_eq_false hparen] at h
    cases h
  · refine .ite (fun hname => .pure (hP name r hr fun c hc => ?_)) fun _ => .refuse
    exact not_mem_of_isName hname c (List.mem_cons_of_mem _ hc)

theorem followsTo_takeOpening (hs : Outside src (v :: vs) ('(' :: s.text)) :
    FollowsTo (fun o u => AfterOpening src v vs s.flags u o) s takeOpening takeOpening := by
  rw [takeOpening]
  refine .accept (by decide) (fun t ht => ?_) fun hhead => .pure ⟨hs.group hhead, rfl⟩
  rw [ht] at hs
  refine .ite (fun h => absurd h (by decide)) fun _ => ?_
  refine FollowsTo.plain (fun r hr hopens b w h => ?_) fun c r hc hr => ?_
  · -- a parenthesis begins a condition, and an opener behind it is none
    obtain ⟨i, x, hi, -⟩ := bind_eq_ok.mp h
    exact takeCondition_refuses hopens i x hi
  obtain rfl : t = c :: r := hr
  split
  case h_1 =>
    have hnamed := hs.kind_plain (by decide) rfl
    refine .accept (by decide) (fun t ht => ?_) fun _ => ?_
    · obtain rfl : r = '<' :: t := ht
      refine followsTo_takeNamed (by decide) fun name w hw hname => ⟨?_, rfl⟩
      obtain rfl : t = name ++ '>' :: w := hw
      exact ((hnamed.plain (by decide)).name hname).plain (by decide)
    · refine .accept (by decide) (fun t ht => ?_) fun _ => .refuse
      obtain rfl : r = '=' :: t := ht
      refine followsTo_takeNamed (by decide) fun name w hw hname => ⟨?_, rfl⟩
      obtain rfl : t = name ++ ')' :: w := hw
      exact ((hnamed.plain (by decide)).name hname).close
  case h_2 =>
    have hgroup := hs.kind_plain (by decide) rfl
    refine .pure ⟨?_, rfl⟩
    simpa using hgroup
  case h_3 =>
    refine FollowsTo.bind (follows_skipComment (Q := Outside src (v :: vs)) (by decide) false
      fun w hw => hs.comment hw) fun _ w _ hw => .pure hw
  case h_4 => exact .pure ⟨hs.kind_plain (by decide) rfl, rfl⟩
  case h_5 => exact .pure ⟨hs.kind_plain (by decide) rfl, rfl⟩
  case h_6 =>
    have hlook := hs.kind_plain (by decide) rfl
    refine FollowsTo.plain (fun w _ _ b x h => ?_) fun d w _ hw => ?_
    · cases h
    obtain rfl : r = d :: w := hw
    split
    · exact .pure ⟨hlook.plain (by decide), rfl⟩
    · exact .pure ⟨hlook.plain (by decide), rfl⟩
    · exact .refuse
  case h_7 =>
    -- the parentheses of the condition are a group in the group that it is for
    have hcondition := hs.kind (by decide) (by decide) rfl
    exact FollowsTo.bind (follows_takeCondition hcondition) fun i w _ hw => .pure hw
  case h_8 => exact .pure ⟨hs.kind_plain (by decide) rfl, rfl⟩
  case h_9 =>
    refine (followsTo_takeFlagGroup hs).bind fun flags w _ hw => ?_
    rcases flags with - | ⟨on, off⟩
    · exact .pure hw
    · exact .pure hw

/-! ### Sequences and alternatives -/

/-- What holds behind a group. -/
def AfterGroup (src : List Char) (v : Bool) (vs : List Bool) (f : Flags) (u : State) :
    Opened → Prop
  | .flags => AfterFlags src v vs f none u
  | .part _ | .comment => Outside src (v :: vs) u.text ∧ u.flags = f

/-- Whatever a group was, nothing else holds behind it than before if the flags are the same. -/
theorem followsTo_group {f : Flags} {m m' : Reader Opened} (hflags : s.flags = f)
    (hm : Follows (Outside src (v :: vs)) s m m') :
    FollowsTo (fun o u => AfterGroup src v vs f u o) s m m' := by
  refine FollowsTo.mono hm fun o u _ ⟨hplace, hu⟩ => ?_
  cases o with
  | part p => exact ⟨hplace, hu.trans hflags⟩
  | comment => exact ⟨hplace, hu.trans hflags⟩
  | flags => exact ⟨false, (Bool.or_false v).symm ▸ hplace, by rw [hu, hflags, Bool.or_false]⟩

/-- The readers of alternatives, sequences and groups follow, with one bound on their depth for the
text and another one for the rewritten text.  Where flags for the whole pattern may still stand,
the verbose form is in force that the reader's own flags have. -/
structure FollowsAt (src : List Char) (n n' : Nat) : Prop where
  choice : ∀ {vs : List Bool} {s : State} (f : Flags) (done : List Part),
    Outside src (f.verbose :: vs) s.text →
      Follows (Outside src (f.verbose :: vs)) s (takeChoice n f false done)
        (takeChoice n' f false done)
  sequence : ∀ {vs : List Bool} {s : State} (f : Flags) (parts : List Part),
    Outside src (f.verbose :: vs) s.text →
      Follows (Outside src (f.verbose :: vs)) s (takeSequence n f false parts)
        (takeSequence n' f false parts)
  group : ∀ {vs : List Bool} {s : State} (f : Flags),
    Outside src (f.verbose :: vs) ('(' :: s.text) →
      FollowsTo (fun o u => AfterGroup src f.verbose vs s.flags u o) s (takeGroup n f)
        (takeGroup n' f)
  whole : ∀ {vs : List Bool} {s : State} (f : Flags) (done : List Part),
    Outside src (f.verbose :: vs) s.text → s.flags.verbose = f.verbose →
      FollowsTo (fun _ _ => True) s (takeChoice n f true done) (takeChoice n' f true done)
  leading : ∀ {vs : List Bool} {s : State} (f : Flags) (parts : List Part),
    Outside src (f.verbose :: vs) s.text → s.flags.verbose = f.verbose →
      FollowsTo (fun _ u => Outside src (u.flags.verbose :: vs) u.text) s
        (takeSequence n f true parts) (takeSequence n' f true parts)

/-- A reader of parts goes on in the same way behind every part.  Only flags for the whole pattern
are left to `hflags`. -/
theorem FollowsAt.takeParts {n n' : Nat} (hg : Guarded src) (ih : FollowsAt src n n')
    {f : Flags} {first : Bool} {parts : List Part} {P : Part → State → Prop}
    (hs : Outside src (f.verbose :: vs) s.text) (hend : ∀ p, P p s)
    (hrest : ∀ parts u, Outside src (f.verbose :: vs) u.text → u.flags = s.flags →
      FollowsTo P u (Pattern.takeSequence n f first parts)
        (Pattern.takeSequence n' f first parts))
    (hflags : ∀ u, first = true → AfterFlags src f.verbose vs s.flags none u →
      FollowsTo P u (Pattern.takeSequence n u.flags first parts)
        (Pattern.takeSequence n' u.flags first parts)) :
    FollowsTo P s (Pattern.takeSequence (n + 1) f first parts)
      (Pattern.takeSequence (n' + 1) f first parts) := by
  have hlasting : Lasting (Outside src (f.verbose :: vs)) := Outside.lasting src _
  rw [Pattern.takeSequence, Pattern.takeSequence]
  refine .get ?_
  rw [text_named, head?_nameGroups]
  split
  case h_1 => exact .pure (hend _)
  case h_2 => exact .pure (hend _)
  case h_3 => exact .pure (hend _)
  case h_4 d _ hclose hhead =>
  refine .item (fun r hr => ?_) ?_ (fun _ => .pure (hend _)) (fun c r hr => ?_) fun c r hc hr => ?_
  · rw [hr] at hs
    exact hg.escaped _ r hs
  · -- the parenthesis of an opener begins a group, and that group is refused
    intro r _ hopens b u h
    have hlayout : isLayout '(' = false := by decide
    have hcomment : ('(' == '#') = false := by decide
    simp only [hlayout, hcomment, Bool.and_false, Bool.false_eq_true, if_false] at h
    obtain ⟨o, w, ho, -⟩ := bind_eq_ok.mp h
    exact takeGroup_refuses hopens n f o w ho
  · rw [hr] at hs
    have hescape := follows_takeEscape (s := { s with text := r }) hlasting hs.escape f c
    exact hescape.bindTo fun p u _ hu hflags => hrest _ u hu hflags
  · -- any other character is layout, begins a comment, has a meaning or stands for itself
    rw [hr] at hs
    have hnext : ∀ parts, Outside src (f.verbose :: vs) r →
        FollowsTo P { s with text := r } (Pattern.takeSequence n f first parts)
          (Pattern.takeSequence n' f first parts) := fun parts h => hrest parts _ h rfl
    refine .ite (fun hlayout => ?_) fun _ => .ite (fun hcomment => ?_) fun hsign => ?_
    · rw [Bool.and_eq_true_iff] at hlayout
      exact hnext _ (hs.plain (not_mem_marks_of (by decide) hlayout.2))
    · obtain ⟨hverbose, rfl⟩ : f.verbose = true ∧ c = '#' := by simpa using hcomment
      refine Follows.bindTo (Q := Outside src (f.verbose :: vs))
        (follows_skipComment (by decide) true fun w hw => ?_) fun _ u _ hu hflags => ?_
      · rw [hverbose] at hs ⊢
        exact hs.line hw
      · exact hrest _ u hu hflags
    obtain rfl : d = c := by simpa [hr] using hhead.symm
    have hliteral : d ≠ '[' → d ≠ '(' → Outside src (f.verbose :: vs) r := fun hset hgroup =>
      hs.literal hc hset hgroup hclose (Bool.eq_false_iff.mpr hsign)
    have hrepeat : d ≠ '[' → d ≠ '(' →
        FollowsTo P { s with text := r }
          (repeatLast d parts (Part.one (.ofCode f.fold false d.toNat)) >>=
            Pattern.takeSequence n f first)
          (repeatLast d parts (Part.one (.ofCode f.fold false d.toNat)) >>=
            Pattern.takeSequence n' f first) := fun hset hgroup =>
      (follows_repeatLast hlasting (hliteral hset hgroup) d parts _).bindTo
        fun more u _ hu hflags => hrest more u hu hflags
    split
    case h_1 =>
      exact (follows_takeSet hg hs f).bindTo fun set u _ hu hflags => hrest _ u hu hflags
    case h_2 => exact hrepeat (by decide) (by decide)
    case h_3 => exact hrepeat (by decide) (by decide)
    case h_4 => exact hrepeat (by decide) (by decide)
    case h_5 => exact hrepeat (by decide) (by decide)
    case h_6 => exact hnext _ (hliteral (by decide) (by decide))
    case h_7 => exact hnext _ (hliteral (by decide) (by decide))
    case h_8 => exact hnext _ (hliteral (by decide) (by decide))
    case h_9 =>
      refine (ih.group f hs).bind fun o u _ hu => ?_
      cases o with
      | part p => exact hrest _ u hu.1 hu.2
      | comment => exact hrest _ u hu.1 hu.2
      | flags =>
        refine .get (.ite (fun h => ?_) fun _ => .refuse)
        exact hflags u (Bool.and_eq_true_iff.mp h).1 hu
    case h_10 hset _ _ _ _ _ _ _ hgroup => exact hnext _ (hliteral hset hgroup)

theorem FollowsAt.takeChoice {n n' : Nat} (ih : FollowsAt src n n') (f : Flags) (done : List Part)
    (hs : Outside src (f.verbose :: vs) s.text) :
    Follows (Outside src (f.verbose :: vs)) s (Pattern.takeChoice (n + 1) f false done)
      (Pattern.takeChoice (n' + 1) f false done) := by
  rw [Pattern.takeChoice, Pattern.takeChoice]
  refine .bind (ih.sequence f [] hs) fun p u _ hu => .get ?_
  refine .bind (follows_accept (Outside.lasting src _) (by decide) hu) fun more w _ hw => ?_
  refine .ite (fun _ => ih.choice f _ hw) fun _ => ?_
  split
  · exact .pure hw _
  · exact .pure hw _

/-- Behind the first alternative flags for the whole pattern may have been set. -/
theorem FollowsAt.takeWhole {n n' : Nat} (ih : FollowsAt src n n') (f : Flags) (done : List Part)
    (hs : Outside src (f.verbose :: vs) s.text) (hverbose : s.flags.verbose = f.verbose) :
    FollowsTo (fun _ _ => True) s (Pattern.takeChoice (n + 1) f true done)
      (Pattern.takeChoice (n' + 1) f true done) := by
  have hfirst : FollowsTo (fun _ u => Outside src (u.flags.verbose :: vs) u.text) s
      (takeSequence n f (true && done.isEmpty) [])
      (takeSequence n' f (true && done.isEmpty) []) := by
    rcases done with - | ⟨q, done⟩
    · exact ih.leading f [] hs hverbose
    · refine FollowsTo.mono (ih.sequence f [] hs) fun p u _ hu => ?_
      rw [hu.2, hverbose]
      exact hu.1
  rw [Pattern.takeChoice, Pattern.takeChoice]
  refine hfirst.bind fun p u _ hu => .get ?_
  have hmore : Follows (Outside src (u.flags.verbose :: vs)) u (accept '|') (accept '|') :=
    follows_accept (Outside.lasting src _) (by decide) hu
  refine hmore.bindTo fun more w _ hw hflags => ?_
  refine .ite (fun _ => ih.whole u.flags _ hw (congrArg Flags.verbose hflags)) fun _ => ?_
  split
  · exact .pure trivial
  · exact .pure trivial

theorem FollowsAt.takeSequence {n n' : Nat} (hg : Guarded src) (ih : FollowsAt src n n')
    (f : Flags) (parts : List Part) (hs : Outside src (f.verbose :: vs) s.text) :
    Follows (Outside src (f.verbose :: vs)) s (Pattern.takeSequence (n + 1) f false parts)
      (Pattern.takeSequence (n' + 1) f false parts) := by
  refine ih.takeParts hg hs (fun _ => ⟨hs, rfl⟩) (fun more u hu hflags => ?_) fun u h => ?_
  case refine_2 => cases h
  exact FollowsTo.mono (ih.sequence f more hu) fun _ _ _ hw => ⟨hw.1, hw.2.trans hflags⟩

theorem FollowsAt.takeLeading {n n' : Nat} (hg : Guarded src) (ih : FollowsAt src n n')
    (f : Flags) (parts : List Part) (hs : Outside src (f.verbose :: vs) s.text)
    (hverbose : s.flags.verbose = f.verbose) :
    FollowsTo (fun _ u => Outside src (u.flags.verbose :: vs) u.text) s
      (Pattern.takeSequence (n + 1) f true parts) (Pattern.takeSequence (n' + 1) f true parts) := by
  refine ih.takeParts hg hs (fun _ => hverbose ▸ hs) (fun more u hu hflags => ?_) fun u _ hu => ?_
  · exact ih.leading f more hu (by rw [hflags, hverbose])
  · obtain ⟨x, hplace, hx⟩ := hu
    rw [hverbose] at hx
    exact ih.leading u.flags parts (hx ▸ hplace) rfl

theorem FollowsAt.takeGroup {n n' : Nat} (ih : FollowsAt src n n') (f : Flags)
    (hs : Outside src (f.verbose :: vs) ('(' :: s.text)) :
    FollowsTo (fun o u => AfterGroup src f.verbose vs s.flags u o) s (Pattern.takeGroup (n + 1) f)
      (Pattern.takeGroup (n' + 1) f) := by
  rw [Pattern.takeGroup, Pattern.takeGroup]
  refine (followsTo_takeOpening hs).bind fun o u _ hu => ?_
  cases o with
  | group name =>
    refine followsTo_group hu.2 ?_
    refine .bind (follows_openGroup hu.1 name) fun i v _ hv => ?_
    refine .bind (ih.choice f [] hv) fun p w _ hw => ?_
    refine .bind (follows_takeClose hw) fun _ x _ hx => ?_
    exact .bind (follows_closeGroup hx i p) fun _ y _ hy => .pure hy _
  | plain on off =>
    -- the contents are read with the flags of the group
    refine followsTo_group hu.2 ?_
    refine .bind (ih.choice _ [] hu.1) fun p v _ hv => ?_
    exact .bind (follows_takeClose hv) fun _ w _ hw => .pure hw _
  | atomic =>
    refine followsTo_group hu.2 ?_
    refine .bind (ih.choice f [] hu.1) fun p v _ hv => ?_
    exact .bind (follows_takeClose hv) fun _ w _ hw => .pure hw _
  | look behind present =>
    refine followsTo_group hu.2 (.get ?_)
    rw [behind_named]
    refine .iteThen hu.1 (fun _ => .modify rfl hu.1 rfl) fun v hv => ?_
    refine .bind (ih.choice f [] hv) fun p w _ hw => ?_
    refine .iteThen hw (fun _ => .modify rfl hw rfl) fun x hx => ?_
    refine .bind (follows_takeClose hx) fun _ y _ hy => ?_
    exact (follows_lookPart hy behind present p).map
  | condition i =>
    refine followsTo_group hu.2 ?_
    refine .bind (ih.sequence f [] hu.1) fun yes v _ hv => ?_
    have hbar := follows_accept (Outside.lasting src _) (show '|' ∉ marks by decide) hv
    refine .bind hbar fun more w _ hw => .ite (fun _ => ?_) fun _ => ?_
    · refine .bind (ih.sequence f [] hw) fun no x _ hx => ?_
      exact .bind (follows_takeClose hx) fun _ y _ hy => .pure hy _
    · exact .bind (follows_takeClose hw) fun _ x _ hx => .pure hx _
  | again name =>
    refine followsTo_group hu.2 ?_
    refine .bind (follows_groupNamed hu.1 _) fun i v _ hv => ?_
    exact (follows_takeAgain hv f i).map
  | flags => exact .pure hu
  | comment => exact .pure hu

/-- **The rewritten text is read as the text is**, wherever the reader of the text comes to. -/
theorem followsAt (hg : Guarded src) {n n' : Nat} (hn : n ≤ n') : FollowsAt src n n' := by
  -- on the bound for the text; the rewritten text is longer, and so its bound is larger
  induction n generalizing n' with
  | zero =>
    constructor
    case choice =>
      intro vs s f done _
      rw [takeChoice]
      exact .refuse
    case sequence =>
      intro vs s f parts _
      rw [takeSequence]
      exact .refuse
    case group =>
      intro vs s f _
      rw [takeGroup]
      exact .refuse
    case whole =>
      intro vs s f done _ _
      rw [takeChoice]
      exact .refuse
    case leading =>
      intro vs s f parts _ _
      rw [takeSequence]
      exact .refuse
  | succ n ih =>
    obtain ⟨n', rfl⟩ := Nat.exists_eq_succ_of_ne_zero (Nat.ne_zero_of_lt hn)
    have ih := ih (Nat.le_of_succ_le_succ hn)
    exact ⟨ih.takeChoice, ih.takeSequence hg, ih.takeGroup, ih.takeWhole, ih.takeLeading hg⟩

end Contents

/-! ### Whole patterns -/

section Whole

variable {src : List Char}

theorem readWhole_of_error {e : Fault}
    (h : takeChoice (4 * src.length + 8) {} true [] { text := src, flags := {} } = .error e) :
    readWhole {} src = .error e := by
  rw [readWhole, StateT.run, h]
  rfl

theorem readWhole_of_ok {p : Part} {u : State}
    (h : takeChoice (4 * src.length + 8) {} true [] { text := src, flags := {} } = .ok (p, u)) :
    readWhole {} src =
      if u.flags.ascii && u.flags.unicode then .error .flagsClash
      else if !u.text.isEmpty || u.highestCondition > u.groupCount || u.unfixed ||
          (u.flags.plain && u.repeats) then .error .malformed
      else .ok ⟨p.node, u.names⟩ := by
  rw [readWhole, StateT.run, h]
  rfl

/-- **A pattern is the same after its text has been rewritten** if no opener stands in it behind
a backslash or in a set. -/
theorem readWhole_nameGroups (hg : Guarded src) {p : Pattern} (h : readWhole {} src = .ok p) :
    readWhole {} (nameGroups src) = .ok p := by
  rcases hread : takeChoice (4 * src.length + 8) {} true [] { text := src, flags := {} }
    with e | ⟨part, u⟩
  · rw [readWhole_of_error hread] at h
    cases h
  · have hfuel : 4 * src.length + 8 ≤ 4 * (nameGroups src).length + 8 :=
      Nat.add_le_add_right (Nat.mul_le_mul_left 4 (length_le_nameGroups src)) 8
    obtain ⟨hread', -⟩ := (followsAt hg hfuel).whole {} [] .start rfl part u hread
    rw [readWhole_of_ok hread] at h
    rw [readWhole_of_ok hread', ← h]
    rw [text_named, isEmpty_nameGroups]
    rfl

end Whole

end TermRef.Pattern

namespace TermRef.Grammar

open Pattern

/-- Names of the grammars that are no patterns of their own. -/
def reserved : List String := ["default", "standard", "alt", "alternate"]

/-- The grammar of a text that is a pattern as it stands. -/
theorem ofText_of_guarded {source : String} {p : Pattern}
    (hname : String.ofList (Unicode.lower source.toList) ∉ reserved)
    (hliteral : splitLiteral source.toList = none) (hguarded : Guarded source.toList)
    (hread : readWhole {} source.toList = .ok p) : ofText source = .ok ⟨.custom, p⟩ := by
  have hcustom : readCustom source = .ok p := by
    rw [readCustom, hliteral]
    simp only [Option.getD_none, literalFlags, bind, Except.bind,
      readWhole_nameGroups hguarded hread]
  simp only [reserved, List.mem_cons, List.not_mem_nil, or_false, not_or] at hname
  obtain ⟨hdefault, hstandard, halt, halternate⟩ := hname
  rw [ofText]
  simp only [beq_iff_eq, hdefault, hstandard, halt, halternate, or_self, if_false,
    Bool.or_eq_true, hcustom]
  rfl

/-- **A custom pattern is used as it is written.**  A text that names no grammar, is no literal
and is a pattern as it stands scans every text as that pattern does, if no `(?<` that would be
rewritten stands in it behind a backslash or in a set. -/
theorem scan_verbatim {source : String} {p : Pattern}
    (hname : String.ofList (Unicode.lower source.toList) ∉ reserved)
    (hliteral : splitLiteral source.toList = none) (hguarded : Guarded source.toList)
    (hread : readWhole {} source.toList = .ok p) :
    ∃ g, ofText source = .ok g ∧ g.kind = .custom ∧ ∀ text, g.scan text = scan ⟨.custom, p⟩ text :=
  ⟨⟨.custom, p⟩, ofText_of_guarded hname hliteral hguarded hread, rfl, fun _ => rfl⟩

/-- The opener in the comment is rewritten, and the pattern is the same.  The bracket behind the
backslash opens no set. -/
theorem scan_verbatim_comment :
    ∃ p, readWhole {} "\\[(?#(?<n>)(?P<showtext>a+)\\]".toList = .ok p ∧
      ∃ g, ofText "\\[(?#(?<n>)(?P<showtext>a+)\\]" = .ok g ∧ g.kind = .custom ∧
        ∀ text, g.scan text = scan ⟨.custom, p⟩ text := by
  rcases h : readWhole {} "\\[(?#(?<n>)(?P<showtext>a+)\\]".toList with e | p
  · have hok : (readWhole {} "\\[(?#(?<n>)(?P<showtext>a+)\\]".toList).isOk = true := by
      decide +kernel
    rw [h] at hok
    cases hok
  · refine ⟨p, rfl, scan_verbatim ?_ ?_ ?_ h⟩
    · decide +kernel
    · decide +kernel
    · -- behind the escape no backslash stands before a parenthesis, and there is no set
      have hescape : ("(?#(?<n>)(?P<showtext>a+)\\]".toList.tails.any fun t =>
          List.isPrefixOf ['\\', '('] t) = false := by decide +kernel
      have hset : '[' ∉ "(?#(?<n>)(?P<showtext>a+)\\]".toList := by decide +kernel
      constructor
      · intro vs t ht
        rcases Outside.suffix_escape ht with heq | ht
        · cases heq
        · exact absurd rfl (List.any_eq_false.mp hescape _ ((List.mem_tails _ _).mpr ht))
      · intro vs u t ht
        rcases Outside.suffix_escape ht with heq | ht
        · cases heq
        · exact absurd (ht.subset List.mem_cons_self) hset

/-- Behind a backslash the parenthesis opens nothing, and what is rewritten is another pattern:
as it stands this one finds a word in angle brackets, and the grammar finds nothing. -/
theorem escaped_opener_is_rewritten :
    String.ofList (Unicode.lower "\\(?<(?P<showtext>\\w+)>".toList) ∉ reserved ∧
      splitLiteral "\\(?<(?P<showtext>\\w+)>".toList = none ∧
      (readWhole {} "\\(?<(?P<showtext>\\w+)>".toList).toOption.map
          (fun p => scan ⟨.custom, p⟩ "<gateway>") =
        some [⟨0, 9, "<gateway>", { showtext := "gateway", term := "gateway" }⟩] ∧
      (ofText "\\(?<(?P<showtext>\\w+)>").toOption.map (fun g => g.scan "<gateway>") =
        some [] := by
  decide +kernel

end TermRef.Grammar
