/-
TermRef/Proofs/Pattern/Renaming.lean

Reading a pattern along with its text after named groups have been rewritten.

A custom pattern is rewritten before it is read: `(?<` becomes `(?P<` wherever neither `=` nor `!`
follows, whatever stands around it.  A reader of the text and one of the rewritten text are in
step as long as neither has come to such an opener: what the first one gives, the second gives
too (`FollowsTo`).  Most readers never come to one, because they take characters that are no
parenthesis, and leave the flags alone besides (`Follows`); what is put together of readers that
follow follows as well.

The readers that take any character may take the parenthesis of an opener, and then the two are
apart.  Either the reader of the text gives up behind it, or no opener may stand there; this is
what `FollowsTo.item` asks of the place.
-/
import Mathlib.Tactic.ByContra
import TermRef.Reference.Grammar

namespace TermRef.Pattern

open Grammar

/-! ### Openers -/

/-- Behind an opening parenthesis, this is the opener of a group that is rewritten. -/
def Opens (t : List Char) : Prop :=
  ∃ r, t = '?' :: '<' :: r ∧ r.head? ≠ some '=' ∧ r.head? ≠ some '!'

theorem nameGroups_opener {r : List Char} (hequals : r.head? ≠ some '=')
    (hbang : r.head? ≠ some '!') :
    nameGroups ('(' :: '?' :: '<' :: r) = '(' :: '?' :: 'P' :: '<' :: nameGroups r := by
  refine nameGroups.eq_3 r (fun tail h => hequals ?_) fun tail h => hbang ?_
  · rw [h]
    rfl
  · rw [h]
    rfl

theorem nameGroups_cons_of_ne {c : Char} (h : c ≠ '(') (t : List Char) :
    nameGroups (c :: t) = c :: nameGroups t :=
  nameGroups.eq_4 c t fun _ hc _ => h hc

/-- Only the parenthesis of an opener is not kept as it is. -/
theorem nameGroups_cons {c : Char} {t : List Char} (h : c = '(' → ¬ Opens t) :
    nameGroups (c :: t) = c :: nameGroups t := by
  by_cases hopen : ∃ r, c = '(' ∧ t = '?' :: '<' :: r
  · obtain ⟨r, rfl, rfl⟩ := hopen
    have hlook : r.head? = some '=' ∨ r.head? = some '!' := by
      by_contra hnone
      rw [not_or] at hnone
      exact h rfl ⟨r, rfl, hnone⟩
    rcases r with - | ⟨x, r⟩
    · simp at hlook
    · obtain rfl | rfl : x = '=' ∨ x = '!' := by simpa using hlook
      · rw [nameGroups.eq_1, nameGroups_cons_of_ne (show '?' ≠ '(' by decide),
          nameGroups_cons_of_ne (show '<' ≠ '(' by decide)]
      · rw [nameGroups.eq_2, nameGroups_cons_of_ne (show '?' ≠ '(' by decide),
          nameGroups_cons_of_ne (show '<' ≠ '(' by decide)]
  · exact nameGroups.eq_4 c t fun r hc ht => hopen ⟨r, hc, ht⟩

theorem nameGroups_nil : nameGroups [] = [] := nameGroups.eq_5

theorem length_le_nameGroups (t : List Char) : t.length ≤ (nameGroups t).length := by
  fun_induction nameGroups t with
  | case1 tail ih => simpa using ih
  | case2 tail ih => simpa using ih
  | case3 r hequals hbang ih => simpa using Nat.le_succ_of_le ih
  | case4 c r hne ih => simpa using ih
  | case5 => exact Nat.le_refl _

theorem head?_nameGroups (t : List Char) : (nameGroups t).head? = t.head? := by
  fun_cases nameGroups t with
  | case1 => rfl
  | case2 => rfl
  | case3 => rfl
  | case4 => rfl
  | case5 => rfl

/-- The rewritten text begins with the same character. -/
theorem exists_nameGroups_cons (x : Char) (r : List Char) :
    ∃ r', nameGroups (x :: r) = x :: r' := by
  have hhead := head?_nameGroups (x :: r)
  rcases h : nameGroups (x :: r) with - | ⟨y, r'⟩
  · rw [h] at hhead
    cases hhead
  · rw [h] at hhead
    obtain rfl : y = x := by simpa using hhead
    exact ⟨r', rfl⟩

theorem isEmpty_nameGroups (t : List Char) : (nameGroups t).isEmpty = t.isEmpty := by
  rcases t with - | ⟨x, r⟩
  · rw [nameGroups_nil]
  · obtain ⟨r', hr'⟩ := exists_nameGroups_cons x r
    rw [hr']
    rfl

/-- A text without parentheses stays as it is. -/
theorem nameGroups_append {w : List Char} (h : '(' ∉ w) (t : List Char) :
    nameGroups (w ++ t) = w ++ nameGroups t := by
  induction w with
  | nil => rfl
  | cons c w ih =>
    obtain ⟨hc, hw⟩ := not_or.mp (mt List.mem_cons.mpr h)
    rw [List.cons_append, nameGroups_cons_of_ne (Ne.symm hc), ih hw, List.cons_append]

/-! ### Following -/

/-- The state of the reader of the rewritten text. -/
def State.named (s : State) : State := { s with text := nameGroups s.text }

@[simp] theorem text_named (s : State) : s.named.text = nameGroups s.text := rfl

@[simp] theorem names_named (s : State) : s.named.names = s.names := rfl

@[simp] theorem behind_named (s : State) : s.named.behind = s.behind := rfl

@[simp] theorem closedWidths?_named (s : State) (i : Nat) :
    closedWidths? s.named i = closedWidths? s i := rfl

/-- Where a reader succeeds, another one does the same on the rewritten text.  `P` holds of what it
gives and of the state that it leaves. -/
def FollowsTo {α : Type} (P : α → State → Prop) (s : State) (m m' : Reader α) : Prop :=
  ∀ a u, m s = .ok (a, u) → m' s.named = .ok (a, u.named) ∧ P a u

/-- The same for readers that leave the flags alone.  `Q` holds of the text that is left, which
says how far the reader may have come. -/
def Follows {α : Type} (Q : List Char → Prop) (s : State) (m m' : Reader α) : Prop :=
  FollowsTo (fun _ u => Q u.text ∧ u.flags = s.flags) s m m'

section Following

variable {α β : Type} {s : State} {m m' : Reader α}

theorem bind_eq_ok {k : α → Reader β} {b : β} {u : State} :
    (m >>= k) s = .ok (b, u) ↔ ∃ a v, m s = .ok (a, v) ∧ k a v = .ok (b, u) := by
  show (m s >>= fun x => k x.1 x.2) = .ok (b, u) ↔ _
  rcases m s with e | ⟨a, v⟩
  · constructor
    · intro h
      cases h
    · rintro ⟨a, v, h, -⟩
      cases h
  · constructor
    · intro h
      exact ⟨a, v, rfl, h⟩
    · rintro ⟨a', v', h, hk⟩
      cases h
      exact hk

theorem run_get_bind (k : State → Reader β) : (get >>= k) s = k s s := rfl

namespace FollowsTo

variable {P : α → State → Prop} {P' : β → State → Prop}

theorem pure {a : α} (h : P a s) : FollowsTo P s (pure a) (pure a) := by
  rintro _ _ ⟨⟩
  exact ⟨rfl, h⟩

theorem fails (h : ∀ a u, m s ≠ .ok (a, u)) : FollowsTo P s m m' :=
  fun a u hm => absurd hm (h a u)

theorem throw (e : Fault) : FollowsTo P s (throw e : Reader α) m' := fails fun _ _ h => by cases h

theorem refuse : FollowsTo P s (refuse : Reader α) m' := throw _

theorem bind {k k' : α → Reader β} (hm : FollowsTo P s m m')
    (hk : ∀ a u, m s = .ok (a, u) → P a u → FollowsTo P' u (k a) (k' a)) :
    FollowsTo P' s (m >>= k) (m' >>= k') := by
  intro b v h
  obtain ⟨a, u, ha, hb⟩ := bind_eq_ok.mp h
  obtain ⟨ha', hu⟩ := hm a u ha
  obtain ⟨hb', hv⟩ := hk a u ha hu b v hb
  exact ⟨bind_eq_ok.mpr ⟨a, u.named, ha', hb'⟩, hv⟩

theorem mono {P' : α → State → Prop} (hm : FollowsTo P s m m')
    (h : ∀ a u, m s = .ok (a, u) → P a u → P' a u) : FollowsTo P' s m m' := by
  intro a u ha
  obtain ⟨ha', hu⟩ := hm a u ha
  exact ⟨ha', h a u ha hu⟩

/-- Looking at the state shows one reader the text and the other the rewritten one. -/
theorem get {k k' : State → Reader α} (h : FollowsTo P s (k s) (k' s.named)) :
    FollowsTo P s (MonadStateOf.get >>= k) (MonadStateOf.get >>= k') := h

/-- A change of the text, and of whatever else. -/
theorem set {P : Unit → State → Prop} {u u' : State} (h : u' = u.named) (hu : P () u) :
    FollowsTo P s (MonadStateOf.set u : Reader Unit) (MonadStateOf.set u') := by
  rintro _ _ ⟨⟩
  exact ⟨congrArg (fun v => Except.ok ((), v)) h, hu⟩

/-- A change that leaves the text alone. -/
theorem modify {P : Unit → State → Prop} {f : State → State} (h : f s.named = (f s).named)
    (hs : P () (f s)) : FollowsTo P s (modify f : Reader Unit) (modify f) := by
  rintro _ _ ⟨⟩
  exact ⟨congrArg (fun v => Except.ok ((), v)) h, hs⟩

theorem ite {n n' : Reader α} {p : Prop} [Decidable p] (hm : p → FollowsTo P s m m')
    (hn : ¬ p → FollowsTo P s n n') :
    FollowsTo P s (if p then m else n) (if p then m' else n') := by
  split
  · exact hm ‹_›
  · exact hn ‹_›

/-- One of two readers and then, in either case, the same. -/
theorem iteBind {n n' : Reader α} {k k' : α → Reader β} {p : Prop} [Decidable p]
    (hm : p → FollowsTo P s m m') (hn : ¬ p → FollowsTo P s n n')
    (hk : ∀ a u, P a u → FollowsTo P' u (k a) (k' a)) :
    FollowsTo P' s (if p then m >>= k else n >>= k) (if p then m' >>= k' else n' >>= k') :=
  ite (fun h => (hm h).bind fun a u _ hu => hk a u hu)
    fun h => (hn h).bind fun a u _ hu => hk a u hu

end FollowsTo

namespace Follows

variable {Q Q' : List Char → Prop}

theorem pure (h : Q s.text) (a : α) : Follows Q s (pure a) (pure a) := FollowsTo.pure ⟨h, rfl⟩

theorem fails (h : ∀ a u, m s ≠ .ok (a, u)) : Follows Q s m m' := FollowsTo.fails h

theorem refuse : Follows Q s (refuse : Reader α) m' := FollowsTo.refuse

/-- A character by its name is refused in either case. -/
theorem refuseNamed : Follows Q s (refuseNamed : Reader α) m' := by
  refine fails fun a u => ?_
  rw [Pattern.refuseNamed, run_get_bind]
  split <;> rintro ⟨⟩

/-- A reader that leaves the flags alone, before one that need not. -/
theorem bindTo {P : β → State → Prop} {k k' : α → Reader β} (hm : Follows Q s m m')
    (hk : ∀ a u, m s = .ok (a, u) → Q u.text → u.flags = s.flags → FollowsTo P u (k a) (k' a)) :
    FollowsTo P s (m >>= k) (m' >>= k') :=
  FollowsTo.bind hm fun a u ha hu => hk a u ha hu.1 hu.2

theorem bind {k k' : α → Reader β} (hm : Follows Q s m m')
    (hk : ∀ a u, m s = .ok (a, u) → Q u.text → Follows Q' u (k a) (k' a)) :
    Follows Q' s (m >>= k) (m' >>= k') :=
  hm.bindTo fun a u ha hu hflags =>
    FollowsTo.mono (hk a u ha hu) fun _ _ _ hv => ⟨hv.1, hv.2.trans hflags⟩

theorem get {k k' : State → Reader α} (h : Follows Q s (k s) (k' s.named)) :
    Follows Q s (MonadStateOf.get >>= k) (MonadStateOf.get >>= k') := FollowsTo.get h

theorem set {u u' : State} (h : u' = u.named) (hu : Q u.text) (hflags : u.flags = s.flags) :
    Follows Q s (MonadStateOf.set u : Reader Unit) (MonadStateOf.set u') :=
  FollowsTo.set h ⟨hu, hflags⟩

theorem modify {f : State → State} (h : f s.named = (f s).named) (hs : Q (f s).text)
    (hflags : (f s).flags = s.flags) : Follows Q s (modify f : Reader Unit) (modify f) :=
  FollowsTo.modify h ⟨hs, hflags⟩

theorem ite {n n' : Reader α} {p : Prop} [Decidable p] (hm : p → Follows Q s m m')
    (hn : ¬ p → Follows Q s n n') : Follows Q s (if p then m else n) (if p then m' else n') :=
  FollowsTo.ite hm hn

/-- A reader that may be left out, and then the same. -/
theorem iteThen {m m' : Reader Unit} {k k' : Unit → Reader β} {p : Prop} [Decidable p]
    (hs : Q s.text) (hm : p → Follows Q s m m')
    (hk : ∀ u, Q u.text → Follows Q' u (k ()) (k' ())) :
    Follows Q' s (if p then m >>= k else k ()) (if p then m' >>= k' else k' ()) :=
  .ite (fun h => (hm h).bind fun _ u _ hu => hk u hu) fun _ => hk s hs

theorem map {f : α → β} (hm : Follows Q s m m') : Follows Q s (f <$> m) (f <$> m') := by
  rw [map_eq_pure_bind, map_eq_pure_bind]
  exact hm.bind fun a u _ hu => .pure hu (f a)

end Follows

end Following

/-! ### Items -/

section Items

variable {β : Type} {s : State}

theorem takeItem_nil (h : s.text = []) : takeItem s = .ok (none, s) := by
  obtain ⟨t⟩ := s
  obtain rfl : t = _ := h
  rfl

theorem takeItem_backslash (h : s.text = ['\\']) : takeItem s = .error .malformed := by
  obtain ⟨t⟩ := s
  obtain rfl : t = _ := h
  rfl

theorem takeItem_escaped {c : Char} {r : List Char} (h : s.text = '\\' :: c :: r) :
    takeItem s = .ok (some (.escaped c), { s with text := r }) := by
  obtain ⟨t⟩ := s
  obtain rfl : t = _ := h
  rfl

theorem takeItem_plain {c : Char} {r : List Char} (hc : c ≠ '\\') (h : s.text = c :: r) :
    takeItem s = .ok (some (.plain c), { s with text := r }) := by
  rw [takeItem, run_get_bind]
  refine congrFun (?_ : _ = (do
    set { s with text := r }
    pure (some (.plain c)) : Reader (Option Item))) s
  split
  case h_1 heq => cases h.symm.trans heq
  case h_2 heq =>
    cases h.symm.trans heq
    exact absurd rfl hc
  case h_3 heq =>
    cases h.symm.trans heq
    exact absurd rfl hc
  case h_4 heq =>
    cases h.symm.trans heq
    rfl

/-- How a text may begin for the reader of items. -/
theorem item_cases (t : List Char) :
    t = [] ∨ t = ['\\'] ∨ (∃ c r, t = '\\' :: c :: r) ∨ ∃ c r, c ≠ '\\' ∧ t = c :: r := by
  rcases t with - | ⟨c, r⟩
  · exact .inl rfl
  · by_cases hc : c = '\\'
    · subst hc
      rcases r with - | ⟨d, r⟩
      · exact .inr (.inl rfl)
      · exact .inr (.inr (.inl ⟨d, r, rfl⟩))
    · exact .inr (.inr (.inr ⟨c, r, hc, rfl⟩))

theorem takePlain_text {c : Char} {u : State} (h : takePlain s = .ok (c, u)) :
    s.text = c :: u.text := by
  obtain ⟨i, v, hi, hk⟩ := bind_eq_ok.mp h
  rcases item_cases s.text with ht | ht | ⟨d, r, ht⟩ | ⟨d, r, hd, ht⟩
  · rw [takeItem_nil ht] at hi
    cases hi
    cases hk
  · rw [takeItem_backslash ht] at hi
    cases hi
  · rw [takeItem_escaped ht] at hi
    cases hi
    cases hk
  · rw [takeItem_plain hd ht] at hi
    cases hi
    cases hk
    exact ht

namespace FollowsTo

variable {P : β → State → Prop}

/-- Behind an item both readers go on alike, unless it was the parenthesis of an opener: none may
stand behind a backslash, and behind a plain one the reader has to fail. -/
theorem item {k k' : Option Item → Reader β}
    (hescape : ∀ r, s.text = '\\' :: '(' :: r → ¬ Opens r)
    (hopener : ∀ r, s.text = '(' :: r → Opens r →
      ∀ b v, k (some (.plain '(')) { s with text := r } ≠ .ok (b, v))
    (hend : s.text = [] → FollowsTo P s (k none) (k' none))
    (hescaped : ∀ c r, s.text = '\\' :: c :: r →
      FollowsTo P { s with text := r } (k (some (.escaped c))) (k' (some (.escaped c))))
    (hplain : ∀ c r, c ≠ '\\' → s.text = c :: r →
      FollowsTo P { s with text := r } (k (some (.plain c))) (k' (some (.plain c)))) :
    FollowsTo P s (takeItem >>= k) (takeItem >>= k') := by
  intro b v h
  obtain ⟨i, u, hi, hk⟩ := bind_eq_ok.mp h
  rcases item_cases s.text with ht | ht | ⟨c, r, ht⟩ | ⟨c, r, hc, ht⟩
  · obtain ⟨rfl, rfl⟩ : none = i ∧ s = u := by simpa [takeItem_nil ht] using hi
    obtain ⟨hk', hv⟩ := hend ht b v hk
    refine ⟨bind_eq_ok.mpr ⟨none, s.named, takeItem_nil ?_, hk'⟩, hv⟩
    rw [text_named, ht, nameGroups_nil]
  · rw [takeItem_backslash ht] at hi
    cases hi
  · obtain ⟨rfl, rfl⟩ : some (.escaped c) = i ∧ { s with text := r } = u := by
      simpa [takeItem_escaped ht] using hi
    obtain ⟨hk', hv⟩ := hescaped c _ ht b v hk
    refine ⟨bind_eq_ok.mpr ⟨_, _, takeItem_escaped (r := nameGroups r) ?_, hk'⟩, hv⟩
    rw [text_named, ht, nameGroups_cons_of_ne (by decide), nameGroups_cons]
    rintro rfl
    exact hescape r ht
  · obtain ⟨rfl, rfl⟩ : some (.plain c) = i ∧ { s with text := r } = u := by
      simpa [takeItem_plain hc ht] using hi
    have hshut : c = '(' → ¬ Opens r := by
      rintro rfl hr
      exact hopener _ ht hr b v hk
    obtain ⟨hk', hv⟩ := hplain c _ hc ht b v hk
    refine ⟨bind_eq_ok.mpr ⟨_, _, takeItem_plain (r := nameGroups r) hc ?_, hk'⟩, hv⟩
    rw [text_named, ht, nameGroups_cons hshut]

/-- The same for a reader that takes only plain characters, and so none behind a backslash. -/
theorem plain {k k' : Char → Reader β}
    (hopener : ∀ r, s.text = '(' :: r → Opens r →
      ∀ b v, k '(' { s with text := r } ≠ .ok (b, v))
    (hplain : ∀ c r, c ≠ '\\' → s.text = c :: r →
      FollowsTo P { s with text := r } (k c) (k' c)) :
    FollowsTo P s (takePlain >>= k) (takePlain >>= k') := by
  by_cases hescape : ∃ c r, s.text = '\\' :: c :: r
  · obtain ⟨c, r, ht⟩ := hescape
    refine fails fun b v h => ?_
    obtain ⟨a, u, ha, -⟩ := bind_eq_ok.mp h
    obtain ⟨i, w, hi, hrefused⟩ := bind_eq_ok.mp ha
    rw [takeItem_escaped ht] at hi
    cases hi
    cases hrefused
  · rw [takePlain, bind_assoc, bind_assoc]
    refine item (fun r hr => absurd ⟨_, r, hr⟩ hescape) ?_ (fun _ => ?_) (fun c u _ => ?_)
      fun c r hc hr => ?_
    · intro r hr hopens b v h
      exact hopener r hr hopens b v h
    · exact refuse
    · exact refuse
    · exact hplain c r hc hr

end FollowsTo

end Items

/-! ### Characters and digits -/

/-- The characters with which something begins or ends that is read in its own way. -/
def marks : List Char := ['\\', '[', ']', '(', ')', '#']

/-- Taking a character that is none of these keeps `Q`. -/
def Lasting (Q : List Char → Prop) : Prop := ∀ c t, c ∉ marks → Q (c :: t) → Q t

/-- The text is what is left of a pattern. -/
def Within (src t : List Char) : Prop := t <:+ src

theorem Within.tail {src t : List Char} {c : Char} (h : Within src (c :: t)) : Within src t :=
  (List.suffix_cons c t).trans h

theorem Within.lasting (src : List Char) : Lasting (Within src) := by
  intro c t _ h
  exact h.tail

theorem Lasting.and {Q Q' : List Char → Prop} (hQ : Lasting Q) (hQ' : Lasting Q') :
    Lasting fun t => Q t ∧ Q' t :=
  fun c t hc h => ⟨hQ c t hc h.1, hQ' c t hc h.2⟩

section Digits

variable {Q : List Char → Prop} {s : State}

theorem accept_eq {c : Char} {r : List Char} (hc : c ≠ '\\') (h : s.text = c :: r) :
    accept c s = .ok (true, { s with text := r }) := by
  rw [accept, run_get_bind, h]
  simp only [true_and, ne_eq, hc, not_false_eq_true, if_true]
  rfl

theorem accept_eq_false {c : Char} (h : s.text.head? ≠ some c) : accept c s = .ok (false, s) := by
  rw [accept, run_get_bind]
  rcases ht : s.text with - | ⟨x, r⟩
  · rfl
  · have hx : x ≠ c := fun heq => h (by rw [ht, heq, List.head?_cons])
    simp only [hx, false_and, if_false]
    rfl

/-- Both readers take the character, or neither does. -/
theorem FollowsTo.accept {β : Type} {P : β → State → Prop} {k k' : Bool → Reader β} {c : Char}
    (hc : c ≠ '(' ∧ c ≠ '\\')
    (htaken : ∀ r, s.text = c :: r → FollowsTo P { s with text := r } (k true) (k' true))
    (hleft : s.text.head? ≠ some c → FollowsTo P s (k false) (k' false)) :
    FollowsTo P s (Pattern.accept c >>= k) (Pattern.accept c >>= k') := by
  intro b v h
  obtain ⟨a, u, ha, hb⟩ := bind_eq_ok.mp h
  by_cases hhead : s.text.head? = some c
  · obtain ⟨r, hr⟩ := List.head?_eq_some_iff.mp hhead
    obtain ⟨rfl, rfl⟩ : true = a ∧ { s with text := r } = u := by
      simpa [accept_eq hc.2 hr] using ha
    obtain ⟨hb', hv⟩ := htaken r hr b v hb
    refine ⟨bind_eq_ok.mpr ⟨true, _, accept_eq (r := nameGroups r) hc.2 ?_, hb'⟩, hv⟩
    rw [text_named, hr, nameGroups_cons_of_ne hc.1]
  · obtain ⟨rfl, rfl⟩ : false = a ∧ s = u := by simpa [accept_eq_false hhead] using ha
    obtain ⟨hb', hv⟩ := hleft hhead b v hb
    refine ⟨bind_eq_ok.mpr ⟨false, s.named, accept_eq_false ?_, hb'⟩, hv⟩
    rwa [text_named, head?_nameGroups]

theorem follows_accept_of {c : Char} (hc : c ≠ '(' ∧ c ≠ '\\')
    (hs : s.text.head? ≠ some c → Q s.text) (hQ : ∀ r, s.text = c :: r → Q r) :
    Follows Q s (accept c) (accept c) := by
  rw [← bind_pure (accept c)]
  exact FollowsTo.accept hc (fun r hr => .pure ⟨hQ r hr, rfl⟩) fun h => .pure ⟨hs h, rfl⟩

theorem follows_accept (hQ : Lasting Q) {c : Char} (hc : c ∉ marks) (hs : Q s.text) :
    Follows Q s (accept c) (accept c) := by
  refine follows_accept_of ⟨?_, ?_⟩ (fun _ => hs) fun r hr => hQ c r hc (hr ▸ hs)
  · exact fun h => hc (h ▸ by decide)
  · exact fun h => hc (h ▸ by decide)

theorem digitIn_eq_none (base : Nat) {c : Char} (hc : c ∈ marks) : digitIn base c = none := by
  simp only [marks, List.mem_cons, List.not_mem_nil, or_false] at hc
  rcases hc with rfl | rfl | rfl | rfl | rfl | rfl <;> rfl

theorem not_mem_marks_of {p : Char → Bool} (hp : marks.any p = false) {c : Char} (h : p c = true) :
    c ∉ marks := by
  intro hc
  exact absurd (List.any_eq_true.mpr ⟨c, hc, h⟩) (Bool.eq_false_iff.mp hp)

theorem not_mem_marks_of_digitIn {base : Nat} {c : Char} (h : (digitIn base c).isSome = true) :
    c ∉ marks := by
  intro hc
  rw [digitIn_eq_none base hc] at h
  cases h

theorem digitsFrom_nameGroups (base n count acc : Nat) (t : List Char) :
    digitsFrom base n count acc (nameGroups t) =
      ((digitsFrom base n count acc t).1, (digitsFrom base n count acc t).2.1,
        nameGroups (digitsFrom base n count acc t).2.2) := by
  induction n generalizing count acc t with
  | zero => rfl
  | succ n ih =>
    rcases t with - | ⟨c, r⟩
    · rw [nameGroups_nil]
      rfl
    · rcases hv : digitIn base c with - | v
      · obtain ⟨r', hr'⟩ := exists_nameGroups_cons c r
        simp only [hr', digitsFrom, hv]
      · have hc : c ≠ '(' := by
          rintro rfl
          rw [digitIn_eq_none base (by decide)] at hv
          cases hv
        simp only [nameGroups_cons_of_ne hc, digitsFrom, hv]
        exact ih _ _ r

theorem digitsFrom_keeps (hQ : Lasting Q) (base n count acc : Nat) {t : List Char} (h : Q t) :
    Q (digitsFrom base n count acc t).2.2 := by
  induction n generalizing count acc t with
  | zero => exact h
  | succ n ih =>
    rcases t with - | ⟨c, r⟩
    · exact h
    · rcases hv : digitIn base c with - | v
      · simpa only [digitsFrom, hv] using h
      · have hc : c ∉ marks := not_mem_marks_of_digitIn (Option.isSome_of_mem hv)
        simp only [digitsFrom, hv]
        exact ih _ _ (hQ c r hc h)

/-- A bound beyond the end of the text is none. -/
theorem digitsFrom_of_le {n m : Nat} {t : List Char} (hn : t.length ≤ n) (hm : t.length ≤ m)
    (base count acc : Nat) : digitsFrom base n count acc t = digitsFrom base m count acc t := by
  induction t generalizing n m count acc with
  | nil =>
    rcases n with - | n <;> rcases m with - | m <;> rfl
  | cons c r ih =>
    rw [List.length_cons] at hn hm
    obtain ⟨n, rfl⟩ := Nat.exists_eq_succ_of_ne_zero (Nat.ne_zero_of_lt hn)
    obtain ⟨m, rfl⟩ := Nat.exists_eq_succ_of_ne_zero (Nat.ne_zero_of_lt hm)
    rcases hv : digitIn base c with - | v
    · simp only [digitsFrom, hv]
    · simp only [digitsFrom, hv]
      exact ih (Nat.le_of_succ_le_succ hn) (Nat.le_of_succ_le_succ hm) _ _

theorem follows_takeDigits (hQ : Lasting Q) (hs : Q s.text) {base n n' : Nat}
    (hn : digitsFrom base n' 0 0 s.text = digitsFrom base n 0 0 s.text) :
    Follows Q s (takeDigits base n) (takeDigits base n') := by
  rw [takeDigits, takeDigits]
  refine .get ?_
  rw [text_named, digitsFrom_nameGroups, hn]
  exact .bind (Follows.set rfl (digitsFrom_keeps hQ base n 0 0 hs) rfl) fun _ u _ hu => .pure hu _

theorem follows_takeHex (hQ : Lasting Q) (hs : Q s.text) (n : Nat) :
    Follows Q s (takeHex n) (takeHex n) := by
  rw [takeHex]
  refine .bind (follows_takeDigits hQ hs rfl) fun p u _ hu => ?_
  exact .ite (fun _ => .pure hu p.2) fun _ => .refuse

theorem follows_takeCode (hQ : Lasting Q) (hs : Q s.text) (c : Char) :
    Follows Q s (takeCode c) (takeCode c) := by
  rw [takeCode]
  refine .ite (fun _ => (follows_takeHex hQ hs 2).map) fun _ => ?_
  refine .ite (fun _ => (follows_takeHex hQ hs 4).map) fun _ => ?_
  refine .ite (fun _ => ?_) fun _ => .pure hs none
  refine .bind (follows_takeHex hQ hs 8) fun n u _ hu => ?_
  exact .ite (fun _ => .pure hu (some n)) fun _ => .refuse

theorem follows_takeSetEscape (hQ : Lasting Q) (hs : Q s.text) (ascii : Bool) (c : Char) :
    Follows Q s (takeSetEscape ascii c) (takeSetEscape ascii c) := by
  rw [takeSetEscape]
  rcases controlCode c with - | n
  · rcases kindOf c with - | ⟨k, inside⟩
    · refine .bind (follows_takeCode hQ hs c) fun code u _ hu => ?_
      rcases code with - | n
      · rcases digitIn 8 c with - | v
        · exact .ite (fun _ => .refuseNamed) fun _ => .ite (fun _ => .refuse) fun _ => .pure hu _
        · refine .get ?_
          rw [text_named, digitsFrom_nameGroups]
          refine .bind (Follows.set rfl (digitsFrom_keeps hQ 8 2 0 v hu) rfl) fun _ w _ hw => ?_
          exact .ite (fun _ => .refuse) fun _ => .pure hw _
      · exact .pure hu _
    · exact .pure hs _
  · exact .pure hs _

end Digits

end TermRef.Pattern
