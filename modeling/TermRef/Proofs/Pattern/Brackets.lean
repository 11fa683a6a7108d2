/-
TermRef/Proofs/Pattern/Brackets.lean

Reading a set along with its rewritten text.

Inside a set a parenthesis is a member like any other, and `(?<` in it would be rewritten all the
same.  In a guarded pattern there is none, so that every member is read alike, escapes and ranges
with it (`follows_afterMember`), up to the bracket that ends the set (`follows_takeSet`).
-/
import TermRef.Proofs.Pattern.Places

namespace TermRef.Pattern

open Grammar

section Sets

variable {src : List Char} {vs : List Bool} {s : State}

/-- A member of a set that is no plain closing bracket. -/
theorem follows_member (hg : Guarded src) {β : Type} {k k' : Option Item → Reader β}
    (hs : AtMember src vs s.text) {Q : List Char → Prop}
    (hend : s.text = [] → Follows Q s (k none) (k' none))
    (hbracket : ∀ r, s.text = ']' :: r →
      Follows Q { s with text := r } (k (some (.plain ']'))) (k' (some (.plain ']'))))
    (hmember : ∀ i r, (∀ c, i = .plain c → c ≠ ']') → Inside src vs .within r →
      Follows Q { s with text := r } (k (some i)) (k' (some i))) :
    Follows Q s (takeItem >>= k) (takeItem >>= k') := by
  refine FollowsTo.item (fun r hr => ?_) (fun r hr hopens => ?_) hend (fun c r hr => ?_)
    fun c r hc hr => ?_
  · exact (hr ▸ hs : AtMember src vs ('\\' :: '(' :: r)).not_opens_escaped hg
  · exact absurd hopens ((hr ▸ hs : AtMember src vs ('(' :: r)).not_opens hg)
  · exact hmember _ r (fun d hd => by cases hd) (hr ▸ hs : AtMember src vs ('\\' :: c :: r)).escaped
  · by_cases hclose : c = ']'
    · subst hclose
      exact hbracket r hr
    · refine hmember _ r (fun d hd => ?_) ((hr ▸ hs : AtMember src vs (c :: r)).next hc hclose)
      cases hd
      exact hclose

/-- An item as a member of the set. -/
theorem follows_asMember {ascii : Bool} {member : Item → Reader SetItem}
    (hplain : ∀ c, member (.plain c) = pure (.code c.toNat))
    (hescaped : ∀ c, member (.escaped c) = takeSetEscape ascii c) (i : Item) (u : State)
    (hu : Inside src vs .within u.text) :
    Follows (Inside src vs .within) u (member i) (member i) := by
  cases i with
  | plain c =>
    rw [hplain]
    exact .pure hu _
  | escaped c =>
    rw [hescaped]
    exact follows_takeSetEscape (Inside.lasting src vs) hu ascii c

theorem follows_afterMember (hg : Guarded src) {ascii : Bool} {first : SetItem}
    {member : Item → Reader SetItem} {n n' : Nat} {done : List SetItem}
    (hmember : ∀ i u, Inside src vs .within u.text →
      Follows (Inside src vs .within) u (member i) (member i))
    (hrest : ∀ more u, more ≠ [] → Inside src vs .within u.text →
      Follows (Outside src vs) u (takeMembers ascii n more) (takeMembers ascii n' more))
    (hs : Inside src vs .within s.text) :
    Follows (Outside src vs) s (takeMembers.afterMember ascii first member n done)
      (takeMembers.afterMember ascii first member n' done) := by
  rw [takeMembers.afterMember, takeMembers.afterMember]
  have hhyphen : Follows (Inside src vs .within) s (accept '-') (accept '-') :=
    follows_accept (Inside.lasting src vs) (by decide) hs
  refine .bind hhyphen fun isRange u _ hu => .ite (fun _ => ?_) fun _ => ?_
  · refine follows_member hg (.inr hu) (fun _ => .refuse) (fun r hr => ?_) fun i r hi hr => ?_
    · exact .pure (hr ▸ hu : Inside src vs .within (']' :: r)).closes _
    · split
      case h_1 => exact .refuse
      case h_2 heq =>
        cases heq
        exact absurd rfl (hi ']' rfl)
      case h_3 j _ heq =>
        cases heq
        refine .bind (hmember i _ hr) fun last w _ hw => ?_
        split
        · refine .ite (fun _ => .refuse) fun _ => ?_
          exact hrest _ w (List.cons_ne_nil _ _) hw
        · exact .refuse
  · exact hrest _ u (List.cons_ne_nil _ _) hu

/-- Members are followed up to the closing bracket.  Before the first one it is a member itself. -/
theorem follows_takeMembers (hg : Guarded src) (ascii : Bool) {n n' : Nat} (hn : n ≤ n')
    {done : List SetItem} (hs : done = [] ∧ AtFirst src vs s.text ∨
      done ≠ [] ∧ Inside src vs .within s.text) :
    Follows (Outside src vs) s (takeMembers ascii n done) (takeMembers ascii n' done) := by
  induction n generalizing n' done s with
  | zero =>
    rw [takeMembers]
    exact .refuse
  | succ n ih =>
    obtain ⟨n', rfl⟩ := Nat.exists_eq_succ_of_ne_zero (Nat.ne_zero_of_lt hn)
    have hrest : ∀ more u, more ≠ [] → Inside src vs .within u.text →
        Follows (Outside src vs) u (takeMembers ascii n more) (takeMembers ascii n' more) :=
      fun more u hmore hu => ih (Nat.le_of_succ_le_succ hn) (.inr ⟨hmore, hu⟩)
    rw [takeMembers, takeMembers]
    have hplace : AtMember src vs s.text := hs.imp And.right And.right
    refine follows_member hg hplace (fun _ => .refuse) (fun r hr => ?_) fun i r hi hr => ?_
    · show Follows _ _ (if _ then _ else _) (if _ then _ else _)
      rw [hr] at hs
      refine .ite (fun hempty => ?_) fun hmore => ?_
      · obtain ⟨-, hfirst⟩ := hs.resolve_right fun h => h.1 (List.isEmpty_iff.mp hempty)
        refine follows_afterMember hg (follows_asMember (fun _ => rfl) fun _ => rfl) hrest ?_
        exact hfirst.next (by decide)
      · obtain ⟨-, hlater⟩ := hs.resolve_left fun h => hmore (List.isEmpty_iff.mpr h.1)
        exact .pure hlater.closes done
    · split
      case h_1 => exact .refuse
      case h_2 heq =>
        cases heq
        exact absurd rfl (hi ']' rfl)
      case h_3 j _ heq =>
        cases heq
        cases i with
        | plain c =>
          refine .bind (Q := Inside src vs .within) (.pure hr _) fun first w _ hw => ?_
          exact follows_afterMember hg (follows_asMember (fun _ => rfl) fun _ => rfl) hrest hw
        | escaped c =>
          have hmember := follows_takeSetEscape (Inside.lasting src vs)
            (s := { s with text := r }) hr ascii c
          refine .bind hmember fun first w _ hw => ?_
          exact follows_afterMember hg (follows_asMember (fun _ => rfl) fun _ => rfl) hrest hw

/-- A set is followed to its closing bracket. -/
theorem follows_takeSet (hg : Guarded src) (hs : Outside src vs ('[' :: s.text)) (f : Flags) :
    Follows (Outside src vs) s (takeSet f) (takeSet f) := by
  rw [takeSet]
  have hstart : Inside src vs .start s.text := ⟨[], hs, rfl⟩
  have hcaret : Follows (AtFirst src vs) s (accept '^') (accept '^') :=
    follows_accept_of (by decide) (fun hhead => .inr ⟨hstart, hhead⟩) fun r hr =>
      .inl (hr ▸ hstart : Inside src vs .start ('^' :: r)).next
  refine .bind hcaret fun negated u _ hu => .get ?_
  have hfuel : u.text.length + 1 ≤ u.named.text.length + 1 :=
    Nat.succ_le_succ (length_le_nameGroups u.text)
  refine .bind (follows_takeMembers hg f.ascii hfuel (.inl ⟨rfl, hu⟩)) fun items v _ hv => ?_
  split
  · exact .pure hv _
  · exact .pure hv _

end Sets

end TermRef.Pattern
