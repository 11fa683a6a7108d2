/-
TermRef/Proofs/Url/Join.lean

Addresses of entries, resolved against a website once and again.

An address has a scheme if, without what does not count in it, it begins with the name of a scheme
and a colon (`HasScheme`).  There is no slash in this beginning, so it is still there when slashes
at the end of the address are given up for a slash and more (`HasScheme.of_trimmed`): nothing that
is appended to a website takes its scheme away.

So with a website that has a scheme, whatever an address is resolved to has one too, and stands for
itself from then on (`join_again`).  What it is resolved to, `Resolved` says in three cases, in
which slashes at the end of the website do not matter.
-/
import TermRef.Url.Join
import Mathlib.Data.List.TakeDrop
import Mathlib.Data.List.TakeWhile

namespace TermRef.Url

variable {s w n u v base rest lead : List Char} {x : Char} {i : Nat}

/-! ### Schemes -/

/-- The name of a scheme: a letter, and characters of schemes. -/
def IsScheme : List Char → Prop
  | [] => False
  | c :: r => c.isAlpha = true ∧ ∀ d ∈ r, isSchemeChar d = true

/-- The address begins with a scheme and a colon, apart from what does not count. -/
def HasScheme (s : List Char) : Prop :=
  ∃ lead rest, clean s = lead ++ ':' :: rest ∧ IsScheme lead

theorem bne_of_not_mem (h : x ∉ s) : ∀ c ∈ s, (c != x) = true :=
  fun _ hc => bne_iff_ne.mpr fun heq => h (heq ▸ hc)

theorem partition_of_not_mem (h : x ∉ s) : partition x s = (s, false, []) := by
  rw [partition, List.span_eq_takeWhile_dropWhile,
    List.takeWhile_eq_self_iff.mpr (bne_of_not_mem h),
    List.dropWhile_eq_nil_iff.mpr (bne_of_not_mem h)]

theorem partition_append_cons (h : x ∉ s) (t : List Char) :
    partition x (s ++ x :: t) = (s, true, t) := by
  rw [partition, List.span_eq_takeWhile_dropWhile,
    List.takeWhile_append_of_pos (bne_of_not_mem h),
    List.dropWhile_append_of_pos (bne_of_not_mem h)]
  simp

theorem IsScheme.colon_not_mem (h : IsScheme lead) : ':' ∉ lead := by
  cases lead with
  | nil => simp
  | cons c r =>
    intro hmem
    rcases List.mem_cons.mp hmem with rfl | hmem
    · exact absurd h.1 (by decide)
    · exact absurd (h.2 _ hmem) (by decide)

theorem splitScheme_eq_some :
    splitScheme s = some (lead, rest) ↔ s = lead ++ ':' :: rest ∧ IsScheme lead := by
  constructor
  · intro h
    by_cases hmem : ':' ∈ s
    · obtain ⟨a, b, rfl, ha⟩ := List.eq_append_cons_of_mem hmem
      rw [splitScheme, partition_append_cons ha] at h
      rcases a with - | ⟨c, r⟩
      · cases h
      · obtain ⟨⟨hc, hr⟩, rfl, rfl⟩ : (c.isAlpha = true ∧ ∀ d ∈ r, isSchemeChar d = true) ∧
            c :: r = lead ∧ b = rest := by simpa using h
        exact ⟨rfl, hc, hr⟩
    · rw [splitScheme, partition_of_not_mem hmem] at h
      cases s <;> simp at h
  · rintro ⟨rfl, h⟩
    rw [splitScheme, partition_append_cons h.colon_not_mem]
    cases lead with
    | nil => exact h.elim
    | cons c r => simpa [IsScheme] using h

/-- **Whether an address has a scheme is told rightly**, unless it is malformed. -/
theorem hasScheme_eq_ok {b : Bool} (h : hasScheme s = .ok b) : b = true ↔ HasScheme s := by
  rw [hasScheme] at h
  rcases hsplit : splitScheme (clean s) with - | ⟨lead, rest⟩
  · have hnone : ¬ HasScheme s := by
      rintro ⟨lead, rest, hs, hlead⟩
      rw [splitScheme_eq_some.mpr ⟨hs, hlead⟩] at hsplit
      cases hsplit
    rw [hsplit] at h
    cases hplace : checkPlace (clean s) <;> simp_all [Except.map]
  · have hsome : HasScheme s := ⟨lead, rest, splitScheme_eq_some.mp hsplit⟩
    rw [hsplit] at h
    cases hplace : checkPlace rest <;> simp_all [Except.map]

/-! ### Slashes -/

/-- The slashes at the start of a text are those before the first other character. -/
theorem dropSlashesLeft_eq : dropSlashesLeft n = rest ↔
    (∃ k, n = List.replicate k '/' ++ rest) ∧ rest.head? ≠ some '/' := by
  constructor
  · rintro rfl
    refine ⟨⟨(n.takeWhile (· == '/')).length, ?_⟩, fun hhead => ?_⟩
    · have hall : ∀ c ∈ n.takeWhile (· == '/'), c = '/' := fun _ hc =>
        eq_of_beq (List.mem_takeWhile_imp (p := (· == '/')) hc)
      rw [← List.eq_replicate_of_mem hall, dropSlashesLeft, List.takeWhile_append_dropWhile]
    · have hnot := List.head?_dropWhile_not (· == '/') n
      rw [dropSlashesLeft] at hhead
      rw [hhead] at hnot
      simp at hnot
  · rintro ⟨⟨k, rfl⟩, hhead⟩
    rw [dropSlashesLeft, List.dropWhile_append_of_pos fun c hc => by
      simp [List.eq_of_mem_replicate hc]]
    rcases rest with - | ⟨c, r⟩
    · rfl
    · exact List.dropWhile_cons_of_neg (by simpa using hhead)

theorem dropSlashesRight_eq : dropSlashesRight w = base ↔
    (∃ i, w = base ++ List.replicate i '/') ∧ base.getLast? ≠ some '/' := by
  have hreverse : dropSlashesRight w = base ↔ dropSlashesLeft w.reverse = base.reverse :=
    List.reverse_eq_iff
  rw [hreverse, dropSlashesLeft_eq, List.head?_reverse]
  refine and_congr_left fun _ => exists_congr fun i => ?_
  rw [List.reverse_eq_iff, List.reverse_append, List.reverse_reverse, List.reverse_replicate]

/-- More slashes at the end are as good as none. -/
theorem dropSlashesRight_append (w : List Char) (k : Nat) :
    dropSlashesRight (w ++ List.replicate k '/') = dropSlashesRight w := by
  obtain ⟨⟨i, hi⟩, hlast⟩ := dropSlashesRight_eq.mp (rfl : dropSlashesRight w = _)
  refine dropSlashesRight_eq.mpr ⟨⟨i + k, ?_⟩, hlast⟩
  rw [← List.replicate_append_replicate, ← List.append_assoc, ← hi]

/-! ### What is appended to a website -/

/-- Where something counts, what follows is cleaned by itself. -/
theorem clean_append (h : ∃ c ∈ s, isControlOrSpace c = false) (r : List Char) :
    clean (s ++ r) = clean s ++ r.filter fun c => !isDropped c := by
  obtain ⟨c, hc, hcounts⟩ := h
  have hne : ¬ (s.dropWhile isControlOrSpace).isEmpty = true := by
    rw [List.isEmpty_iff, List.dropWhile_eq_nil_iff]
    intro hall
    rw [hall c hc] at hcounts
    cases hcounts
  rw [clean, List.dropWhile_append, if_neg hne, List.filter_append, clean]

/-- **A website keeps its scheme** when slashes at its end are given up for a slash and more. -/
theorem HasScheme.of_trimmed (h : HasScheme (base ++ List.replicate i '/')) (r : List Char) :
    HasScheme (base ++ '/' :: r) := by
  obtain ⟨lead, rest, hs, hlead⟩ := h
  -- the colon behind the scheme is none of the slashes
  have hcolon : ':' ∉ List.replicate i '/' := fun hmem => by cases List.eq_of_mem_replicate hmem
  have hslash : ∀ c ∈ List.replicate i '/', c = '/' := fun c hc => List.eq_of_mem_replicate hc
  have hcounts : ∃ c ∈ base, isControlOrSpace c = false := by
    by_contra hnone
    have hall : ∀ c ∈ base, isControlOrSpace c = true := fun c hc =>
      Bool.of_not_eq_false fun hcount => hnone ⟨c, hc, hcount⟩
    rw [clean, List.dropWhile_append_of_pos hall] at hs
    have hmem : ':' ∈ ((List.replicate i '/').dropWhile isControlOrSpace).filter
        fun c => !isDropped c := by
      rw [hs]
      simp
    exact hcolon ((List.dropWhile_sublist _).subset (List.mem_filter.mp hmem).1)
  have hkept : (List.replicate i '/').filter (fun c => !isDropped c) = List.replicate i '/' :=
    List.filter_eq_self.mpr fun c hc => by rw [hslash c hc]; rfl
  rw [clean_append hcounts, hkept] at hs
  obtain ⟨r', hr'⟩ : ∃ r', clean base = lead ++ ':' :: r' := by
    rcases List.append_eq_append_iff.mp hs with ⟨as, -, has⟩ | ⟨bs, hbase, hbs⟩
    · exact absurd (by rw [has]; simp) hcolon
    · rcases bs with - | ⟨b, bs⟩
      · exact absurd (by rw [← List.nil_append (List.replicate i '/'), ← hbs]; simp) hcolon
      · obtain ⟨rfl, -⟩ := List.cons.inj hbs
        exact ⟨bs, hbase⟩
  exact ⟨lead, r' ++ ('/' :: r).filter fun c => !isDropped c,
    by rw [clean_append hcounts, hr', List.append_assoc, List.cons_append], hlead⟩

/-! ### Joining -/

/-- What an address is resolved to against a website: the website, if the address is empty; the
address, if it has a scheme; otherwise the two, without the slashes at the end of the one and at
the start of the other, and a slash in between. -/
inductive Resolved (w n : List Char) : List Char → Prop
  | website : n = [] → Resolved w n w
  | itself : n ≠ [] → HasScheme n → Resolved w n n
  | below {base rest : List Char} {i k : Nat} : n ≠ [] → ¬ HasScheme n →
      w = base ++ List.replicate i '/' → base.getLast? ≠ some '/' →
      n = List.replicate k '/' ++ rest → rest.head? ≠ some '/' → Resolved w n (base ++ '/' :: rest)

theorem Resolved.unique (h : Resolved w n u) (h' : Resolved w n v) : u = v := by
  cases h with
  | website hn =>
    cases h' with
    | website => rfl
    | itself hne | below hne => exact absurd hn hne
  | itself hne hscheme =>
    cases h' with
    | website hn => exact absurd hn hne
    | itself => rfl
    | below _ hnot => exact absurd hscheme hnot
  | below hne hnot hw hbase hn hrest =>
    cases h' with
    | website hn => exact absurd hn hne
    | itself _ hscheme => exact absurd hscheme hnot
    | below _ _ hw' hbase' hn' hrest' =>
      rw [← dropSlashesRight_eq.mpr ⟨⟨_, hw⟩, hbase⟩, ← dropSlashesLeft_eq.mpr ⟨⟨_, hn⟩, hrest⟩,
        dropSlashesRight_eq.mpr ⟨⟨_, hw'⟩, hbase'⟩, dropSlashesLeft_eq.mpr ⟨⟨_, hn'⟩, hrest'⟩]

theorem HasScheme.ne_nil (h : HasScheme s) : s ≠ [] := by
  rintro rfl
  obtain ⟨lead, rest, hs, -⟩ := h
  exact absurd hs (by simp [clean])

/-- What is resolved against a website with a scheme has one. -/
theorem Resolved.hasScheme (h : Resolved w n u) (hw : HasScheme w) : HasScheme u := by
  cases h with
  | website => exact hw
  | itself _ hn => exact hn
  | below _ _ hsplit => exact (hsplit ▸ hw).of_trimmed _

theorem joinChars_eq (hw : w ≠ []) : joinChars w n =
    if n = [] then .ok w else (hasScheme n).map fun b =>
      if b then n else dropSlashesRight w ++ '/' :: dropSlashesLeft n := by
  have hwebsite : w.isEmpty = false := by simpa using hw
  by_cases hn : n = []
  · simp [joinChars, hn]
  · have haddress : n.isEmpty = false := by simpa using hn
    rw [joinChars, haddress, if_neg Bool.noConfusion, if_neg hn, hwebsite]
    rcases hasScheme n with e | b
    · rfl
    · cases b <;> rfl

theorem resolved_of_joinChars (hw : w ≠ []) (h : joinChars w n = .ok u) : Resolved w n u := by
  rw [joinChars_eq hw] at h
  split at h
  · injection h with h
    exact h ▸ .website ‹_›
  · rename_i hn
    rcases hscheme : hasScheme n with e | b
    · rw [hscheme] at h
      cases h
    · have htold := hasScheme_eq_ok hscheme
      rw [hscheme] at h
      injection h with h
      cases b with
      | true => exact h ▸ .itself hn (htold.mp rfl)
      | false =>
        obtain ⟨⟨i, hi⟩, hlast⟩ := dropSlashesRight_eq.mp (rfl : dropSlashesRight w = _)
        obtain ⟨⟨k, hk⟩, hhead⟩ := dropSlashesLeft_eq.mp (rfl : dropSlashesLeft n = _)
        exact h ▸ .below hn (fun hs => Bool.noConfusion (htold.mpr hs)) hi hlast hk hhead

section Texts

variable {website url : String} {address : Option String} {e : Error}

theorem join_eq (website : String) (address : Option String) :
    join website address =
      (joinChars website.toList (address.getD "").toList).map String.ofList := by
  cases address <;> rfl

theorem join_eq_ok : join website address = .ok url ↔
    joinChars website.toList (address.getD "").toList = .ok url.toList := by
  rw [join_eq]
  rcases joinChars website.toList (address.getD "").toList with e | u
  · simp [Except.map]
  · simp only [Except.map, Except.ok.injEq]
    exact ⟨fun h => by rw [← h, String.toList_ofList], fun h => by rw [h, String.ofList_toList]⟩

theorem join_eq_error (hw : website.toList ≠ []) : join website address = .error e ↔
    (address.getD "").toList ≠ [] ∧ hasScheme (address.getD "").toList = .error e := by
  rw [join_eq, joinChars_eq hw]
  split
  · simp [Except.map, *]
  · rcases hasScheme (address.getD "").toList with e' | b
    · simp [Except.map, *]
    · simp [Except.map]

end Texts

/-- **Against a website with a scheme, an address is resolved once and for all.**  It is refused
exactly if its place is malformed, and more slashes at the end of the website make no difference
to an address that is not empty.  What it is resolved to stands for itself when it is resolved
again, unless its place is malformed then. -/
theorem join_again (website : String) (h : hasScheme website.toList = .ok true)
    (address : Option String) :
    let n := (address.getD "").toList
    (∀ e, join website address = .error e ↔ n ≠ [] ∧ hasScheme n = .error e) ∧
      (n ≠ [] → ∀ k, join (website ++ String.ofList (List.replicate k '/')) address =
        join website address) ∧
      ∀ url, join website address = .ok url →
        (∀ u, Resolved website.toList n u ↔ u = url.toList) ∧
        join website (some url) = (hasScheme url.toList).map fun _ => url := by
  intro n
  have hscheme : HasScheme website.toList := (hasScheme_eq_ok h).mp rfl
  have hw : website.toList ≠ [] := hscheme.ne_nil
  refine ⟨fun e => join_eq_error hw, fun hn k => ?_, fun url hurl => ?_⟩
  · have hlong : website.toList ++ List.replicate k '/' ≠ [] := by simp [hw]
    rw [join_eq, join_eq, String.toList_append, String.toList_ofList, joinChars_eq hlong,
      joinChars_eq hw, if_neg hn, if_neg hn, dropSlashesRight_append]
  have hresolved : Resolved website.toList n url.toList :=
    resolved_of_joinChars hw (join_eq_ok.mp hurl)
  have hurlscheme : HasScheme url.toList := hresolved.hasScheme hscheme
  refine ⟨fun u => ⟨fun hu => hu.unique hresolved, fun hu => hu ▸ hresolved⟩, ?_⟩
  rw [join_eq, Option.getD_some, joinChars_eq hw, if_neg hurlscheme.ne_nil]
  rcases htold : hasScheme url.toList with e | b
  · rfl
  · obtain rfl : b = true := (hasScheme_eq_ok htold).mpr hurlscheme
    simp [Except.map]

/-- A website that ends with a slash, and an address that begins with two. -/
theorem join_again_rooted :
    hasScheme "https://example.org/".toList = .ok true ∧
      join "https://example.org/" (some "//gw") = .ok "https://example.org/gw" ∧
      join "https://example.org/" (some "https://example.org/gw") = .ok "https://example.org/gw" ∧
      ∀ k, join ("https://example.org/" ++ String.ofList (List.replicate k '/')) (some "//gw") =
        join "https://example.org/" (some "//gw") := by
  have hscheme : hasScheme "https://example.org/".toList = .ok true := by rfl
  have hurl : join "https://example.org/" (some "//gw") = .ok "https://example.org/gw" := by rfl
  obtain ⟨-, hslashes, hall⟩ := join_again "https://example.org/" hscheme (some "//gw")
  exact ⟨hscheme, hurl, (hall _ hurl).2, hslashes (by decide)⟩

end TermRef.Url
