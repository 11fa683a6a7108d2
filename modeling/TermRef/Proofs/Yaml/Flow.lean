/-
TermRef/Proofs/Yaml/Flow.lean

Tokens in brackets.

As long as no block is open, the lexer stands at some depth of brackets before some text, and no
key that it has noted has to end (`Lexer.Before`).  From one such state to another it reads a
token in one round (`Lexer.Reads`), be it a bracket, a comma or a scalar, and a name with its
colon in two (`Lexer.exists_name`).  The name is a key because its colon stands on the same line
and at most 1024 characters on.
-/
import TermRef.Proofs.Yaml.Round
import TermRef.Proofs.Yaml.Word

namespace TermRef.Yaml.Lexer

/-- The lexer stands at a depth of brackets, with only layout between it and the text `t`.  No
block is open, and no key has to end. -/
structure Before (l : Lexer) (depth : Nat) (t : List Char) : Prop where
  depth : l.depth = depth
  indents : l.indents = []
  keys : ∀ k ∈ l.keys, k.2.required = false
  rest : ∃ w, IsLayout w ∧ l.place.rest = w ++ t

/-- The lexer reads the tokens `ts` from `l` up to `l'`, in no more rounds than characters. -/
structure Reads (l : Lexer) (ts : List Token) (l' : Lexer) : Prop where
  rounds : ∃ n, n + l'.place.rest.length ≤ l.place.rest.length ∧
    ∀ fuel, run (n + fuel) l = run fuel l'
  tokens : l'.tokens = ts.reverse ++ l.tokens
  count : l'.count = l.count + ts.length

/-- Before its token a round leads from `l` to `m`, where the text `t` begins. -/
structure Arrives (l m : Lexer) (t : List Char) : Prop where
  ready : Ready l m
  before : m.Before l.depth t
  rest : m.place.rest = t
  length : t.length ≤ l.place.rest.length
  tokens : m.tokens = l.tokens
  count : m.count = l.count
  allowKey : l.allowKey = true → m.allowKey = true

variable {l l' l'' m r : Lexer} {d : Nat} {s t w text : List Char} {c : Char} {tok : Token}
  {ts us : List Token}

/-! ### Rounds -/

theorem Reads.refl (l : Lexer) : Reads l [] l where
  rounds := ⟨0, by omega, fun fuel => by rw [Nat.zero_add]⟩
  tokens := rfl
  count := rfl

theorem Reads.trans (h : Reads l ts l') (h' : Reads l' us l'') : Reads l (ts ++ us) l'' where
  rounds := by
    obtain ⟨n, hn, hrun⟩ := h.rounds
    obtain ⟨n', hn', hrun'⟩ := h'.rounds
    exact ⟨n + n', by omega, fun fuel => by rw [Nat.add_assoc, hrun, hrun']⟩
  tokens := by rw [h'.tokens, h.tokens, List.reverse_append, List.append_assoc]
  count := by rw [h'.count, h.count, List.length_append, Nat.add_assoc]

theorem Before.indent_le (h : l.Before d t) (n : Nat) : l.indent ≤ n := by
  rw [indent, h.indents, List.headD_nil]
  omega

theorem Before.exists_arrives (h : l.Before d (c :: t)) (hc : isSkipped c = false) :
    ∃ m, Arrives l m (c :: t) := by
  obtain ⟨w, hw, hrest⟩ := h.rest
  have hhead : ∀ x ∈ (c :: t).head?, isSkipped x = false := fun x hx => Option.some.inj hx ▸ hc
  have hbehind : (l.behind w).place.rest = c :: t := Place.rest_skip_append hrest
  refine ⟨l.behind w, ready_behind hw hhead hrest h.keys (h.indent_le _), ⟨rfl, h.indents, ?_, ?_⟩,
    hbehind, ?_, rfl, rfl, ?_⟩
  · exact fun k hk => h.keys k (List.mem_of_mem_filter hk)
  · exact ⟨[], isLayout_nil, hbehind⟩
  · rw [hrest, List.length_append]
    omega
  · intro hallow
    simp [behind, hallow]

/-- A round reads its token, and leads to the text behind it. -/
theorem Arrives.reads (h : Arrives l m (c :: t)) {p : Place} {allowKey : Bool} {depth : Nat}
    {keys : List (Nat × KeyStart)}
    (htoken : m.token = .ok { m.push tok with place := p, allowKey, depth, keys })
    (htok : tok ≠ .streamEnd) (hkeys : ∀ k ∈ keys, k.2.required = false) (hdepth : depth = d)
    (hp : p.rest = s) (hs : s <:+ t) :
    Reads l [tok] { m.push tok with place := p, allowKey, depth, keys } ∧
      Before { m.push tok with place := p, allowKey, depth, keys } d s := by
  refine ⟨⟨⟨1, ?_, fun fuel => ?_⟩, ?_, ?_⟩, hdepth, h.before.indents, hkeys, [], isLayout_nil, hp⟩
  · have hlength := h.length
    have hshort := hs.length_le
    rw [List.length_cons] at hlength
    show 1 + p.rest.length ≤ _
    rw [hp]
    omega
  · rw [Nat.add_comm]
    exact run_of_ready h.ready htoken (by simpa [push] using htok) fuel
  · simp [push, h.tokens]
  · simp [push, h.count]

/-! ### Keys -/

/-- A key that need not be one is given up without fault. -/
theorem exists_removeKey (h : ∀ k ∈ l.keys, k.2.required = false) :
    ∃ keys, l.removeKey = .ok { l with keys } ∧ ∀ k ∈ keys, k.2.required = false := by
  rw [removeKey]
  split
  · rename_i k hk
    obtain ⟨x, hx, rfl⟩ := Option.map_eq_some_iff.mp hk
    rw [h x (List.mem_of_find?_eq_some hx), if_neg (by simp)]
    exact ⟨_, rfl, fun k hk => h k (List.mem_of_mem_filter hk)⟩
  · exact ⟨l.keys, rfl, h⟩

/-- Outside of blocks a key that is noted need not be one. -/
theorem exists_saveKey (h : l.Before d t) :
    ∃ keys, l.saveKey = .ok { l with keys } ∧ (∀ k ∈ keys, k.2.required = false) ∧
      (l.allowKey = true → ∃ more, keys = (l.depth, ⟨l.count, false, l.place.index, l.place.line,
        l.place.column⟩) :: more) := by
  rw [saveKey]
  split
  · rename_i hallow
    obtain ⟨more, hremove, hmore⟩ := exists_removeKey h.keys
    have hrequired : (l.depth == 0 && l.indent == (l.place.column : Int)) = false := by
      have hindent : l.indent ≠ l.place.column := by
        rw [indent, h.indents, List.headD_nil]
        omega
      simp [hindent]
    simp only [hremove, hrequired, bind, Except.bind, pure, Except.pure]
    exact ⟨_, rfl, List.forall_mem_cons.mpr ⟨rfl, hmore⟩, fun _ => ⟨more, rfl⟩⟩
  · rename_i hallow
    exact ⟨l.keys, rfl, h.keys, fun hyes => absurd hyes hallow⟩

/-! ### Tokens of one character -/

/-- An opening bracket leads deeper. -/
theorem exists_open (h : l.Before d (c :: t))
    (hc : (c, tok) ∈ [('[', .flowSequenceStart), ('\x7b', .flowMappingStart)]) :
    ∃ l', Reads l [tok] l' ∧ l'.Before (d + 1) t ∧ l'.allowKey = true := by
  have hskipped : ∀ x ∈ [('[', Token.flowSequenceStart), ('\x7b', .flowMappingStart)],
      isSkipped x.1 = false ∧ x.2 ≠ .streamEnd := by decide
  obtain ⟨m, harrive⟩ := h.exists_arrives (hskipped _ hc).1
  obtain ⟨keys, hsave, hkeys, -⟩ := exists_saveKey harrive.before
  have hstep : m.place.step.rest = t := by rw [Place.rest_step, harrive.rest]; rfl
  have hopen : m.token = m.openBracket tok := by
    have hhead := Place.head_eq harrive.rest
    simp only [List.mem_cons, Prod.mk.injEq, List.not_mem_nil, or_false] at hc
    rcases hc with ⟨rfl, rfl⟩ | ⟨rfl, rfl⟩ <;>
      simp [token, hhead, harrive.rest, Place.isMarker]
  have htoken : m.token = .ok { m.push tok with
      place := m.place.step, allowKey := true, depth := m.depth + 1, keys } := by
    rw [hopen, openBracket, hsave]
    rfl
  have hdepth : m.depth + 1 = d + 1 := by rw [harrive.before.depth, h.depth]
  obtain ⟨hread, hbefore⟩ :=
    harrive.reads htoken (hskipped _ hc).2 hkeys hdepth hstep (List.suffix_refl _)
  exact ⟨_, hread, hbefore, rfl⟩

/-- A closing bracket leads back. -/
theorem exists_close (h : l.Before (d + 1) (c :: t))
    (hc : (c, tok) ∈ [(']', .flowSequenceEnd), ('\x7d', .flowMappingEnd)]) :
    ∃ l', Reads l [tok] l' ∧ l'.Before d t := by
  have hskipped : ∀ x ∈ [(']', Token.flowSequenceEnd), ('\x7d', .flowMappingEnd)],
      isSkipped x.1 = false ∧ x.2 ≠ .streamEnd := by decide
  obtain ⟨m, harrive⟩ := h.exists_arrives (hskipped _ hc).1
  obtain ⟨keys, hremove, hkeys⟩ := exists_removeKey harrive.before.keys
  have hstep : m.place.step.rest = t := by rw [Place.rest_step, harrive.rest]; rfl
  have hdepth : m.depth = d + 1 := harrive.before.depth.trans h.depth
  have hback : m.depth - 1 = d := by omega
  have hclose : m.token = m.closeBracket tok := by
    have hhead := Place.head_eq harrive.rest
    simp only [List.mem_cons, Prod.mk.injEq, List.not_mem_nil, or_false] at hc
    rcases hc with ⟨rfl, rfl⟩ | ⟨rfl, rfl⟩ <;>
      simp [token, hhead, harrive.rest, Place.isMarker]
  have htoken : m.token = .ok { m.push tok with
      place := m.place.step, allowKey := false, depth := m.depth - 1, keys } := by
    rw [hclose, closeBracket, if_neg (by omega)]
    simp only [bind, Except.bind, pure, Except.pure, hremove]
    rfl
  obtain ⟨hread, hbefore⟩ :=
    harrive.reads htoken (hskipped _ hc).2 hkeys hback hstep (List.suffix_refl _)
  exact ⟨_, hread, hbefore⟩

/-- Behind a comma a key may begin. -/
theorem exists_comma (h : l.Before d (',' :: t)) :
    ∃ l', Reads l [.flowEntry] l' ∧ l'.Before d t ∧ l'.allowKey = true := by
  obtain ⟨m, harrive⟩ := h.exists_arrives (by decide)
  obtain ⟨keys, hremove, hkeys⟩ := exists_removeKey harrive.before.keys
  have hstep : m.place.step.rest = t := by rw [Place.rest_step, harrive.rest]; rfl
  have htoken : m.token = .ok { m.push .flowEntry with
      place := m.place.step, allowKey := true, depth := m.depth, keys } := by
    have hcomma : m.token = m.comma := by
      simp [token, Place.head_eq harrive.rest, harrive.rest, Place.isMarker]
    rw [hcomma, comma, hremove]
    rfl
  have hdepth : m.depth = d := harrive.before.depth.trans h.depth
  obtain ⟨hread, hbefore⟩ :=
    harrive.reads htoken (by decide) hkeys hdepth hstep (List.suffix_refl _)
  exact ⟨_, hread, hbefore, rfl⟩

/-! ### Scalars -/

/-- In brackets a word is read up to the comma or the bracket behind it. -/
theorem exists_word (h : l.Before d (text ++ w ++ c :: t)) (hdepth : d ≠ 0) (htext : IsWord text)
    (hw : IsLayout w) (hc : c ∈ [',', ']', '\x7d']) :
    ∃ l', Reads l [.scalar (String.ofList text) true] l' ∧ l'.Before d (c :: t) := by
  obtain ⟨x, r, hcons, hskipped⟩ := htext.exists_cons
  have hne : text ≠ [] := by simp [hcons]
  have hsplit : text ++ w ++ c :: t = x :: (r ++ w ++ c :: t) := by simp [hcons]
  obtain ⟨m, harrive⟩ := (hsplit ▸ h).exists_arrives hskipped
  have hrest : m.place.rest = text ++ (w ++ c :: t) := by
    rw [harrive.rest, ← hsplit, List.append_assoc]
  have hbehind : (m.place.skip text.length).rest = w ++ c :: t := Place.rest_skip_append hrest
  have hend : ((m.place.skip text.length).skip w.length).rest = c :: t :=
    Place.rest_skip_append hbehind
  obtain ⟨keys, hsave, hkeys, -⟩ := exists_saveKey harrive.before
  obtain ⟨broken, hends⟩ := exists_ends (m.indent + 1) hw hc hbehind
  have hsame : m.depth = d := harrive.before.depth.trans h.depth
  have hflow : (m.depth != 0) = true := by simpa [hsame] using hdepth
  have htoken : m.token = .ok { m.push (.scalar (String.ofList text) true) with
      place := (m.place.skip text.length).skip w.length, allowKey := broken, depth := m.depth,
      keys } := by
    rw [token_of_word htext.chars hne htext.ne_hyphen hrest
        fun _ => htext.isAnyMarker_eq_false hrest,
      plain_of_word htext.chars hne hrest hsave (by rwa [hflow])]
    rfl
  obtain ⟨hread, hbefore⟩ :=
    harrive.reads htoken (by simp) hkeys hsame hend (List.suffix_append _ _)
  exact ⟨_, hread, hbefore⟩

/-- A scalar in double quotes is read up to its closing quote.  A key that may begin with it is
noted. -/
theorem exists_token_quoted {cs : List Char} (h : m.Before d s)
    (hrest : m.place.rest = '"' :: text ++ t)
    (hscalar : quotedScalar true m.place = .ok (cs, m.place.skip (text.length + 1))) :
    ∃ keys, m.token = .ok { m.push (.scalar (String.ofList cs) false) with
        place := m.place.skip (text.length + 1), allowKey := false, depth := m.depth, keys } ∧
      (∀ k ∈ keys, k.2.required = false) ∧
      (m.allowKey = true → ∃ more, keys = (m.depth, ⟨m.count, false, m.place.index, m.place.line,
        m.place.column⟩) :: more) := by
  obtain ⟨keys, hsave, hkeys, hnoted⟩ := exists_saveKey h
  refine ⟨keys, ?_, hkeys, hnoted⟩
  have hquoted : m.token = m.quoted true := by
    have hcons : m.place.rest = '"' :: (text ++ t) := hrest
    simp [token, Place.head_eq hcons, hcons, Place.isMarker]
  rw [hquoted, quoted, keyed, hsave]
  simp only [bind, Except.bind, pure, Except.pure, hscalar]
  rfl

theorem exists_quoted {cs : List Char} (h : l.Before d ('"' :: text ++ t))
    (hscalar : ∀ p : Place, p.rest = '"' :: text ++ t →
      quotedScalar true p = .ok (cs, p.skip (text.length + 1))) :
    ∃ l', Reads l [.scalar (String.ofList cs) false] l' ∧ l'.Before d t := by
  obtain ⟨m, harrive⟩ := h.exists_arrives (by decide)
  have hrest : m.place.rest = '"' :: text ++ t := harrive.rest
  obtain ⟨keys, htoken, hkeys, -⟩ := exists_token_quoted harrive.before hrest (hscalar _ hrest)
  have hend : (m.place.skip (text.length + 1)).rest = t :=
    Place.rest_skip_append (w := '"' :: text) hrest
  obtain ⟨hread, hbefore⟩ := harrive.reads htoken (by simp) hkeys
    (harrive.before.depth.trans h.depth) hend (List.suffix_append _ _)
  exact ⟨_, hread, hbefore⟩

/-! ### Names -/

/-- A colon in brackets makes a key of what has been noted. -/
theorem token_colon {k : KeyStart} (hkey : m.keyHere? = some k) (hdepth : m.depth ≠ 0)
    (hrest : m.place.rest = ':' :: t) :
    m.token = .ok ((m.dropKey.insert k.tokens .key).mark .value false) := by
  have hcolon : m.token = m.colon := by
    simp [token, Place.head_eq hrest, hrest, Place.isMarker, hdepth]
  have hsame : (m.dropKey.insert k.tokens .key).depth ≠ 0 := hdepth
  rw [hcolon, colon, hkey]
  simp only [if_neg hsame]
  rfl

/-- A key that has been noted can still end on its line, if the text between is not too long. -/
theorem isStale_skip {k : KeyStart} {n : Nat} (hindex : k.index = m.place.index)
    (hline : k.line = m.place.line) (hrest : m.place.rest = w ++ t) (hn : w.length = n)
    (hw : ∀ c ∈ w, isBreak c = false) (hlength : n ≤ 1024) :
    (m.moveTo (m.place.skip n)).isStale k = false := by
  subst hn
  have hsame : (m.place.skip w.length).line = m.place.line :=
    Place.line_skip (by rwa [hrest, List.take_left])
  have hplace : (m.place.skip w.length).index = m.place.index + w.length :=
    Place.index_skip (by rw [hrest, List.length_append]; omega)
  simp [isStale, moveTo, hsame, hplace, hindex, hline, hlength]

/-- The key that has been noted last is kept behind layout. -/
theorem keyHere?_behind {k : KeyStart} {more : List (Nat × KeyStart)}
    (hkeys : l.keys = (l.depth, k) :: more)
    (hfresh : (l.moveTo (l.place.skip w.length)).isStale k = false) :
    (l.behind w).keyHere? = some k := by
  simp [keyHere?, behind, hkeys, hfresh]

/-- The colon behind a scalar makes a key of it: the token of the key comes before the scalar. -/
theorem exists_colon {k : KeyStart} {more : List (Nat × KeyStart)} (h : l.Before d s)
    (hdepth : d ≠ 0) (htokens : l.tokens = tok :: ts) (hcount : l.count = k.tokens + 1)
    (hkeys : l.keys = (l.depth, k) :: more)
    (hfresh : (l.moveTo (l.place.skip w.length)).isStale k = false) (hw : IsLayout w)
    (hrest : l.place.rest = w ++ ':' :: t) :
    ∃ l', (∀ fuel, run (fuel + 1) l = run fuel l') ∧ l'.tokens = .value :: tok :: .key :: ts ∧
      l'.count = l.count + 2 ∧ l'.place.rest = t ∧ l'.Before d t := by
  have hcolon : ∀ c ∈ (':' :: t).head?, isSkipped c = false := by simp [isSkipped, isBreak]
  have hready : Ready l (l.behind w) := ready_behind hw hcolon hrest h.keys (h.indent_le _)
  have hbehind : (l.behind w).place.rest = ':' :: t := Place.rest_skip_append hrest
  have hinside : (l.behind w).depth ≠ 0 := h.depth ▸ hdepth
  have htoken := token_colon (keyHere?_behind hkeys hfresh) hinside hbehind
  have hlater : (l.behind w).count - k.tokens = 1 := by
    show l.count - k.tokens = 1
    omega
  have hstep : (l.behind w).place.step.rest = t := by rw [Place.rest_step, hbehind]; rfl
  refine ⟨_, run_of_ready hready htoken (by simp [mark, push]), ?_, rfl, hstep, h.depth, h.indents,
    ?_, [], isLayout_nil, hstep⟩
  · show Token.value :: ((l.behind w).dropKey.insert k.tokens .key).tokens = _
    have hsame : (l.behind w).dropKey.count - k.tokens = 1 := hlater
    have htokens' : (l.behind w).dropKey.tokens = tok :: ts := htokens
    rw [insert, hsame, htokens']
    rfl
  · intro x hx
    exact h.keys x (List.mem_of_mem_filter (List.mem_of_mem_filter hx))

/-- **A name with its colon is read as a key**, if the colon stands on its line and not too far
on. -/
theorem exists_name {cs : List Char} (h : l.Before d ('"' :: text ++ (w ++ ':' :: t)))
    (hdepth : d ≠ 0) (hallow : l.allowKey = true)
    (hscalar : ∀ p : Place, p.rest = '"' :: text ++ (w ++ ':' :: t) →
      quotedScalar true p = .ok (cs, p.skip (text.length + 1)))
    (hline : ∀ c ∈ text, isBreak c = false) (hw : ∀ c ∈ w, c = ' ')
    (hlength : text.length + 1 + w.length ≤ 1024) :
    ∃ l', Reads l [.key, .scalar (String.ofList cs) false, .value] l' ∧ l'.Before d t := by
  obtain ⟨m, harrive⟩ := h.exists_arrives (by decide)
  have hrest : m.place.rest = '"' :: text ++ (w ++ ':' :: t) := harrive.rest
  have hsame : m.depth = d := harrive.before.depth.trans h.depth
  obtain ⟨keys, htoken, hkeys, hnoted⟩ :=
    exists_token_quoted harrive.before hrest (hscalar _ hrest)
  obtain ⟨more, rfl⟩ := hnoted (harrive.allowKey hallow)
  have hend : (m.place.skip (text.length + 1)).rest = w ++ ':' :: t :=
    Place.rest_skip_append (w := '"' :: text) hrest
  obtain ⟨hread, hbefore⟩ := harrive.reads htoken (by simp) hkeys hsame hend
    (List.suffix_append _ _)
  -- between the name and the colon nothing ends the line
  have hfresh : (m.moveTo (m.place.skip (text.length + 1 + w.length))).isStale
      ⟨m.count, false, m.place.index, m.place.line, m.place.column⟩ = false := by
    refine isStale_skip (w := '"' :: text ++ w) (t := ':' :: t) rfl rfl ?_ ?_ ?_ hlength
    · rw [hrest, List.append_assoc]
    · simp only [List.length_append, List.length_cons]
    · have hbreak : isBreak '"' = false ∧ isBreak ' ' = false := by decide
      simp only [List.cons_append, List.forall_mem_cons, List.forall_mem_append]
      exact ⟨hbreak.1, hline, fun c hc => hw c hc ▸ hbreak.2⟩
  rw [← Place.skip_skip] at hfresh
  obtain ⟨l', hrun, htokens, hcount, hplace, hbefore'⟩ :=
    exists_colon hbefore hdepth rfl (by simp [push]) rfl hfresh (fun c hc => .inl (hw c hc)) hend
  refine ⟨l', ⟨?_, ?_, ?_⟩, hbefore'⟩
  · obtain ⟨n, hn, hrounds⟩ := hread.rounds
    refine ⟨n + 1, ?_, fun fuel => ?_⟩
    · simp only [hend, List.length_append, List.length_cons] at hn
      rw [hplace]
      omega
    · rw [Nat.add_assoc, hrounds, Nat.add_comm 1, hrun]
  · rw [htokens, harrive.tokens]
    rfl
  · rw [hcount, hread.count]
    rfl

/-! ### The end -/

/-- At the end of the text the tokens that have been read are given back. -/
theorem run_of_end (h : l.Before d []) (fuel : Nat) :
    run (fuel + 1) l = .ok (l.tokens.reverse ++ [.streamEnd]) := by
  obtain ⟨w, hw, hrest⟩ := h.rest
  have hready : Ready l (l.behind w) := ready_behind hw (by simp) hrest h.keys (h.indent_le _)
  have hbehind : (l.behind w).place.rest = [] := Place.rest_skip_append hrest
  have hunwind : (l.behind w).unwind (-1) = l.behind w := by
    refine unwind_eq_self (Int.le_of_eq ?_)
    show l.indent = -1
    rw [indent, h.indents, List.headD_nil]
  obtain ⟨keys, hremove, -⟩ := exists_removeKey (l := l.behind w)
    fun k hk => h.keys k (List.mem_of_mem_filter hk)
  have htoken : ((l.behind w).unwind (l.behind w).place.column).token =
      .ok { (l.behind w).push .streamEnd with allowKey := false, keys := [] } := by
    rw [hready.unwind, token]
    simp only [hbehind, List.isEmpty_nil, if_true, finish, hunwind, hremove, bind, Except.bind,
      pure, Except.pure]
    rfl
  have htokens : (l.behind w).tokens = l.tokens := rfl
  simp [run, hready.skip, htoken, push, htokens, bind, Except.bind, pure, Except.pure]

end TermRef.Yaml.Lexer
