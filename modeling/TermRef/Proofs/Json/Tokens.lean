/-
TermRef/Proofs/Json/Tokens.lean

The tokens of JSON texts.

To every value belong tokens (`Json.tokens`): brackets, commas and scalars, and a name with its
colon stands for three.  A value that is read as it is meant is read as its tokens, between
whatever stands before it and the comma or bracket behind it (`Json.exists_reads`).  This is
proved by induction on the syntax, with one lemma on the lexer for each kind of token; the
brackets about items and members are the same (`exists_bracketed`).
-/
import TermRef.Proofs.Json.Quoted
import TermRef.Proofs.Text.Lines
import TermRef.Proofs.Yaml.Build
import TermRef.Proofs.Yaml.Flow

namespace TermRef.Json

open Yaml Lines

/-! ### Tokens -/

mutual

/-- The tokens of a value. -/
def tokens : Json → List Token
  | .null => [.scalar "null" true]
  | .bool b => [.scalar (if b then "true" else "false") true]
  | .number n => [.scalar (String.ofList n.text) true]
  | .string s => [.scalar s.value false]
  | .array _ items => .flowSequenceStart :: items.tokens true ++ [.flowSequenceEnd]
  | .object _ members => .flowMappingStart :: members.tokens true ++ [.flowMappingEnd]

/-- The tokens of items. -/
def Items.tokens (first : Bool) : Items → List Token
  | .nil => []
  | .cons _ v _ rest => Token.comma first ++ v.tokens ++ rest.tokens false

/-- The tokens of members. -/
def Members.tokens (first : Bool) : Members → List Token
  | .nil => []
  | .cons _ name _ _ v _ rest =>
    Token.comma first ++ [.key, .scalar name.value false, .value] ++ v.tokens ++ rest.tokens false

end

variable {l : Lexer} {d : Nat} {s t : List Char} {c : Char}

/-! ### White space -/

/-- White space is layout, once line ends are line feeds. -/
theorem Blank.Untabbed.before {b : Blank} (hb : b.Untabbed)
    (h : l.Before d (unifyEnds (b.chars ++ s))) : l.Before d (unifyEnds s) := by
  obtain ⟨w, hw, hrest⟩ := h.rest
  obtain ⟨w', hw', heq⟩ := exists_unifyEnds_blank hb.chars s
  refine ⟨h.depth, h.indents, h.keys, w ++ w', hw.append hw', ?_⟩
  rw [hrest, heq, List.append_assoc]

/-! ### Scalars -/

theorem isWord_null : IsWord "null".toList :=
  isWord_cons (by decide) (List.all_eq_true.mp (by decide))

theorem isWord_bool (b : Bool) : IsWord (if b then "true" else "false").toList := by
  cases b
  · exact isWord_cons (by decide) (List.all_eq_true.mp (by decide))
  · exact isWord_cons (by decide) (List.all_eq_true.mp (by decide))

theorem Numeral.isWord (n : Numeral) : IsWord n.text where
  chars := by
    have hword : ∀ c ∈ numeralChars, isWordChar c = true := List.all_eq_true.mp (by decide)
    exact fun c hc => hword c (n.mem_text hc)
  start := by
    have hdigit : ∀ d : Fin 10, d.val.digitChar ≠ '.' ∧ d.val.digitChar ≠ '\ufeff' ∧
        d.val.digitChar ≠ '-' := by decide
    obtain ⟨negative, whole, fraction, exponent, legal⟩ := n
    obtain ⟨hstop, hmark, hhyphen⟩ := hdigit whole.first
    cases negative
    · exact ⟨_, _, rfl, hstop, hmark, fun h => absurd h hhyphen⟩
    · exact ⟨'-', _, rfl, by decide, by decide, fun _ => ⟨_, _, rfl, hhyphen⟩⟩

/-- In brackets a word is read as a plain scalar. -/
theorem exists_reads_word {text : List Char} {after : Blank} (htext : IsWord text)
    (hafter : after.Untabbed) (hc : c ∈ [',', ']', '\x7d']) (hd : d ≠ 0)
    (h : l.Before d (unifyEnds (text ++ after.chars ++ c :: s))) :
    ∃ l', l.Reads [.scalar (String.ofList text) true] l' ∧ l'.Before d (unifyEnds (c :: s)) := by
  obtain ⟨w, hw, hlayout⟩ := exists_unifyEnds_blank hafter.chars (c :: s)
  have hcr : c ≠ '\r' := by
    rintro rfl
    revert hc
    decide
  have hreturn : '\r' ∉ text := fun hmem => absurd (htext.chars _ hmem) (by decide)
  rw [unifyEnds_cons hcr] at hlayout ⊢
  rw [List.append_assoc, unifyEnds_append hreturn, hlayout, ← List.append_assoc] at h
  exact Lexer.exists_word h hd htext hw hc

theorem Written.not_mem_return (s : Written) : '\r' ∉ s.text := by
  have hbody : '\r' ∉ s.body := fun hmem => absurd (le_of_mem_body hmem) (by decide)
  simp [text, hbody]

theorem Written.Readable.exists_reads {w : Written} (hw : w.Readable)
    (h : l.Before d (unifyEnds (w.text ++ s))) :
    ∃ l', l.Reads [.scalar w.value false] l' ∧ l'.Before d (unifyEnds s) := by
  rw [unifyEnds_append w.not_mem_return] at h
  have hquoted : l.Before d ('"' :: (w.body ++ ['"']) ++ unifyEnds s) := h
  have hlength : w.text.length = (w.body ++ ['"']).length + 1 := rfl
  exact Lexer.exists_quoted hquoted fun p hp => hlength ▸ hw.quotedScalar hp

/-- A name is read as a key, with its colon. -/
theorem Written.ReadableName.exists_reads {w : Written} {toColon : Blank}
    (hw : w.ReadableName toColon) (hd : d ≠ 0) (hallow : l.allowKey = true)
    (h : l.Before d (unifyEnds (w.text ++ toColon.chars ++ ':' :: s))) :
    ∃ l', l.Reads [.key, .scalar w.value false, .value] l' ∧ l'.Before d (unifyEnds s) := by
  have hreturn : '\r' ∉ toColon.chars := fun hmem => absurd (hw.inLine _ hmem) (by decide)
  rw [List.append_assoc, unifyEnds_append w.not_mem_return, unifyEnds_append hreturn,
    unifyEnds_cons (by decide)] at h
  have hlength : w.text.length = (w.body ++ ['"']).length + 1 := rfl
  have hline : ∀ c ∈ w.body ++ ['"'], isBreak c = false := by
    intro c hc
    rcases List.mem_append.mp hc with hc | hc
    · refine Bool.eq_false_iff.mpr fun hbreak => ?_
      have hgap : isGap c = true := by simp [isGap, isSpaceOrEnd, isBreakOrEnd, hbreak]
      rcases List.mem_cons.mp (Written.mem_of_isGap (le_of_mem_body hc) (hw.barred c hc) hgap) with
        rfl | hseparator
      · exact absurd hbreak (by decide)
      · exact hw.line c hc hseparator
    · obtain rfl := List.mem_singleton.mp hc
      decide
  have hquoted : l.Before d
      ('"' :: (w.body ++ ['"']) ++ (toColon.chars ++ ':' :: unifyEnds s)) := h
  exact Lexer.exists_name hquoted hd hallow
    (fun p hp => hlength ▸ hw.quotedScalar hp) hline hw.inLine (hlength ▸ hw.length)

/-! ### Brackets and commas -/

theorem exists_reads_comma {first : Bool} (hfirst : first = true → l.allowKey = true)
    (h : l.Before d (unifyEnds (comma first ++ s))) :
    ∃ l', l.Reads (Token.comma first) l' ∧ l'.Before d (unifyEnds s) ∧ l'.allowKey = true := by
  cases first with
  | true => exact ⟨l, Lexer.Reads.refl l, h, hfirst rfl⟩
  | false =>
    have hcomma : unifyEnds (comma false ++ s) = ',' :: unifyEnds s := unifyEnds_cons (by decide) s
    exact Lexer.exists_comma (hcomma ▸ h)

/-- **What stands in brackets is read between the brackets.** -/
theorem exists_bracketed {opening closing : Char} {t t' : Token} {text : List Char}
    {ts : List Token} {inside : Blank}
    (hopening : (opening, t) ∈ [('[', .flowSequenceStart), ('\x7b', .flowMappingStart)])
    (hclosing : (closing, t') ∈ [(']', .flowSequenceEnd), ('\x7d', .flowMappingEnd)])
    (hinside : inside.Untabbed)
    (h : l.Before d (unifyEnds (opening :: inside.chars ++ text ++ [closing] ++ s)))
    (hread : ∀ {l : Lexer}, l.Before (d + 1) (unifyEnds (text ++ closing :: s)) →
      l.allowKey = true →
        ∃ l', l.Reads ts l' ∧ l'.Before (d + 1) (unifyEnds (closing :: s))) :
    ∃ l', l.Reads (t :: ts ++ [t']) l' ∧ l'.Before d (unifyEnds s) := by
  have hreturn : opening ≠ '\r' ∧ closing ≠ '\r' := by
    constructor <;> rintro rfl
    · simp at hopening
    · simp at hclosing
  have hsplit : unifyEnds (opening :: inside.chars ++ text ++ [closing] ++ s) =
      opening :: unifyEnds (inside.chars ++ (text ++ closing :: s)) := by
    rw [← unifyEnds_cons hreturn.1]
    simp
  obtain ⟨l₁, hread₁, hbefore₁, hallow⟩ := Lexer.exists_open (hsplit ▸ h) hopening
  obtain ⟨l₂, hread₂, hbefore₂⟩ := hread (hinside.before hbefore₁) hallow
  rw [unifyEnds_cons hreturn.2] at hbefore₂
  obtain ⟨l₃, hread₃, hbefore₃⟩ := Lexer.exists_close hbefore₂ hclosing
  exact ⟨l₃, (hread₁.trans hread₂).trans hread₃, hbefore₃⟩

/-- Behind an item there is a comma or the closing bracket. -/
theorem Items.exists_cons (items : Items) (s : List Char) :
    ∃ c t, items.text false ++ ']' :: s = c :: t ∧ c ∈ [',', ']', '\x7d'] := by
  cases items with
  | nil => exact ⟨']', s, rfl, by decide⟩
  | cons before v after rest =>
    refine ⟨',', before.chars ++ v.text ++ after.chars ++ rest.text false ++ ']' :: s, ?_,
      by decide⟩
    simp [text, comma]

theorem Members.exists_cons (members : Members) (s : List Char) :
    ∃ c t, members.text false ++ '\x7d' :: s = c :: t ∧ c ∈ [',', ']', '\x7d'] := by
  cases members with
  | nil => exact ⟨'\x7d', s, rfl, by decide⟩
  | cons before name toColon toValue v after rest =>
    refine ⟨',', before.chars ++ name.text ++ toColon.chars ++ ':' :: toValue.chars ++ v.text ++
      after.chars ++ rest.text false ++ '\x7d' :: s, ?_, by decide⟩
    simp [text, comma]

/-! ### Values -/

mutual

/-- **In brackets a value is read as its tokens**, up to the comma or bracket behind it. -/
theorem exists_reads : ∀ (j : Json) {l : Lexer} {d : Nat} {after : Blank} {c : Char}
    {s : List Char}, j.Readable → after.Untabbed → c ∈ [',', ']', '\x7d'] → d ≠ 0 →
      l.Before d (unifyEnds (j.text ++ after.chars ++ c :: s)) →
        ∃ l', l.Reads j.tokens l' ∧ l'.Before d (unifyEnds (c :: s))
  | .null, l, d, after, c, s, _, hafter, hc, hd, h => exists_reads_word isWord_null hafter hc hd h
  | .bool b, l, d, after, c, s, _, hafter, hc, hd, h => by
    have hread := exists_reads_word (isWord_bool b) hafter hc hd h
    rwa [String.ofList_toList] at hread
  | .number n, l, d, after, c, s, _, hafter, hc, hd, h => exists_reads_word n.isWord hafter hc hd h
  | .string w, l, d, after, c, s, hj, hafter, _, _, h => by
    rw [Readable] at hj
    rw [text, List.append_assoc] at h
    obtain ⟨l', hread, hbefore⟩ := hj.exists_reads h
    exact ⟨l', hread, hafter.before hbefore⟩
  | .array inside items, l, d, after, c, s, hj, hafter, _, _, h => by
    rw [Readable] at hj
    rw [text, List.append_assoc] at h
    obtain ⟨l', hread, hbefore⟩ := exists_bracketed List.mem_cons_self List.mem_cons_self hj.1 h
      fun h hallow => Items.exists_reads items true hj.2 (Nat.succ_ne_zero d) (fun _ => hallow) h
    exact ⟨l', hread, hafter.before hbefore⟩
  | .object inside members, l, d, after, c, s, hj, hafter, _, _, h => by
    rw [Readable] at hj
    rw [text, List.append_assoc] at h
    obtain ⟨l', hread, hbefore⟩ := exists_bracketed (List.mem_cons_of_mem _ List.mem_cons_self)
      (List.mem_cons_of_mem _ List.mem_cons_self) hj.1 h fun h hallow =>
        Members.exists_reads members true hj.2 (Nat.succ_ne_zero d) (fun _ => hallow) h
    exact ⟨l', hread, hafter.before hbefore⟩

/-- Items are read up to the closing bracket. -/
theorem Items.exists_reads : ∀ (items : Items) (first : Bool) {l : Lexer} {d : Nat} {s : List Char},
    items.Readable → d ≠ 0 → (first = true → l.allowKey = true) →
      l.Before d (unifyEnds (items.text first ++ ']' :: s)) →
        ∃ l', l.Reads (items.tokens first) l' ∧ l'.Before d (unifyEnds (']' :: s))
  | .nil, first, l, d, s, _, _, _, h => ⟨l, Lexer.Reads.refl l, h⟩
  | .cons before v after rest, first, l, d, s, hitems, hd, hfirst, h => by
    rw [Items.Readable] at hitems
    obtain ⟨hbefore, hv, hafter, hrest⟩ := hitems
    obtain ⟨c, t, hcons, hc⟩ := rest.exists_cons s
    have hsplit : Items.text first (.cons before v after rest) ++ ']' :: s =
        comma first ++ (before.chars ++ (v.text ++ after.chars ++ c :: t)) := by
      rw [← hcons]
      simp [Items.text]
    obtain ⟨l₁, hread₁, h₁, -⟩ := exists_reads_comma hfirst (hsplit ▸ h)
    obtain ⟨l₂, hread₂, h₂⟩ := exists_reads v hv hafter hc hd (hbefore.before h₁)
    rw [← hcons] at h₂
    obtain ⟨l₃, hread₃, h₃⟩ := Items.exists_reads rest false hrest hd nofun h₂
    exact ⟨l₃, (hread₁.trans hread₂).trans hread₃, h₃⟩

/-- Members are read up to the closing bracket. -/
theorem Members.exists_reads : ∀ (members : Members) (first : Bool) {l : Lexer} {d : Nat}
    {s : List Char}, members.Readable → d ≠ 0 → (first = true → l.allowKey = true) →
      l.Before d (unifyEnds (members.text first ++ '\x7d' :: s)) →
        ∃ l', l.Reads (members.tokens first) l' ∧ l'.Before d (unifyEnds ('\x7d' :: s))
  | .nil, first, l, d, s, _, _, _, h => ⟨l, Lexer.Reads.refl l, h⟩
  | .cons before name toColon toValue v after rest, first, l, d, s, hmembers, hd, hfirst, h => by
    rw [Members.Readable] at hmembers
    obtain ⟨hbefore, hname, htoValue, hv, hafter, hrest⟩ := hmembers
    obtain ⟨c, t, hcons, hc⟩ := rest.exists_cons s
    have hsplit : Members.text first (.cons before name toColon toValue v after rest) ++
        '\x7d' :: s = comma first ++ (before.chars ++ (name.text ++ toColon.chars ++
          ':' :: (toValue.chars ++ (v.text ++ after.chars ++ c :: t)))) := by
      rw [← hcons]
      simp [Members.text]
    obtain ⟨l₁, hread₁, h₁, hallow⟩ := exists_reads_comma hfirst (hsplit ▸ h)
    obtain ⟨l₂, hread₂, h₂⟩ := hname.exists_reads hd hallow (hbefore.before h₁)
    obtain ⟨l₃, hread₃, h₃⟩ := exists_reads v hv hafter hc hd (htoValue.before h₂)
    rw [← hcons] at h₃
    obtain ⟨l₄, hread₄, h₄⟩ := Members.exists_reads rest false hrest hd nofun h₃
    exact ⟨l₄, ((hread₁.trans hread₂).trans hread₃).trans hread₄, h₄⟩

end

/-! ### Documents -/

/-- The tokens of a document. -/
def Document.tokens (d : Document) : List Token :=
  (Json.object d.inside d.members).tokens ++ [.streamEnd]

/-- **A document that is read as it is meant is read as its tokens.** -/
theorem Document.Readable.ofText {d : Document} (h : d.Readable) :
    Token.ofText (unifyEnds d.text) = .ok d.tokens := by
  have hallowed : (unifyEnds d.text).all isAllowed = true := by
    refine List.all_eq_true.mpr fun c hc => ?_
    rcases mem_unifyEnds hc with hc | rfl
    · exact List.all_eq_true.mp h.all_isAllowed c hc
    · decide
  let start : Lexer := { place := { rest := unifyEnds d.text } }
  have hstart : start.Before 0 (unifyEnds d.text) := ⟨rfl, rfl, nofun, [], isLayout_nil, rfl⟩
  have hobject : start.Before 0
      (unifyEnds ((Json.object d.inside d.members).text ++ d.after.chars ++ [])) := by
    refine h.before.before ?_
    simpa [Document.text] using hstart
  rw [Json.text, List.append_assoc] at hobject
  obtain ⟨l, hread, hbefore⟩ := exists_bracketed (List.mem_cons_of_mem _ List.mem_cons_self)
    (List.mem_cons_of_mem _ List.mem_cons_self) h.inside hobject fun hmembers hallow =>
      d.members.exists_reads true h.members Nat.one_ne_zero (fun _ => hallow) hmembers
  have hend : l.Before 0 [] := h.after.before hbefore
  obtain ⟨n, hn, hrun⟩ := hread.rounds
  obtain ⟨fuel, hfuel⟩ : ∃ fuel, (unifyEnds d.text).length + 2 = n + (fuel + 1) :=
    ⟨(unifyEnds d.text).length + 1 - n, by
      have hlength : n ≤ (unifyEnds d.text).length := Nat.le_trans (Nat.le_add_right _ _) hn
      omega⟩
  rw [Token.ofText, if_pos hallowed, hfuel, hrun, Lexer.run_of_end hend, hread.tokens]
  simp [start, tokens, Json.tokens]

end TermRef.Json
