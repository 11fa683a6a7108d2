/-
TermRef/Proofs/Yaml/Line.lean

A document of one line: a key, and behind a colon a version without quotes.

The lexer takes four rounds for it.  It reads the word at the start (`Lexer.run_start`), learns
from the colon that it is a key and that a mapping has begun (`Lexer.run_colon`), reads the version
(`Lexer.run_value`), and ends the mapping with the text (`Lexer.run_end`).  A key may be any bare
version that is not too long.  The value of the document is the mapping of the one text to the
other (`read_line`).
-/
import TermRef.Proofs.Yaml.Bare
import TermRef.Proofs.Yaml.Fields
import TermRef.Proofs.Yaml.Round

namespace TermRef.Yaml

variable {key t : String} {v w tail : List Char}

/-- No document is marked where a key begins. -/
theorem isAnyMarker_of_isVersion (hv : ∀ c ∈ v, isVersion c = true) (s : List Char) :
    Place.isAnyMarker { rest := v ++ ':' :: s } = false := by
  have hcolon : isGap ':' = false := by decide
  rcases v with - | ⟨a, - | ⟨b, - | ⟨c, - | ⟨d, v⟩⟩⟩⟩
  case cons.cons.cons.cons =>
    have hgap : isGap d = false := isGap_of_isWordChar (isWordChar_of_isVersion (hv d (by simp)))
    simp [Place.isAnyMarker, Place.isMarker, Place.ahead, hgap]
  all_goals simp [Place.isAnyMarker, Place.isMarker, Place.ahead, Place.head, hcolon]

/-- The tokens of a mapping with one entry. -/
def Token.ofEntry (key t : String) : List Token :=
  [.blockMappingStart, .key, .scalar key true, .value, .scalar t true, .blockEnd, .streamEnd]

namespace Lexer

/-! ### Rounds -/

/-- Nothing is passed over where a version stands. -/
theorem isSkipped_of_isVersion (hw : ∀ c ∈ w, isVersion c = true) (hne : w ≠ [])
    (tail : List Char) : ∀ c ∈ (w ++ tail).head?, isSkipped c = false := by
  obtain ⟨c, r, hcons, hc⟩ := head?_of_isVersion hw hne tail
  have hmark : ∀ x ∈ [' ', '#', '\ufeff'], c ≠ x := ne_of_mem_of_isVersion hc (by decide)
  simp only [List.forall_mem_cons] at hmark
  simp [hcons, isSkipped, hmark, isBreak_of_isVersion hc]

/-- What the lexer knows when it has read the word `v`, at the start of the text `v ++ s`. -/
def afterWord (v s : List Char) : Lexer where
  place := ⟨s, v.length, 0, v.length⟩
  tokens := [.scalar (String.ofList v) true]
  count := 1
  allowKey := false
  keys := [(0, ⟨0, false, 0, 0, 0⟩)]

/-- The word at the start of a text is read, which may be a key. -/
theorem run_start (hv : ∀ c ∈ v, isVersion c = true) (hne : v ≠ []) (hhyphen : v ≠ ['-'])
    (s : List Char) (fuel : Nat) :
    run (fuel + 1) { place := { rest := v ++ ':' :: ' ' :: s } } =
      run fuel (afterWord v (':' :: ' ' :: s)) := by
  let start : Lexer := { place := { rest := v ++ ':' :: ' ' :: s } }
  have hword : ∀ c ∈ v, isWordChar c = true := fun c hc => isWordChar_of_isVersion (hv c hc)
  have hready : Ready start start :=
    ready_behind isLayout_nil (isSkipped_of_isVersion hv hne _) rfl nofun (Int.le.intro 1 rfl)
  have htoken : start.token = .ok (afterWord v (':' :: ' ' :: s)) := by
    have hplace : start.place.rest = v ++ ':' :: ' ' :: s := rfl
    have hsave : start.saveKey = .ok { start with keys := [(0, ⟨0, false, 0, 0, 0⟩)] } := rfl
    have hends : Ends false 0 ⟨':' :: ' ' :: s, 0 + v.length, 0, 0 + v.length⟩ false
        ⟨':' :: ' ' :: s, 0 + v.length, 0, 0 + v.length⟩ := ⟨rfl, [], rfl, .inl rfl⟩
    rw [← skip_of_isVersion hv] at hends
    rw [token_of_word hword hne hhyphen hplace fun _ => isAnyMarker_of_isVersion hv _,
      plain_of_word hword hne hplace hsave hends, skip_of_isVersion hv]
    simp [afterWord, push, start]
  exact run_of_ready hready htoken (by simp [afterWord]) fuel

/-- What the lexer knows behind the colon. -/
def afterColon (v s : List Char) : Lexer where
  place := ⟨s, v.length + 1, 0, v.length + 1⟩
  tokens := [.value, .scalar (String.ofList v) true, .key, .blockMappingStart]
  count := 4
  indents := [0]
  allowKey := false

/-- The colon behind a word makes it a key, if it is not too long for one. -/
theorem run_colon (hlength : v.length ≤ 1024) (s : List Char) (fuel : Nat) :
    run (fuel + 1) (afterWord v (':' :: ' ' :: s)) = run fuel (afterColon v (' ' :: s)) := by
  let before := afterWord v (':' :: ' ' :: s)
  have hready : Ready before before := by
    -- the key is not given up
    have hbehind : before.behind [] = before := by
      simp [behind, before, afterWord, moveTo, Place.skip, isStale, hlength]
    have hcolon : ∀ c ∈ (':' :: ' ' :: s).head?, isSkipped c = false := by
      simp [isSkipped, isBreak]
    have hindent : before.indent ≤ ((v.length : Nat) : Int) := by
      simp only [indent, before, afterWord, List.headD_nil]
      omega
    have hready := ready_behind isLayout_nil hcolon rfl (by simp [before, afterWord]) hindent
    rwa [hbehind] at hready
  have htoken : before.token = .ok (afterColon v (' ' :: s)) := by
    have hcolon : before.token = before.colon := by
      simp [before, token, afterWord, Place.head, Place.ahead, Place.isMarker, isGap, isSpaceOrEnd]
    rw [hcolon]
    rfl
  exact run_of_ready hready htoken (by simp [afterColon]) fuel

/-- What the lexer knows at the end of the text, when it has read a key and its value. -/
def afterValue (v w : List Char) (p : Place) (broken : Bool) : Lexer where
  place := p
  tokens := [.scalar (String.ofList w) true, .value, .scalar (String.ofList v) true, .key,
    .blockMappingStart]
  count := 5
  indents := [0]
  allowKey := broken

/-- The version is read behind the space, as its value. -/
theorem run_value (hw : ∀ c ∈ w, isVersion c = true) (hne : w ≠ []) (hhyphen : w ≠ ['-'])
    {broken : Bool} {q : Place}
    (hends : Ends false 1 ⟨tail, v.length + 2 + w.length, 0, v.length + 2 + w.length⟩ broken q)
    (fuel : Nat) :
    run (fuel + 1) (afterColon v (' ' :: (w ++ tail))) = run fuel (afterValue v w q broken) := by
  let before := afterColon v (' ' :: (w ++ tail))
  let ready := before.moveTo ⟨w ++ tail, v.length + 2, 0, v.length + 2⟩
  have hword : ∀ c ∈ w, isWordChar c = true := fun c hc => isWordChar_of_isVersion (hw c hc)
  have hready : Ready before ready :=
    ready_behind (w := [' ']) (by simp [IsLayout]) (isSkipped_of_isVersion hw hne tail) rfl nofun
      (Int.natCast_nonneg _)
  have htoken : ready.token = .ok (afterValue v w q broken) := by
    have hplace : ready.place.rest = w ++ tail := rfl
    rw [← skip_of_isVersion hw] at hends
    rw [token_of_word hword hne hhyphen hplace (by simp [ready, moveTo]),
      plain_of_word hword hne hplace rfl hends]
    simp [afterValue, push, ready, before, moveTo, afterColon]
  exact run_of_ready hready htoken (by simp [afterValue]) fuel

/-- At the end of the text the mapping ends. -/
theorem run_end {q : Place} (hq : q.rest = []) (broken : Bool) (fuel : Nat) :
    run (fuel + 1) (afterValue v w q broken) =
      .ok (Token.ofEntry (String.ofList v) (String.ofList w)) := by
  obtain ⟨rest, i, n, k⟩ := q
  subst hq
  have hcolumn : ¬ (k : Int) < 0 := by omega
  simp [run, afterValue, skipMark, skipBlank, token, finish, dropStale, unwind, unwindTo, removeKey,
    keyHere?, push, moveTo, Place.head, Place.dropWhile, Place.takeWhile, Place.skip,
    Place.lineBreak?, endMark, hcolumn, bind, Except.bind, pure, Except.pure, Token.ofEntry]

end Lexer

/-! ### The line -/

theorem isAllowed_of_isVersion {c : Char} (h : isVersion c = true) : isAllowed c = true := by
  obtain ⟨hlow, hhigh⟩ := toNat_of_isVersion h
  have hspace : ' ' ≤ c := Nat.le_trans (by decide) hlow
  have htilde : c ≤ '~' := Nat.le_trans hhigh (by decide)
  simp [isAllowed, hspace, htilde]

/-- A line ends with the text or with a line feed. -/
theorem ends_of_ending {ending : String} (hending : ending ∈ ["", "\n"]) (i : Nat) :
    ∃ broken q, Ends false 1 ⟨ending.toList, i, 0, i⟩ broken q ∧ q.rest = [] := by
  simp only [List.mem_cons, List.not_mem_nil, or_false] at hending
  rcases hending with rfl | rfl
  · exact ⟨false, ⟨[], i, 0, i⟩, ⟨rfl, [], rfl, .inl rfl⟩, rfl⟩
  · exact ⟨true, ⟨[], i + 1, 1, 0⟩, ⟨rfl, [' '], rfl, .inl rfl⟩, rfl⟩

/-- **The tokens of a line that holds a key and a version**, both without quotes. -/
theorem ofText_line (hkey : IsBare key) (hlength : key.length ≤ 1024) (ht : IsBare t)
    {ending : String} (hending : ending ∈ ["", "\n"]) :
    Token.ofText (key ++ ": " ++ t ++ ending).toList = .ok (Token.ofEntry key t) := by
  have htext : (key ++ ": " ++ t ++ ending).toList =
      key.toList ++ ':' :: ' ' :: (t.toList ++ ending.toList) := by
    simp
  have hallowed : (key ++ ": " ++ t ++ ending).toList.all isAllowed = true := by
    have hkeys : key.toList.all isAllowed = true :=
      List.all_eq_true.mpr fun c hc => isAllowed_of_isVersion (hkey.chars c hc)
    have hchars : t.toList.all isAllowed = true :=
      List.all_eq_true.mpr fun c hc => isAllowed_of_isVersion (ht.chars c hc)
    have hlast : ending.toList.all isAllowed = true := by
      simp only [List.mem_cons, List.not_mem_nil, or_false] at hending
      rcases hending with rfl | rfl <;> decide
    have hmiddle : isAllowed ':' = true ∧ isAllowed ' ' = true := by decide
    simp only [htext, List.all_append, List.all_cons, hkeys, hchars, hlast, hmiddle, Bool.and_self]
  obtain ⟨broken, q, hends, hq⟩ := ends_of_ending hending (key.toList.length + 2 + t.toList.length)
  obtain ⟨fuel, hfuel⟩ : ∃ fuel, (key ++ ": " ++ t ++ ending).toList.length + 2 = fuel + 4 :=
    ⟨key.toList.length + (t.toList.length + ending.toList.length), by rw [htext]; simp; omega⟩
  rw [Token.ofText, if_pos hallowed, hfuel, htext,
    Lexer.run_start hkey.chars hkey.toList_ne_nil hkey.toList_ne_hyphen,
    Lexer.run_colon (by rwa [String.length_toList]),
    Lexer.run_value ht.chars ht.toList_ne_nil ht.toList_ne_hyphen hends, Lexer.run_end hq]
  simp

/-- The tree of a line. -/
theorem ofTokens_ofEntry (key t : String) : Tree.ofTokens (Token.ofEntry key t) =
    .ok (some (.mapping (standardTag "map")
      [(.scalar (plainTag key) key, .scalar (plainTag t) t)])) :=
  rfl

/-- **A version survives as written** in a line without quotes. -/
theorem read_line (hkey : IsBare key) (hlength : key.length ≤ 1024) (ht : IsBare t)
    {ending : String} (hending : ending ∈ ["", "\n"]) :
    read (key ++ ": " ++ t ++ ending).toList = .ok (.mapping [(.text key, .text t)]) := by
  have htree := ofTokens_ofEntry key t
  rw [plainTag_of_isBare hkey, plainTag_of_isBare ht] at htree
  exact (read_eq_ok (ofText_line hkey hlength ht hending) htree).mpr (Tree.value_ofTexts [(key, t)])

end TermRef.Yaml
