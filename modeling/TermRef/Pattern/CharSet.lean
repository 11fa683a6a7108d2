/-
TermRef/Pattern/CharSet.lean

Sets of characters as patterns write them: single characters, ranges and
classes, possibly negated, possibly compared without regard to case.

A caseless set brings the character to lower case before the test, and its
members are brought to lower case when the set is built, so both sides meet
there.  A few lower case characters count as equal although their case
mappings never meet (the two lower case sigmas, for one); they are added to the
set as kin of its members.  A member that has no case at all switches nothing:
a caseless set without cased members tests the character as it is.
-/
import TermRef.Unicode.Blank
import TermRef.Unicode.Letter
import TermRef.Unicode.Case

namespace TermRef.Pattern

/-- How a character is brought to lower case before a comparison. -/
inductive Fold where
  /-- Not at all. -/
  | exact
  /-- ASCII letters only. -/
  | ascii
  /-- All letters. -/
  | full
  deriving DecidableEq, Repr

/-- The code point after folding. -/
def Fold.apply : Fold → Nat → Nat
  | .exact, n => n
  | .ascii, n => if 65 ≤ n && n ≤ 90 then n + 32 else n
  | .full, n => Unicode.lowerRuns.apply n

/-- The code point takes part in caseless comparison. -/
def Fold.isCased : Fold → Nat → Bool
  | .exact, _ => false
  | .ascii, n => (65 ≤ n && n ≤ 90) || (97 ≤ n && n ≤ 122)
  | .full, n => Unicode.foldableRanges.has n

/-- Some code point of the range takes part in caseless comparison. -/
def Fold.hasCased : Fold → Nat → Nat → Bool
  | .exact, _, _ => false
  | .ascii, lo, hi => (lo ≤ 90 && 65 ≤ hi) || (lo ≤ 122 && 97 ≤ hi)
  | .full, lo, hi => Unicode.foldableRanges.any fun r => lo ≤ r.2 && r.1 ≤ hi

/-- Code points that count as equal to a folded one. -/
def Fold.kin : Fold → Nat → List Nat
  | .full, n => ((Unicode.caseKin.find? fun r => r.1 == n).map (·.2)).getD []
  | _, _ => []

/-- Code points that fold to `n`. -/
def Fold.sources : Fold → Nat → List Nat
  | .exact, n => [n]
  | .ascii, n => (if 97 ≤ n && n ≤ 122 then [n - 32] else []) ++
      (if 65 ≤ n && n ≤ 90 then [] else [n])
  | .full, n =>
    (if Unicode.lowerRuns.apply n == n then [n] else []) ++
      Unicode.lowerRuns.filterMap fun r =>
        let (first, last, step, image) := r
        if image ≤ n && n ≤ image + (last - first) && (n - image) % step == 0 then
          some (first + (n - image))
        else none

/-! ### Members of a set -/

/-- The classes of characters that have a letter of their own. -/
inductive CharKind where
  | digit
  | blank
  | word
  deriving DecidableEq, Repr

/-- Membership in a class, over all of Unicode or within ASCII. -/
def CharKind.mem (ascii : Bool) (k : CharKind) (c : Char) : Bool :=
  match k, ascii with
  | .digit, true => c.isDigit
  | .digit, false => Unicode.isDecimal c
  | .blank, true => c == ' ' || ('\t' ≤ c && c ≤ '\r')
  | .blank, false => Unicode.isBlank c
  | .word, true => Unicode.isAsciiWord c
  | .word, false => Unicode.isWord c

/-- A member of a set. -/
inductive SetItem where
  /-- One code point. -/
  | code (n : Nat)
  /-- A range of code points. -/
  | range (lo hi : Nat)
  /-- What the code points of a range fold to, with its kin. -/
  | folded (fold : Fold) (lo hi : Nat)
  /-- A range that the character or its upper case lies in. -/
  | either (lo hi : Nat)
  /-- A class, or what is outside it. -/
  | kind (k : CharKind) (ascii inside : Bool)
  deriving DecidableEq, Repr

/-- The code point lies in the range. -/
def within (lo hi n : Nat) : Bool := lo ≤ n && n ≤ hi

/-- Membership of a character that has been folded already. -/
def SetItem.mem (c : Char) : SetItem → Bool
  | .code n => c.toNat == n
  | .range lo hi => within lo hi c.toNat
  | .folded f lo hi =>
    (c.toNat :: f.kin c.toNat).any fun n => (f.sources n).any (within lo hi)
  | .either lo hi => within lo hi c.toNat || within lo hi (Unicode.upperRuns.apply c.toNat)
  | .kind k ascii inside => k.mem ascii c == inside

/-! ### Sets -/

/-- A set of characters. -/
structure CharSet where
  items : List SetItem
  negated : Bool := false
  fold : Fold := .exact
  deriving DecidableEq, Repr

/-- Membership in a set. -/
def CharSet.mem (s : CharSet) (c : Char) : Bool :=
  (s.items.any (SetItem.mem (Char.ofNat (s.fold.apply c.toNat)))) != s.negated

/-- All characters. -/
def CharSet.all : CharSet := ⟨[], true, .exact⟩

/-- All characters but the newline. -/
def CharSet.line : CharSet := ⟨[.code 10], true, .exact⟩

/-- The set of one character. -/
def CharSet.single (c : Char) : CharSet := ⟨[.code c.toNat], false, .exact⟩

/-- The set of one code point under a way of folding, or its complement. -/
def CharSet.ofCode (f : Fold) (negated : Bool) (n : Nat) : CharSet :=
  if f.isCased n then
    let lo := f.apply n
    ⟨(lo :: f.kin lo).map .code, negated, f⟩
  else ⟨[.code n], negated, .exact⟩

/-- A member of a caseless set.  Beyond the first 65536 code points a single
character stands for itself alone, and a range is tested with the upper case. -/
def SetItem.caseless (f : Fold) : SetItem → List SetItem
  | .code n =>
    if n > 0xffff then [.code n] else (f.apply n :: f.kin (f.apply n)).map .code
  | .range lo hi =>
    if hi > 0xffff then [.folded f lo 0xffff, .either lo hi] else [.folded f lo hi]
  | i => [i]

/-- A member that makes a caseless set fold its characters. -/
def SetItem.isCased (f : Fold) : SetItem → Bool
  | .code n => n > 0xffff || f.isCased n
  | .range lo hi => hi > 0xffff || f.hasCased lo hi
  | _ => false

/-- The set of some members under a way of folding, or its complement. -/
def CharSet.ofItems (f : Fold) (negated : Bool) (items : List SetItem) : CharSet :=
  if f != .exact && items.any (SetItem.isCased f) then
    ⟨items.flatMap (SetItem.caseless f), negated, f⟩
  else ⟨items, negated, .exact⟩

end TermRef.Pattern
