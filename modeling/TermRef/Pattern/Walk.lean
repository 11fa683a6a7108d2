/-
TermRef/Pattern/Walk.lean

Matching a pattern by backtracking.

`Node.walk n k c` tries the ways in which the tree `n` can take characters from
the place `c`, in the order of preference, and hands each place it ends at to
the continuation `k`, until `k` accepts one.  Sequences chain continuations,
alternatives try one after the other, and repetitions hand themselves on as the
continuation of one more round.

A repetition goes on past the required rounds only while its last round has
moved on, so it takes at most one round more than characters are left; that
bound is the fuel of `rounds`.

`Pattern.matchAt?` is a match at a place, `Pattern.search?` the first place from
a given one on where the pattern matches.
-/
import TermRef.Pattern.Syntax
import TermRef.Pattern.Cursor

namespace TermRef.Pattern

/-- What is to be matched after a part of the pattern. -/
abbrev Rest := Cursor → Option Cursor

/-! ### Runs of characters -/

/-- Takes exactly `n` characters of a set, if they are there. -/
def Cursor.skip (p : Char → Bool) : Nat → Cursor → Option Cursor
  | 0, c => some c
  | n + 1, c =>
    match c.next? with
    | some (x, d) => if p x then Cursor.skip p n d else none
    | none => none

/-- One more may be taken under the limit. -/
def roomFor : Option Nat → Bool
  | none => true
  | some n => 0 < n

/-- The limit after one has been taken. -/
def lessOne : Option Nat → Option Nat := Option.map (· - 1)

/-- Takes characters of a set as long as they last, then gives back one at a
time. -/
def greedyRun (p : Char → Bool) (k : Rest) (g : List (Nat × Capture)) :
    Option Nat → List Char → List Char → Nat → Option Cursor
  | hi, before, x :: r, n =>
    if roomFor hi && p x then
      match greedyRun p k g (lessOne hi) (x :: before) r (n + 1) with
      | some c => some c
      | none => k ⟨before, x :: r, n, g⟩
    else k ⟨before, x :: r, n, g⟩
  | _, before, [], n => k ⟨before, [], n, g⟩

/-- Takes no character of a set first, then one more at a time. -/
def lazyRun (p : Char → Bool) (k : Rest) (g : List (Nat × Capture)) :
    Option Nat → List Char → List Char → Nat → Option Cursor
  | hi, before, x :: r, n =>
    match k ⟨before, x :: r, n, g⟩ with
    | some c => some c
    | none =>
      if roomFor hi && p x then lazyRun p k g (lessOne hi) (x :: before) r (n + 1) else none
  | _, before, [], n => k ⟨before, [], n, g⟩

/-- Takes characters of a set as long as they last. -/
def possessiveRun (p : Char → Bool) (k : Rest) (g : List (Nat × Capture)) :
    Option Nat → List Char → List Char → Nat → Option Cursor
  | hi, before, x :: r, n =>
    if roomFor hi && p x then possessiveRun p k g (lessOne hi) (x :: before) r (n + 1)
    else k ⟨before, x :: r, n, g⟩
  | _, before, [], n => k ⟨before, [], n, g⟩

/-- A run in any mode, after the required characters. -/
def runOf : Mode → (Char → Bool) → Rest → List (Nat × Capture) →
    Option Nat → List Char → List Char → Nat → Option Cursor
  | .greedy => greedyRun
  | .lazy => lazyRun
  | .possessive => possessiveRun

/-! ### Repetitions -/

/-- Exactly `n` rounds. -/
def times (step : Rest → Rest) : Nat → Rest → Rest
  | 0, k => k
  | n + 1, k => step (times step n k)

/-- Rounds beyond the required ones; `last` is where the last of them began. -/
def rounds (mode : Mode) (step : Rest → Rest) (k : Rest) :
    Nat → Option Nat → Option Nat → Rest
  | 0, _, _, c => k c
  | f + 1, hi, last, c =>
    if roomFor hi && last != some c.pos then
      let more := fun (_ : Unit) => step (rounds mode step k f (lessOne hi) (some c.pos)) c
      match mode with
      | .greedy => match more () with
        | some d => some d
        | none => k c
      | .lazy => match k c with
        | some d => some d
        | none => more ()
      | .possessive => match step some c with
        | some d => rounds mode step k f (lessOne hi) (some c.pos) d
        | none => k c
    else k c

/-- A repetition: the required rounds, each settled on its own if the mode is
possessive, then the others. -/
def repeated (mode : Mode) (lo : Nat) (hi : Option Nat) (step : Rest → Rest) (k : Rest) :
    Rest := fun c =>
  let required : Rest → Rest :=
    if mode = .possessive then fun k c => match step some c with
      | some d => k d
      | none => none
    else step
  times required lo
    (fun d => rounds mode step k (d.rest.length + 2) (hi.map (· - lo)) none d) c

/-! ### Anchors and repeated text -/

/-- A word character stands next, or nothing does. -/
def isWordHead (ascii : Bool) (s : List Char) : Bool :=
  match s with
  | [] => false
  | x :: _ => CharKind.word.mem ascii x

/-- The condition of an anchor.  In an empty text no place is a word boundary,
nor counts as the opposite. -/
def Anchor.holds (c : Cursor) : Anchor → Bool
  | .textStart => c.before.isEmpty
  | .lineStart => c.before.isEmpty || c.before.head? == some '\n'
  | .textEnd => c.rest.isEmpty
  | .lastLineEnd => c.rest.isEmpty || c.rest == ['\n']
  | .lineEnd => c.rest.isEmpty || c.rest.head? == some '\n'
  | .boundary ascii present =>
    if c.before.isEmpty && c.rest.isEmpty then false
    else (isWordHead ascii c.before != isWordHead ascii c.rest) == present

/-- Takes a given text, compared under a way of folding. -/
def Cursor.takeText (f : Fold) : List Char → Cursor → Option Cursor
  | [], c => some c
  | x :: r, c =>
    match c.next? with
    | some (y, d) =>
      if f.apply x.toNat == f.apply y.toNat then Cursor.takeText f r d else none
    | none => none

/-! ### Trees -/

/-- Matches a tree from a place, then what is to follow. -/
def Node.walk : Node → Rest → Rest
  | .empty, k, c => k c
  | .one s, k, c =>
    match c.next? with
    | some (x, d) => if s.mem x then k d else none
    | none => none
  | .run mode lo hi s, k, c =>
    match c.skip s.mem lo with
    | some d => runOf mode s.mem k d.groups (hi.map (· - lo)) d.before d.rest d.pos
    | none => none
  | .anchor a, k, c => if a.holds c then k c else none
  | .seq a b, k, c => a.walk (b.walk k) c
  | .alt a b, k, c =>
    match a.walk k c with
    | some d => some d
    | none => b.walk k c
  | .group i a, k, c => a.walk (fun d => k (d.capture i c.pos)) c
  | .again i f, k, c =>
    match c.group? i with
    | some g => match c.takeText f g.text with
      | some d => k d
      | none => none
    | none => none
  | .ifGroup i yes no, k, c => if (c.group? i).isSome then yes.walk k c else no.walk k c
  | .look back present a, k, c =>
    match c.back? (back.getD 0) with
    | some d => match a.walk some d, present with
      | some e, true => k { c with groups := e.groups }
      | none, false => k c
      | _, _ => none
    | none => if present then none else k c
  | .atomic a, k, c =>
    match a.walk some c with
    | some d => k d
    | none => none
  | .rep mode lo hi a, k, c => repeated mode lo hi a.walk k c

end TermRef.Pattern

namespace TermRef

open Pattern

/-- A match at a place: the place where it ends. -/
def Pattern.matchAt? (p : Pattern) (c : Cursor) : Option Cursor :=
  p.root.walk some c.clear

/-- The first match from a place on, searched with `rest` still to come: the
places where it starts and ends. -/
def Pattern.searchFrom (p : Pattern) :
    List Char → List Char → Nat → Option (Cursor × Cursor)
  | before, rest, n =>
    let c : Cursor := ⟨before, rest, n, []⟩
    match p.matchAt? c, rest with
    | some d, _ => some (c, d)
    | none, x :: r => p.searchFrom (x :: before) r (n + 1)
    | none, [] => none

/-- The first match from a place on. -/
def Pattern.search? (p : Pattern) (c : Cursor) : Option (Cursor × Cursor) :=
  p.searchFrom c.before c.rest c.pos

/-- The text of a named group after a match, if the group took part. -/
def Pattern.group? (p : Pattern) (c : Cursor) (name : String) : Option (List Char) :=
  match p.names.find? fun g => g.1 == name with
  | some (_, i) => (c.group? i).map Capture.text
  | none => none

end TermRef
