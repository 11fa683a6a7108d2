/-
TermRef/Text/Wrap.lean

Breaking text into lines of limited width.

A text is cut into chunks: runs of blanks, dashes between words, and words, which may
be cut after a hyphen between letters.  Lines take chunks as long as they fit; blanks
at the start of a line, the first one aside, and at its end are dropped.  A chunk that
fits on no line may be broken.
-/
import TermRef.Text.Pieces
import TermRef.Unicode.Letter

namespace TermRef.Wrap

/-! ### Chunks -/

/-- The characters at which lines break. -/
def isGap (c : Char) : Bool := c == ' ' || ('\t' ≤ c && c ≤ '\r')

/-- Letters of words. -/
def isWordLetter (c : Char) : Bool := Unicode.isWord c && !Unicode.isDecimal c && c != '_'

/-- Characters after which a dash is one between words. -/
def isWordEnd (c : Char) : Bool := Unicode.isWord c || "!\"'&.,?".toList.contains c

/-- The first character satisfies `p`. -/
def headIs (p : Char → Bool) : List Char → Bool
  | c :: _ => p c
  | [] => false

/-- Two hyphens or more and then a word come next. -/
def dashNext (s : List Char) : Bool :=
  let (h, r) := s.span (· == '-')
  2 ≤ h.length && headIs Unicode.isWord r

/-- A hyphen between letters may be followed by a break; `before` precedes it, latest
character first, and `after` follows it. -/
def hyphenBreaks (before after : List Char) : Bool :=
  let left := match before with
    | a :: b :: _ => (isWordLetter a && isWordLetter b) || false
    | _ => false
  let leftDashed := match before with
    | a :: '-' :: b :: _ => isWordEnd a && isWordLetter b
    | _ => false
  let right := match after with
    | a :: '-' :: b :: _ => isWordLetter a && isWordLetter b
    | a :: b :: _ => isWordLetter a && isWordLetter b
    | _ => false
  (left || leftDashed) && right

/-- A chunk may end here: at a blank, at the end, before a dash between words. -/
def endsHere (before rest : List Char) : Bool :=
  rest.isEmpty || headIs isGap rest || (headIs isWordEnd before && dashNext rest)

/-- The word at the start of a text, latest character first, what precedes it included in
`before`, and what follows it. -/
def takeWord (hyphens : Bool) (before : List Char) : List Char → List Char → List Char × List Char
  | done, [] => (done, [])
  | done, c :: r =>
    if !done.isEmpty && hyphens && c == '-' && hyphenBreaks (done ++ before) r then (c :: done, r)
    else if !done.isEmpty && (if hyphens then endsHere (done ++ before) (c :: r) else isGap c) then
      (done, c :: r)
    else takeWord hyphens before (c :: done) r

/-- The chunks of a text after what precedes it.  Every chunk has a character. -/
def chunksFrom (hyphens : Bool) : Nat → List Char → List Char → List (List Char)
  | 0, _, _ => []
  | _, _, [] => []
  | f + 1, before, c :: r =>
    let (chunk, rest) :=
      if isGap c then (c :: r).span isGap
      else if hyphens && headIs isWordEnd before && dashNext (c :: r) then (c :: r).span (· == '-')
      else
        let (w, rest) := takeWord hyphens before [] (c :: r)
        (w.reverse, rest)
    chunk :: chunksFrom hyphens f (chunk.reverse ++ before) rest

/-- The chunks of a text. -/
def chunks (hyphens : Bool) (s : List Char) : List (List Char) :=
  chunksFrom hyphens (s.length + 1) [] s

/-! ### Lines -/

/-- How lines are broken. -/
structure Style where
  width : Nat
  breakWords : Bool
  breakHyphens : Bool

/-- A chunk of blanks. -/
def isGapChunk (s : List Char) : Bool := s.all Unicode.isBlank

/-- The chunks that fit on a line with `used` characters, and those left. -/
def fill (width : Nat) : Nat → List (List Char) → List (List Char) × List (List Char)
  | _, [] => ([], [])
  | used, c :: r =>
    if used + c.length ≤ width then
      let (a, b) := fill width (used + c.length) r
      (c :: a, b)
    else ([], c :: r)

/-- Where a chunk that fits on no line is broken when `room` characters are left. -/
def breakAt (st : Style) (room : Nat) (chunk : List Char) : Nat :=
  if st.breakHyphens then
    match Pieces.findLast? ['-'] (chunk.take room) with
    | some n => if 0 < n && (chunk.take n).any (· != '-') then n + 1 else room
    | none => room
  else room

/-- The chunks of a line and those left, once a chunk that fits on no line is broken. -/
def breakLong (st : Style) (line rest : List (List Char)) : List (List Char) × List (List Char) :=
  match rest with
  | c :: r =>
    if st.width < c.length then
      let room := st.width - line.flatten.length
      if st.breakWords then
        let n := breakAt st room c
        (line ++ [c.take n], c.drop n :: r)
      else if line.isEmpty then ([c], r)
      else (line, rest)
    else (line, rest)
  | [] => (line, [])

/-- A line without blanks at its end. -/
def dropGapAtEnd (line : List (List Char)) : List (List Char) :=
  match line.getLast? with
  | some c => if isGapChunk c then line.dropLast else line
  | none => line

/-- The lines that chunks make up; `first` says that there is no line yet.  Every line
takes a chunk or a part of one. -/
def linesOf (st : Style) : Nat → Bool → List (List Char) → List (List Char)
  | 0, _, _ => []
  | _, _, [] => []
  | f + 1, first, c :: r =>
    let cs := if isGapChunk c && !first then r else c :: r
    let (line, rest) := fill st.width 0 cs
    let (line, rest) := breakLong st line rest
    let line := dropGapAtEnd line
    if line.isEmpty then linesOf st f first rest
    else line.flatten :: linesOf st f false rest

/-- The lines of a text. -/
def wrap (st : Style) (s : List Char) : List (List Char) :=
  linesOf st (2 * s.length + 2) true (chunks st.breakHyphens s)

end TermRef.Wrap
