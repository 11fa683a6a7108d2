/-
TermRef/Template/Pretty.lean

Values laid out in lines.

A value that fits into the line is written there.  A list, a tuple or a dictionary that
does not has a line for each member, set in by one more than its bracket, and so does a
text, which is cut behind blanks; a text that is no part of another value is enclosed in
brackets then.  The entries of dictionaries come in the order of their keys; keys that
cannot be compared are ordered by their kinds.
-/
import TermRef.Template.Method

namespace TermRef.Template.Datum

/-! ### Order of entries -/

/-- The place of the kind of a value among those of keys that have no order. -/
def kindRank : Datum → Nat
  | .plain .null => 0
  | .plain (.bool _) => 1
  | .plain (.bytes _) => 2
  | .plain (.stamp t) => if t.clock.isSome then 4 else 3
  | .plain (.float _) => 5
  | .plain (.int _) => 6
  | .undefined => 7
  | .text _ safe => if safe then 8 else 9
  | _ => 10

/-- A key comes before another one. -/
def keyLess (a b : Datum) : Bool :=
  match a.less false b with
  | .ok r => r
  | .error _ => a.kindRank < b.kindRank

mutual

/-- A value with the entries of its dictionaries in order. -/
def ordered : Datum → Datum
  | .list xs => .list (orderedAll xs)
  | .tuple xs => .tuple (orderedAll xs)
  | .dict es => .dict ((orderedEntries es).mergeSort fun a b => !keyLess b.1 a.1)
  | d => d

/-- Values with the entries of their dictionaries in order. -/
def orderedAll : List Datum → List Datum
  | [] => []
  | x :: r => ordered x :: orderedAll r

/-- Entries with the entries of their dictionaries in order. -/
def orderedEntries : List (Datum × Datum) → List (Datum × Datum)
  | [] => []
  | (k, v) :: r => (k, ordered v) :: orderedEntries r

end

/-! ### Lines -/

/-- The greatest length of a line. -/
def lineWidth : Nat := 80

/-- A line break, and blanks up to a column. -/
def newLine (column : Nat) : List Char := '\n' :: List.replicate column ' '

/-- A line in pieces of a word each, with the blanks behind it; the word that is being
read is kept, latest character first. -/
def wordsWithBlanks (word : List Char) : List Char → List (List Char)
  | [] => if word.isEmpty then [] else [word.reverse]
  | [c] => [(c :: word).reverse]
  | c :: d :: r =>
    if Unicode.isBlank c && !Unicode.isBlank d then
      (c :: word).reverse :: wordsWithBlanks [] (d :: r)
    else wordsWithBlanks (c :: word) (d :: r)

/-- Pieces of a text put together, each as long as `fits` allows; `fits` is told whether
the last piece is in it. -/
def fill (fits : Bool → List Char → Bool) (current : List Char) :
    List (List Char) → List (List Char)
  | [] => if current.isEmpty then [] else [current]
  | w :: r =>
    if fits r.isEmpty (current ++ w) then fill fits (current ++ w) r
    else if current.isEmpty then fill fits w r
    else current :: fill fits w r

/-- The pieces of a text: its lines, cut behind blanks where they are too long. -/
def textPieces (fits : Bool → List Char → Bool) : List (List Char) → List (List Char)
  | [] => []
  | l :: r =>
    if fits r.isEmpty l then l :: textPieces fits r
    else fill (fun last => fits (last && r.isEmpty)) [] (wordsWithBlanks [] l) ++ textPieces fits r

/-- A text from a column on, with room for some characters behind it; `whole` says that
it is no part of another value. -/
def prettyText (whole : Bool) (column behind : Nat) (s : List Char) : List Char :=
  let column := if whole then column + 1 else column
  let behind := if whole then behind + 1 else behind
  let fits := fun (last : Bool) (t : List Char) =>
    ((Quoted.ofChars t).length + column + (if last then behind else 0) ≤ lineWidth : Bool)
  match (textPieces fits (Pieces.lines true s)).map Quoted.ofChars with
  | [p] => p
  | ps =>
    let body := Pieces.join (newLine column) ps
    if whole then '(' :: body ++ [')'] else body

mutual

/-- A value from a column on, with room for some characters behind it. -/
def prettyFrom (whole : Bool) (column behind : Nat) (d : Datum) : List Char :=
  let line := d.quoted.toList
  if line.length + column + behind ≤ lineWidth then line
  else
    match d with
    | .list xs => '[' :: prettyAll (column + 1) (behind + 1) xs ++ [']']
    | .tuple xs =>
      let closing := if xs.length = 1 then [',', ')'] else [')']
      '(' :: prettyAll (column + 1) (behind + closing.length) xs ++ closing
    | .dict es => '\x7b' :: prettyEntries (column + 1) (behind + 1) es ++ ['\x7d']
    | .text s false => prettyText whole column behind s.toList
    | _ => line

/-- Members in lines of their own. -/
def prettyAll (column behind : Nat) : List Datum → List Char
  | [] => []
  | x :: r =>
    prettyFrom false column (if r.isEmpty then behind else 1) x ++
      (if r.isEmpty then [] else ',' :: newLine column ++ prettyAll column behind r)

/-- Entries in lines of their own. -/
def prettyEntries (column behind : Nat) : List (Datum × Datum) → List Char
  | [] => []
  | (k, v) :: r =>
    let key := k.quoted.toList
    key ++ ':' :: ' ' ::
      prettyFrom false (column + key.length + 2) (if r.isEmpty then behind else 1) v ++
      (if r.isEmpty then [] else ',' :: newLine column ++ prettyEntries column behind r)

end

/-- A value laid out in lines. -/
def pretty (d : Datum) : List Char := prettyFrom true 0 0 d.ordered

end TermRef.Template.Datum
