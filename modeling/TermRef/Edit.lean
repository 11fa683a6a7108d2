/-
TermRef/Edit.lean

Edits of a text: spans replaced by other text, all in one pass.

Edits are applied in the order of their starts, and edits with one start in the
order given.  What lies between two spans is copied, so an edit lands at its own
start moved by the differences in length of the edits before it.  Spans may not
overlap nor reach outside the text.
-/
namespace TermRef

/-- The replacement of the span from `start` up to `stop`. -/
structure Edit where
  start : Int
  stop : Int
  replacement : String
  deriving DecidableEq, Repr

/-- By how much an edit makes its text longer. -/
def Edit.delta (e : Edit) : Int := e.replacement.length - (e.stop - e.start)

namespace Edit

/-- Why edits are refused. -/
inductive Error where
  /-- An edit starts before the end of the one before it. -/
  | overlap (start stop : Int)
  /-- A span is reversed or reaches past the end of the text. -/
  | outside (start stop : Int)
  deriving DecidableEq, Repr

/-- The text of an error. -/
def Error.message : Error → String
  | .overlap start stop =>
    "Edit at " ++ toString start ++ " overlaps the previous edit ending at " ++ toString stop
  | .outside start stop =>
    "Edit span " ++ toString start ++ ":" ++ toString stop ++ " is outside the text"

/-- Puts an edit behind those that start no later. -/
def insertByStart (e : Edit) : List Edit → List Edit
  | [] => [e]
  | f :: r => if e.start < f.start then e :: f :: r else f :: insertByStart e r

/-- Edits in the order of their starts; edits with one start keep their order. -/
def sortByStart (es : List Edit) : List Edit :=
  es.foldl (fun acc e => insertByStart e acc) []

/-- Applies edits, ordered by start, to what follows position `cursor` of a text of
`size` characters; `written` characters have been put out before.  Gives the text
put out and where each replacement lands. -/
def applyFrom (size : Nat) :
    Int → Nat → List Char → List Edit → Except Error (List Char × List Nat)
  | _, _, rest, [] => .ok (rest, [])
  | cursor, written, rest, e :: es =>
    if e.start < cursor then .error (.overlap e.start cursor)
    else if e.stop < e.start ∨ (size : Int) < e.stop then .error (.outside e.start e.stop)
    else
      let kept := rest.take (e.start - cursor).toNat
      let rest := rest.drop (e.stop - cursor).toNat
      let offset := written + kept.length
      match applyFrom size e.stop (offset + e.replacement.length) rest es with
      | .ok (text, offsets) => .ok (kept ++ e.replacement.toList ++ text, offset :: offsets)
      | .error x => .error x

/-- The text after all edits, and where each replacement lands, in the order of
starts. -/
def applyAll (text : String) (es : List Edit) : Except Error (String × List Nat) :=
  match applyFrom text.length 0 0 text.toList (sortByStart es) with
  | .ok (t, offsets) => .ok (String.ofList t, offsets)
  | .error x => .error x

end Edit

end TermRef
