/-
TermRef/Template/Filter.lean

Filters: what can be made of a value after a bar.

Most filters take the value as a text or as a list of members.  Filters that look at
members can be told to look at a field of them instead, given by a path of names and
numbers with points between them; comparison then goes without regard to case unless
it is asked for.
-/
import TermRef.Template.Test
import TermRef.Text.Wrap
import TermRef.Url.Encode
import TermRef.Template.Address
import TermRef.Template.Pretty

namespace TermRef.Template

open Datum

/-! ### Members by a field -/

/-- The steps of a path. -/
def pathOf (s : List Char) : List Datum :=
  (Pieces.split ['.'] none s).map fun p =>
    if !p.isEmpty && p.all Unicode.isDigit then ((Decimal.readInt 10 p).map ofInt).getD (ofChars p)
    else ofChars p

/-- The steps that an argument asks for. -/
def pathOfArg : Option Datum → List Datum
  | none => []
  | some (.plain .null) => []
  | some (.text s _) => pathOf s.toList
  | some d => [d]

/-- What a path leads to; where a step leads to nothing, the default is taken, if there
is one. -/
def follow (dflt : Option Datum) (path : List Datum) (d : Datum) : Result Datum :=
  path.foldlM (fun d step => do
    match ← d.getItem step, dflt with
    | .undefined, some y => pure y
    | x, _ => pure x) d

/-- A text regardless of case. -/
def caseless : Datum → Datum
  | .text s safe => .text (String.ofList (Unicode.lower s.toList)) safe
  | d => d

/-- What members are compared by. -/
def keyBy (path : List Datum) (sensitive : Bool) (dflt : Option Datum) (d : Datum) :
    Result Datum := do
  let x ← follow dflt path d
  pure (if sensitive then x else caseless x)

/-- An argument that stands for a truth value. -/
def flagArg (d : Option Datum) : Bool := d.elim false isTrue

/-- An argument that is given and not null. -/
def givenArg : Option Datum → Option Datum
  | some (.plain .null) => none
  | d => d

/-- Members sorted by their keys. -/
def sortByKey (reverse : Bool) (key : Datum → Result Datum) (xs : List Datum) :
    Result (List Datum) := do
  let keyed ← xs.mapM fun x => do pure ((← key x), x)
  let less := fun (a b : Datum × Datum) =>
    if reverse then b.1.less false a.1 else a.1.less false b.1
  pure ((← sortWith less keyed).map (·.2))

/-- The greatest or least member by its key, the first of several. -/
def extremeBy (less : Datum → Datum → Result Bool) (key : Datum → Result Datum) (xs : List Datum) :
    Result Datum := do
  match xs with
  | [] => pure .undefined
  | x :: r =>
    let k ← key x
    let (_, best) ← r.foldlM (fun (k, best) y => do
      let l ← key y
      if ← less l k then pure (l, y) else pure (k, best)) (k, x)
    pure best

/-- Neighbouring members with the same key in groups. -/
def groupByKey : List (Datum × Datum) → List (Datum × List Datum)
  | [] => []
  | (k, x) :: r =>
    match groupByKey r with
    | (l, xs) :: gs => if k.same l then (l, x :: xs) :: gs else (k, [x]) :: (l, xs) :: gs
    | [] => [(k, [x])]

/-- Members with a key that no earlier member has. -/
def uniqueBy (key : Datum → Result Datum) (xs : List Datum) : Result (List Datum) := do
  let (_, kept) ← xs.foldlM (fun (seen, kept) x => do
    let k ← key x
    if !k.isKey then throw .kind
    pure (if seen.any fun l => l.same k then (seen, kept) else (k :: seen, x :: kept)))
    (([] : List Datum), ([] : List Datum))
  pure kept.reverse

/-! ### Parts of lists -/

/-- The whole number that a value equals, if it does. -/
def wholeEqual? : Datum → Option Int
  | .plain v => v.whole?
  | _ => none

/-- Members in rows of a length, which is positive; the last row may be filled up. -/
def rowsOf (size : Nat) (fillWith : Option Datum) : Nat → List Datum → List Datum
  | 0, _ => []
  | f + 1, xs =>
    if xs.isEmpty then []
    else
      let row := xs.take size
      let row := match fillWith with
        | some d => row ++ List.replicate (size - row.length) d
        | none => row
      .list row :: rowsOf size fillWith f (xs.drop size)

/-- Members in a number of columns, of which the first may have one member more; the
others may be filled up. -/
def columnsOf (count : Nat) (fillWith : Option Datum) (xs : List Datum) : List Datum :=
  let per := xs.length / count
  let extra := xs.length % count
  (List.range count).map fun i =>
    let start := i * per + min i extra
    let stop := (i + 1) * per + min (i + 1) extra
    let column := (xs.take stop).drop start
    .list (match fillWith with
      | some d => if extra ≤ i then column ++ [d] else column
      | none => column)

/-! ### Texts -/

/-- A word with a capital letter and small ones. -/
def titleWord : List Char → List Char
  | [] => []
  | c :: r => Unicode.upperChar c ++ Unicode.lower r

/-- A text with the words between blanks, opening brackets and hyphens capitalized; the
word that is being read is kept, latest character first. -/
def titleWords (word : List Char) : List Char → List Char
  | [] => titleWord word.reverse
  | c :: r =>
    if Unicode.isBlank c || "-(\x7b[<".toList.contains c then
      titleWord word.reverse ++ c :: titleWords [] r
    else titleWords (c :: word) r

/-- A text cut off at a length, at the end of a word unless words may be broken. -/
def truncateText (s : List Char) (length : Nat) (words : Bool) (ending : List Char) : List Char :=
  let cut := s.take (length - ending.length)
  let cut := if words then cut else
    match Pieces.cutAtLast? [' '] cut with
    | some (a, _) => a
    | none => cut
  cut ++ ending

/-- A text with its lines set in. -/
def indentText (s pad : List Char) (first blank : Bool) : List Char :=
  let lines := Pieces.lines false (s ++ ['\n'])
  let body := if blank then Pieces.join ('\n' :: pad) lines
    else match lines with
      | [] => []
      | l :: r => Pieces.join ['\n'] (l :: r.map fun m => if m.isEmpty then m else pad ++ m)
  if first then pad ++ body else body

/-- The number of words. -/
def wordCount : Bool → List Char → Nat
  | _, [] => 0
  | inWord, c :: r =>
    let w := Unicode.isWord c
    (if w && !inWord then 1 else 0) + wordCount w r

/-- A size in bytes with a fitting unit. -/
def fileSize (binary : Bool) (x : Float) : Result Datum := do
  match Decimal.fraction? x with
  | none =>
    if x < 0.0 then throw .value
    else pure (Datum.ofText ((if x.isNaN then "nan" else "inf") ++ (if binary then " YiB" else " YB")))
  | some r =>
    let base : Nat := if binary then 1024 else 1000
    if r.num == r.den && !r.neg then pure (Datum.ofText "1 Byte")
    else if r.neg || r.num < base * r.den then
      let n : Nat := r.num / r.den
      pure (Datum.ofText ((if r.neg && n != 0 then "-" else "") ++ toString n ++ " Bytes"))
    else
      let units := "kMGTPEZY".toList
      let i := ((List.range 7).find? fun i => r.num < Nat.pow base (i + 2) * r.den).getD 7
      let y := Float.ofNat base * x / Number.ofFraction (Nat.pow base (i + 2)) 1
      let letter := units.getD i 'Y'
      let unit := if binary then letter.toUpper.toString ++ "iB" else letter.toString ++ "B"
      match Decimal.fraction? y with
      | some q => pure (Datum.ofText (String.ofList (q.fixed 1) ++ " " ++ unit))
      | none => throw .value

/-! ### Written data -/

/-- A character as it stands in a text of written data. -/
def writtenChar (c : Char) : List Char :=
  let hex := fun (n : Nat) => '\\' :: 'u' :: Quoted.hexPadded 4 n
  match c with
  | '"' => ['\\', '"']
  | '\\' => ['\\', '\\']
  | '\n' => ['\\', 'n']
  | '\r' => ['\\', 'r']
  | '\t' => ['\\', 't']
  | '\x08' => ['\\', 'b']
  | '\x0c' => ['\\', 'f']
  | c =>
    if "<>&'".toList.contains c then hex c.toNat
    else if ' ' ≤ c && c ≤ '~' then [c]
    else if c.toNat < 0x10000 then hex c.toNat
    else
      let n := c.toNat - 0x10000
      hex (0xd800 + n / 1024) ++ hex (0xdc00 + n % 1024)

/-- A text as written data. -/
def writtenText (s : String) : String :=
  String.ofList ('"' :: s.toList.flatMap writtenChar ++ ['"'])

/-- A number as written data. -/
def writtenFloat (x : Float) : String :=
  if x.isNaN then "NaN" else if x.isFinite then Decimal.ofFloat x
  else if x < 0.0 then "-Infinity" else "Infinity"

/-- The text of a key in written data. -/
def writtenKey : Datum → Result String
  | .text s _ => .ok s
  | .plain (.bool b) => .ok (if b then "true" else "false")
  | .plain .null => .ok "null"
  | .plain (.int n) => (ofInt n).toText
  | .plain (.float x) => .ok (writtenFloat x)
  | _ => .error .kind

/-- Members between brackets, with lines of their own if there is an indentation. -/
def bracketed (opening closing : String) (pad : Option String) (level : Nat) (xs : List String) :
    String :=
  if xs.isEmpty then opening ++ closing
  else match pad with
    | none => opening ++ ", ".intercalate xs ++ closing
    | some p =>
      let line := fun n => "\n" ++ String.join (List.replicate n p)
      opening ++ line (level + 1) ++ ("," ++ line (level + 1)).intercalate xs ++ line level ++ closing

/-- Entries in the order of their keys. -/
def sortEntries (es : List (Datum × String)) : Result (List (Datum × String)) :=
  sortWith (fun a b => a.1.less false b.1) es

mutual

/-- A value as written data, with the entries of dictionaries in order. -/
def written (pad : Option String) (level : Nat) : Datum → Result String
  | .text s _ => .ok (writtenText s)
  | .plain .null => .ok "null"
  | .plain (.bool b) => .ok (if b then "true" else "false")
  | .plain (.int n) => (ofInt n).toText
  | .plain (.float x) => .ok (writtenFloat x)
  | .list xs => do pure (bracketed "[" "]" pad level (← writtenAll pad (level + 1) xs))
  | .tuple xs => do pure (bracketed "[" "]" pad level (← writtenAll pad (level + 1) xs))
  | .group k xs => do
    let a ← written pad (level + 1) k
    let b ← writtenAll pad (level + 2) xs
    pure (bracketed "[" "]" pad level [a, bracketed "[" "]" pad (level + 1) b])
  | .dict es => do
    let es ← sortEntries (← writtenEntries pad (level + 1) es)
    let ms ← es.mapM fun (k, v) => do pure (writtenText (← writtenKey k) ++ ": " ++ v)
    pure (bracketed "\x7b" "\x7d" pad level ms)
  | _ => .error .kind

/-- Values as written data. -/
def writtenAll (pad : Option String) (level : Nat) : List Datum → Result (List String)
  | [] => .ok []
  | x :: r => do
    let s ← written pad level x
    pure (s :: (← writtenAll pad level r))

/-- Entries with their values as written data. -/
def writtenEntries (pad : Option String) (level : Nat) :
    List (Datum × Datum) → Result (List (Datum × String))
  | [] => .ok []
  | (k, v) :: r => do
    let s ← written pad level v
    pure ((k, s) :: (← writtenEntries pad level r))

end

/-! ### Numbers -/

/-- The number of digits of a numeral is read in a base; there is no limit if the base is a
power of two. -/
def isReadable (base : Nat) (digits : List Char) : Bool :=
  [2, 4, 8, 16, 32].contains base || (digits.filter (· != '_')).length ≤ greatestDigits

/-- A text as a whole number of a base; for base 2, 8 and 16 a mark may precede it, and
for base 0 the mark says the base. -/
def readWhole? (base : Nat) (s : List Char) : Option Int :=
  let (neg, r) := Decimal.splitSign (Unicode.strip s)
  let mark := match r with
    | '0' :: c :: _ =>
      if c == 'x' || c == 'X' then 16 else if c == 'o' || c == 'O' then 8
      else if c == 'b' || c == 'B' then 2 else 10
    | _ => 10
  let (b, digits) :=
    if mark != 10 && (base == mark || base == 0) then
      (mark, match r.drop 2 with
        | '_' :: t => t
        | t => t)
    else (if base == 0 then 10 else base, r)
  match digits with
  | c :: _ =>
    if c == '+' || c == '-' || b < 2 || 36 < b || !isReadable b digits then none
    else (Decimal.readDigits b true 0 digits).map fun (n : Nat) => if neg then -(n : Int) else n
  | [] => none

/-- A floating point number cut off to a whole one. -/
def wholePart? (x : Float) : Option Int :=
  (Decimal.fraction? x).map fun r =>
    let n : Nat := r.num / r.den
    if r.neg then -(n : Int) else n

/-- A value as a whole number. -/
def toWhole (d : Datum) (base : Option Int) (dflt : Datum) : Result Datum :=
  match d with
  | .undefined => .error .undefined
  | .text s _ =>
    let whole := base.bind fun b => if b < 0 then none else readWhole? b.toNat s.toList
    match whole, (Decimal.readFloat s.toList).bind wholePart? with
    | some n, _ => .ok (ofInt n)
    | none, some n => .ok (ofInt n)
    | none, none => .ok dflt
  | d =>
    match d.number? with
    | some (.int n) => .ok (ofInt n)
    | some (.float x) =>
      match wholePart? x with
      | some n => .ok (ofInt n)
      | none => if x.isNaN then .ok dflt else .error .value
    | none => .ok dflt

/-- A value as a floating point number. -/
def toFloating (d dflt : Datum) : Result Datum :=
  match d with
  | .undefined => .error .undefined
  | .text s _ => .ok (((Decimal.readFloat s.toList).map ofFloat).getD dflt)
  | d =>
    match d.number? with
    | some n => do pure (ofFloat (← n.toFloat))
    | none => .ok dflt

/-- A number rounded to a decimal place, to the nearest, up or down. -/
def roundNumber (n : Number) (places : Int) (how : String) : Result Datum :=
  match how, n with
  | "common", .int k =>
    if 0 ≤ places then .ok (ofInt k)
    else if (Decimal.digits k.natAbs).length < -places then .ok (ofInt 0)
    else
      let unit : Nat := Nat.pow 10 (-places).toNat
      let r : Nat := Decimal.roundDiv k.natAbs unit * unit
      .ok (ofInt (if k < 0 then -(r : Int) else r))
  | "common", .float x => .ok (ofFloat (Decimal.roundTo places x))
  | "ceil", n => directed Float.ceil n
  | "floor", n => directed Float.floor n
  | _, _ => .error .arguments
where
  /-- Rounding up or down. -/
  directed (f : Float → Float) (n : Number) : Result Datum := do
    let x ← n.toFloat
    let unit := Decimal.nearest false 1 (max (-400) (min 400 places))
    if unit == 0.0 then throw .zeroDivision
    let y := f (x * unit)
    if y.isFinite then pure (ofFloat (y / unit)) else throw .value

/-- A number rounded to a whole one; a half goes to the even neighbour. -/
def roundWhole : Number → Result Datum
  | .int n => .ok (ofInt n)
  | .float x =>
    match Decimal.fraction? x with
    | some r =>
      let n : Nat := Decimal.roundDiv r.num r.den
      .ok (ofInt (if r.neg then -(n : Int) else n))
    | none => .error .value

/-- A sum of values. -/
def sumOf (start : Datum) (xs : List Datum) : Result Datum :=
  match start with
  | .text _ _ => .error .kind
  | d => xs.foldlM Datum.add d

/-! ### Filters -/

/-- A text without regard to whether it is marked, then marked as the value was. -/
def onText (f : List Char → List Char) (d : Datum) : Result Datum := do
  let (s, safe) ← d.softText
  pure (.text (String.ofList (f s.toList)) safe)

/-- An argument that stands for a truth value and has to be a whole number or one. -/
def switchArg (d : Option Datum) : Result Bool :=
  match d with
  | none => .ok false
  | some d => do pure ((← d.whole) != 0)

/-- A number of characters that an argument gives. -/
def countArg (d : Option Datum) (dflt : Nat) : Result Nat :=
  match d with
  | none => .ok dflt
  | some d => do pure (← d.whole).toNat

/-- A text that an argument gives. -/
def textArg (d : Option Datum) (dflt : String) : Result (List Char) :=
  match d with
  | none => .ok dflt.toList
  | some d => d.chars

/-- Texts joined; where output is escaped, so are the texts that are not marked. -/
def joinData (escaping : Bool) (sep : Datum) (xs : List Datum) : Result Datum := do
  if escaping then pure (.text ((← sep.toMarkup).intercalate (← xs.mapM Datum.toMarkup)) true)
  else pure (Datum.ofText ((← sep.toText).intercalate (← xs.mapM Datum.toText)))

/-- The entries of a dictionary as tuples. -/
def entryTuples (es : List (Datum × Datum)) : List Datum := es.map fun (k, v) => .tuple [k, v]

/-- Attributes of markup from a dictionary. -/
def markupAttributes (es : List (Datum × Datum)) (space : Bool) : Result Datum := do
  let parts ← es.filterMapM fun (k, v) => do
    if v matches .undefined || v matches .plain .null then pure none
    else
      let key ← k.chars
      if key.any " \t\n\r\x0b\x0c/>=".toList.contains then throw .value
      pure (some (k.escaped ++ "=\"" ++ (← v.toMarkup) ++ "\""))
  let s := " ".intercalate parts
  pure (Datum.ofText (if space && !s.isEmpty then " " ++ s else s))

/-- An attribute of links, in writing, unless it is empty. -/
def linkAttribute (name : String) (value : Datum) : Result String := do
  if value.isTrue then pure (" " ++ name ++ "=\"" ++ (← value.toMarkup) ++ "\"") else pure ""

/-- The relations that links are marked with, in order. -/
def relations (rel : Option Datum) (nofollow : Bool) : Result String := do
  let given ← match rel with
    | some d => if d.isTrue then pure (Pieces.words none (← d.chars)) else pure []
    | none => pure []
  let all := (given.map String.ofList ++ (if nofollow then ["nofollow"] else []) ++
    ["noopener"]).eraseDups
  pure (" ".intercalate (all.mergeSort fun a b => a ≤ b))

/-- The schemes that are asked for. -/
def schemesOf : Option Datum → Result (List (List Char))
  | none => .ok []
  | some d => do
    let ss ← (← d.members).mapM Datum.chars
    if ss.all Address.isScheme then pure ss else throw .arguments

/-- The parameters of filters that take a fixed number of arguments. -/
def filterParams (name : String) : List String :=
  match name with
  | "attr" => ["name"]
  | "batch" => ["linecount", "fill_with"]
  | "center" => ["width"]
  | "d" | "default" => ["default_value", "boolean"]
  | "dictsort" => ["case_sensitive", "by", "reverse"]
  | "filesizeformat" => ["binary"]
  | "float" => ["default"]
  | "groupby" => ["attribute", "default", "case_sensitive"]
  | "indent" => ["width", "first", "blank"]
  | "int" => ["default", "base"]
  | "join" => ["d", "attribute"]
  | "max" | "min" => ["case_sensitive", "attribute"]
  | "replace" => ["old", "new", "count"]
  | "round" => ["precision", "method"]
  | "slice" => ["slices", "fill_with"]
  | "sort" => ["reverse", "case_sensitive", "attribute"]
  | "sum" => ["attribute", "start"]
  | "tojson" => ["indent"]
  | "trim" => ["chars"]
  | "truncate" => ["length", "killwords", "end", "leeway"]
  | "unique" => ["case_sensitive", "attribute"]
  | "urlize" => ["trim_url_limit", "nofollow", "target", "rel", "extra_schemes"]
  | "wordwrap" => ["width", "break_long_words", "wrapstring", "break_on_hyphens"]
  | "xmlattr" => ["autospace"]
  | _ => []

/-- Applies a filter to a value that it takes as a text. -/
def textFilter? (escaping : Bool) (name : String) (d : Datum) (xs : List (Option Datum)) :
    Option (Result Datum) :=
  let arg := argAt xs
  match name with
  | "capitalize" => some (onText Unicode.capitalize d)
  | "lower" => some (onText Unicode.lower d)
  | "upper" => some (onText Unicode.upper d)
  | "title" => some (onText (titleWords []) d)
  | "string" => some do
    let (s, safe) ← d.softText
    pure (.text s safe)
  | "safe" => some do pure (.text (← d.toText) true)
  | "e" | "escape" => some do pure (.text (← d.toMarkup) true)
  | "forceescape" => some do pure (.text (Markup.escape (← d.toText)) true)
  | "striptags" => some do pure (ofChars (Markup.stripTags (← d.toText).toList))
  | "wordcount" => some do pure (ofNat (wordCount false (← d.toText).toList))
  | "center" => some do
    let w ← fitting (← countArg (arg 0) 80)
    onText (Pieces.center ' ' w) d
  | "trim" => some do
    let p ← match givenArg (arg 0) with
      | none => pure Unicode.isBlank
      | some c => do
        let cs ← c.chars
        pure fun c => cs.contains c
    onText (TextMethod.strip true true p) d
  | "indent" => some do
    let s ← d.chars
    let pad ← match arg 0 with
      | some (.text t _) => pure t.toList
      | w => do
        let n ← countArg w 4
        pure (List.replicate (← fitting n) ' ')
    let (_, safe) ← d.softText
    pure (.text (String.ofList (indentText s pad (flagArg (arg 1)) (flagArg (arg 2)))) safe)
  | "replace" => some do
    let old ← needAt xs 0
    let new ← needAt xs 1
    let limit ← limitOf (givenArg (arg 2))
    let s ← d.toText
    let marked := escaping && !(d matches .text _ true) &&
      (old matches .text _ true || new matches .text _ true)
    let s := if marked then Markup.escape s else s
    pure (ofChars (Pieces.replace (← old.toText).toList (← new.toText).toList limit s.toList))
  | "truncate" => some do
    let n ← match arg 0 with
      | some w => w.whole
      | none => pure 255
    let ending ← textArg (arg 2) "..."
    let leeway ← match givenArg (arg 3) with
      | some w => w.whole
      | none => pure 5
    if n < ending.length || leeway < 0 then throw .arguments
    match d.size? with
    | none => throw .kind
    | some size =>
      if size ≤ n + leeway then pure d
      else
        let s ← d.chars
        let (_, safe) ← d.softText
        pure (.text (String.ofList (truncateText s n.toNat (flagArg (arg 1)) ending)) safe)
  | "wordwrap" => some do
    let s ← d.chars
    let w ← match arg 0 with
      | some w => w.whole
      | none => pure 79
    let newline ← textArg (givenArg (arg 2)) "\n"
    if w ≤ 0 && !s.isEmpty then throw .value
    let style : Wrap.Style := ⟨w.toNat, (arg 1).elim true isTrue, (arg 3).all (same (ofBool true))⟩
    let lines := (Pieces.lines false s).map fun l => Pieces.join newline (Wrap.wrap style l)
    pure (ofChars (Pieces.join newline lines))
  | _ => none

/-- Applies a filter to a value that it takes as a number. -/
def numberFilter? (name : String) (d : Datum) (xs : List (Option Datum)) : Option (Result Datum) :=
  let arg := argAt xs
  match name with
  | "abs" =>
    some (match d.number? with
      | some (.int n) => .ok (ofNat n.natAbs)
      | some (.float x) => .ok (ofFloat x.abs)
      | none => .error (misfit d d))
  | "int" => some do
    toWhole d (((arg 1).getD (ofInt 10)).int?) ((arg 0).getD (ofInt 0))
  | "float" => some (toFloating d ((arg 0).getD (ofFloat 0.0)))
  | "round" => some do
    let how := String.ofList (← textArg (arg 1) "common")
    match d.number?, arg 0 with
    | some n, some (.plain .null) => if how = "common" then roundWhole n else throw .kind
    | some n, some w => do roundNumber n (← w.whole) how
    | some n, none => roundNumber n 0 how
    | none, _ => throw (misfit d d)
  | "filesizeformat" => some do
    match ← toFloating d .null with
    | .plain (.float x) => fileSize (flagArg (arg 0)) x
    | _ => throw .kind
  | _ => none

/-- Applies a filter to a value that it takes as a list of members. -/
def listFilter? (escaping : Bool) (name : String) (d : Datum) (xs : List (Option Datum)) :
    Option (Result Datum) :=
  let arg := argAt xs
  let nonNull := fun i => givenArg (arg i)
  match name with
  | "length" | "count" =>
    some (match d.size? with
      | some n => .ok (ofNat n)
      | none => .error .kind)
  | "list" => some do pure (.list (← d.members))
  | "items" =>
    some (match d with
      | .undefined => .ok (.stream [])
      | .dict es => .ok (.stream (entryTuples es))
      | _ => .error .kind)
  | "first" => some do pure ((← d.members).headD .undefined)
  | "random" => some do pure ((← d.members).headD .undefined)
  | "last" =>
    some (match d with
      | .stream _ | .plain (.set _) => .error .kind
      | d => do pure ((← d.members).getLastD .undefined))
  | "reverse" =>
    some (match d with
      | .text s safe => .ok (.text (String.ofList s.toList.reverse) safe)
      | .stream xs => .ok (.list xs.reverse)
      | .plain (.set xs) => .ok (.list (ofValues xs).reverse)
      | d => do pure (.stream (← d.members).reverse))
  | "join" => some do
    let ms ← d.members
    let ms ← match nonNull 1 with
      | some p => ms.mapM (follow none (pathOfArg (some p)))
      | none => pure ms
    joinData escaping ((arg 0).getD (Datum.ofText "")) ms
  | "batch" => some do
    let size ← needAt xs 0
    let ms ← d.members
    match wholeEqual? size with
    | some (.ofNat (n + 1)) =>
      let fillWith := nonNull 1
      if fillWith.isSome then let _ ← fitting (n + 1)
      pure (.stream (rowsOf (n + 1) fillWith ms.length ms))
    | n =>
      if n.isNone && (nonNull 1).isSome && !ms.isEmpty then throw .kind
      if ms.isEmpty then pure (.stream [])
      else pure (.stream (if n = some 0 then [.list [], .list ms] else [.list ms]))
  | "slice" => some do
    let n ← (← needAt xs 0).whole
    let ms ← d.members
    if n = 0 then throw .zeroDivision
    pure (.stream (columnsOf (← fitting n.toNat) (nonNull 1) ms))
  | "sort" => some do
    let paths := match nonNull 2 with
      | some (.text s _) => (Pieces.split [','] none s.toList).map pathOf
      | p => [pathOfArg p]
    let key := fun x => do
      let ks ← paths.mapM fun p => keyBy p (flagArg (arg 1)) none x
      pure (.list ks)
    pure (.list (← sortByKey (← switchArg (arg 0)) key (← d.members)))
  | "unique" => some do
    pure (.stream (← uniqueBy (keyBy (pathOfArg (arg 1)) (flagArg (arg 0)) none) (← d.members)))
  | "max" => some do
    extremeBy (fun a b => b.less false a) (keyBy (pathOfArg (arg 1)) (flagArg (arg 0)) none)
      (← d.members)
  | "min" => some do
    extremeBy (fun a b => a.less false b) (keyBy (pathOfArg (arg 1)) (flagArg (arg 0)) none)
      (← d.members)
  | "sum" => some do
    let ms ← d.members
    let ms ← match nonNull 0 with
      | some p => ms.mapM (follow none (pathOfArg (some p)))
      | none => pure ms
    sumOf ((arg 1).getD (ofInt 0)) ms
  | "groupby" => some do
    let path := pathOfArg (some (← needAt xs 0))
    let sensitive := flagArg (arg 2)
    let dflt := nonNull 1
    let ms ← sortByKey false (keyBy path sensitive dflt) (← d.members)
    let keyed ← ms.mapM fun m => do pure ((← keyBy path sensitive dflt m), m)
    let groups ← (groupByKey keyed).mapM fun (k, g) => do
      match g with
      | m :: _ => pure (.group (← keyBy path true dflt m) g)
      | [] => pure (.group k g)
    pure (.list groups)
  | "dictsort" =>
    some (match d with
      | .dict es => do
        let by_ := ((arg 1).getD (Datum.ofText "key")).shown
        let i ← if by_ == "key" then pure 0 else if by_ == "value" then pure 1
          else throw .arguments
        pure (.list (← sortByKey (← switchArg (arg 2))
          (keyBy [ofInt i] (flagArg (arg 0)) none) (entryTuples es)))
      | d => .error (misfit d d))
  | "xmlattr" =>
    some (match d with
      | .dict es => do
        let r ← markupAttributes es ((arg 0).elim true isTrue)
        pure (if escaping then .text r.shown true else r)
      | d => .error (misfit d d))
  | _ => none

/-- Applies a filter that looks at its value as it is. -/
def valueFilter? (escaping : Bool) (name : String) (d : Datum) (xs : List (Option Datum)) :
    Option (Result Datum) :=
  let arg := argAt xs
  match name with
  | "d" | "default" =>
    let dflt := (arg 0).getD (Datum.ofText "")
    some (.ok (if d matches .undefined || (flagArg (arg 1) && !d.isTrue) then dflt else d))
  | "attr" => some do
    match d, ← needAt xs 0 with
    | .undefined, _ => throw .undefined
    | d, .text name _ => pure ((d.field? name).getD .undefined)
    | _, _ => throw .kind
  | "pprint" => some (if d.hasText then .ok (ofChars (pretty d)) else .error .tooLarge)
  | "tojson" => some do
    let pad ← match givenArg (arg 0) with
      | none => pure none
      | some (.text s _) => pure (some s)
      | some w => do
        let n ← w.whole
        pure (some (String.ofList (List.replicate (← fitting n.toNat) ' ')))
    pure (.text (← written pad 0 d) true)
  | "urlize" => some do
    let limit ← match givenArg (arg 0) with
      | some n => do pure (some (← n.whole).toNat)
      | none => pure none
    let rel ← relations (givenArg (arg 3)) (flagArg (arg 1))
    let target ← linkAttribute "target" ((givenArg (arg 2)).getD (Datum.ofText ""))
    let o : Address.Options := {
      limit
      attributes := ((← linkAttribute "rel" (Datum.ofText rel)) ++ target).toList
      schemes := ← schemesOf (givenArg (arg 4)) }
    pure (.text (String.ofList (o.text (← d.toMarkup).toList)) escaping)
  | "urlencode" =>
    let quote := fun (d : Datum) => do
      pure (Datum.ofText (String.ofList (Url.encodeText ['/'] (← d.toText).toList)))
    let query := fun (d : Datum) => do
      pure (String.ofList (Url.encodeQuery (← d.toText).toList))
    let pairs := fun (ms : List Datum) => do
      let parts ← ms.mapM fun m => do
        match ← m.members with
        | [k, v] => pure ((← query k) ++ "=" ++ (← query v))
        | _ => throw .value
      pure (Datum.ofText ("&".intercalate parts))
    some (match d with
      | .text _ _ => quote d
      | .dict es => pairs (entryTuples es)
      | d =>
        match d.members? with
        | some ms => pairs ms
        | none => quote d)
  | _ => none

/-- Keeps the members that `test` accepts, or refuses if `keep` is false. -/
def keepMembers (keep : Bool) (test : Datum → Result Bool) (xs : List Datum) :
    Result (List Datum) :=
  xs.filterM fun x => do pure ((← test x) == keep)

/-- Selects members by a test that the arguments name, of their own or of a field. -/
def selectFilter (keep byField : Bool) (d : Datum) (a : Args) : Result Datum := do
  if !d.isTrue then pure (.stream [])
  else
    let ms ← d.members
    let (path, rest) ← if byField then
        match a.positional with
        | p :: r => pure (pathOfArg (some p), r)
        | [] => throw .arguments
      else pure ([], a.positional)
    let test := fun x => do
      let y ← follow none path x
      match rest with
      | [] => pure y.isTrue
      | n :: args => applyTest n.shown y ⟨args, a.named⟩
    pure (.stream (← keepMembers keep test ms))

/-- The parameter of an argument by name. -/
def Args.get? (a : Args) (name : String) : Option Datum :=
  (a.named.find? fun e => e.1 == name).map (·.2)

/-- Applies a filter.  A filter may apply another one to each member, with fewer
arguments than it has itself, so `fuel` above the number of arguments is enough. -/
def applyFilter (escaping : Bool) : Nat → String → Datum → Args → Result Datum
  | 0, _, _, _ => .error .tooDeep
  | fuel + 1, name, d, a =>
    match name with
    | "map" =>
      if !d.isTrue then .ok (.stream [])
      else do
        let ms ← d.members
        match a.positional, a.get? "attribute" with
        | [], some p =>
          if a.named.any fun e => e.1 != "attribute" && e.1 != "default" then throw .arguments
          let dflt := givenArg (a.get? "default")
          pure (.stream (← ms.mapM (keyBy (pathOfArg (some p)) true dflt)))
        | [], none => throw .arguments
        | n :: args, _ =>
          if !filterNames.contains n.shown then throw .unknownName
          pure (.stream (← ms.mapM fun m => applyFilter escaping fuel n.shown m ⟨args, a.named⟩))
    | "select" => selectFilter true false d a
    | "reject" => selectFilter false false d a
    | "selectattr" => selectFilter true true d a
    | "rejectattr" => selectFilter false true d a
    | "format" =>
      if !a.named.isEmpty && !a.positional.isEmpty then .error .arguments
      else do
        let (s, safe) ← d.softText
        Format.percent s safe (if a.named.isEmpty then .tuple a.positional
          else .dict (a.named.map fun (k, v) => (Datum.ofText k, v)))
    | name => do
      let xs ← a.bind (filterParams name)
      match textFilter? escaping name d xs, numberFilter? name d xs, listFilter? escaping name d xs,
        valueFilter? escaping name d xs with
      | some r, _, _, _ => r
      | _, some r, _, _ => r
      | _, _, some r, _ => r
      | _, _, _, some r => r
      | none, none, none, none => throw .unknownName

end TermRef.Template
