/-
TermRef/Yaml/Meaning.lean

The value that the tree of a document stands for.

The tag of a tree says which value it makes.  In a mapping the entries of merged
mappings come before its own, so that its own win; a key has to be a value that
can be compared, so neither a list nor a set nor a mapping.

When several parts of a document are at fault, the one reported is the first in
the order in which the parts are made: a collection is entered only after all
parts of the collections around it have been looked at.
-/
import TermRef.Yaml.Tree
import TermRef.Yaml.Lexer
import TermRef.Value.Show
import TermRef.Text.Pieces
import TermRef.Decimal.Numeral

namespace TermRef.Yaml

/-! ### Scalars -/

/-- The text of a scalar with an explicit tag.  A mapping that has a default value
counts as that value. -/
def Tree.scalarText : Tree → Except Fault String
  | .scalar _ s => .ok s
  | .mapping _ es => defaultText es
  | .sequence _ _ => .error .malformed
where
  /-- The text of the first default value among the entries. -/
  defaultText : List (Tree × Tree) → Except Fault String
    | [] => .error .malformed
    | (k, v) :: r => if k.tag == standardTag "value" then v.scalarText else defaultText r

/-- A truth value by its name, in any case. -/
def truthOf (s : String) : Except Fault Value :=
  let w := String.ofList (Unicode.lower s.toList)
  if w == "yes" || w == "true" || w == "on" then .ok (.bool true)
  else if w == "no" || w == "false" || w == "off" then .ok (.bool false)
  else .error (.truthName w)

/-- Without the mark of a base that a numeral may repeat after its sign. -/
def dropBaseMark (base : Nat) (s : List Char) : List Char :=
  let (sign, digits) := match Unicode.strip s with
    | '-' :: r => (['-'], r)
    | '+' :: r => (['+'], r)
    | r => ([], r)
  match base, digits with
  | 2, '0' :: 'b' :: r => sign ++ r
  | 2, '0' :: 'B' :: r => sign ++ r
  | 8, '0' :: 'o' :: r => sign ++ r
  | 8, '0' :: 'O' :: r => sign ++ r
  | 16, '0' :: 'x' :: r => sign ++ r
  | 16, '0' :: 'X' :: r => sign ++ r
  | _, r => sign ++ r

/-- The number of decimal digits at the front of a numeral, behind its sign. -/
def digitCount (s : List Char) : Nat :=
  ((Decimal.splitSign (Unicode.strip s)).2.takeWhile fun c =>
    (Unicode.decimalValue? c).isSome).length

/-- A whole number in a base.  The number of decimal digits is limited, that of others is
not. -/
def wholeIn (base : Nat) (s : List Char) : Except Fault Int :=
  if base = 10 ∧ greatestDigits < digitCount s then .error (.tooManyDigits (digitCount s))
  else match Decimal.readInt base (dropBaseMark base s) with
    | some n => .ok n
    | none => .error (.wholeNumber base (String.ofList s))

/-- A sign and what follows it; the text may not be empty. -/
def signed (s : List Char) : Except Fault (Bool × List Char) :=
  match s with
  | [] => .error .emptyNumber
  | '-' :: r => .ok (true, r)
  | '+' :: r => .ok (false, r)
  | r => .ok (false, r)

/-- A whole number: binary, hexadecimal, octal after a zero, to base sixty with
colons, or decimal; underscores do not count. -/
def wholeOf (s : String) : Except Fault Value := do
  let (neg, r) ← signed (s.toList.filter (· != '_'))
  let n ← match r with
    | ['0'] => pure 0
    | '0' :: 'b' :: d => wholeIn 2 d
    | '0' :: 'x' :: d => wholeIn 16 d
    | '0' :: _ => wholeIn 8 r
    | [] => throw .emptyNumber
    | _ =>
      if r.contains ':' then do
        let parts ← (Pieces.cut ':' r).mapM (wholeIn 10)
        pure (parts.foldl (fun acc d => acc * 60 + d) 0)
      else wholeIn 10 r
  pure (.int (if neg then -n else n))

/-- A floating point number. -/
def floatIn (s : List Char) : Except Fault Float :=
  match Decimal.readFloat s with
  | some x => .ok x
  | none => .error (.number (String.ofList s))

/-- Adds numbers to `acc`, each multiplied with its place: the first with `place`, the next
with sixty times that.  A place is a whole number, and has to be in the range of floating
point numbers. -/
def addPlaces : Nat → Float → List Float → Except Fault Float
  | _, acc, [] => .ok acc
  | place, acc, d :: r =>
    let factor := Float.ofScientific place false 0
    if factor.isFinite then addPlaces (place * 60) (acc + d * factor) r
    else .error .tooManyPlaces

/-- A number: infinite, undefined, to base sixty with colons, or decimal. -/
def numberOf (s : String) : Except Fault Value := do
  let (neg, r) ← signed (Unicode.lower (s.toList.filter (· != '_')))
  let x ←
    if r == ".inf".toList then pure (1.0 / 0.0)
    else if r == ".nan".toList then return .float (0.0 / 0.0)
    else if r.contains ':' then do
      let parts ← (Pieces.cut ':' r).mapM floatIn
      addPlaces 1 0.0 parts.reverse
    else floatIn r
  pure (.float (if neg then -x else x))

/-! ### Bytes -/

/-- The value of a character of base 64. -/
def base64Value? (c : Char) : Option Nat :=
  if 'A' ≤ c && c ≤ 'Z' then some (c.toNat - 'A'.toNat)
  else if 'a' ≤ c && c ≤ 'z' then some (c.toNat - 'a'.toNat + 26)
  else if c.isDigit then some (c.toNat - '0'.toNat + 52)
  else if c == '+' then some 62
  else if c == '/' then some 63
  else none

/-- Bytes from characters of base 64.  `quad` characters of the present group have
been read, whose bits not yet used are `bits`; `pads` of it were padding.  Other
characters do not count, and what follows a complete padding is left alone. -/
def base64From : Nat → Nat → Nat → List UInt8 → List Char → Option (List UInt8)
  | quad, _, _, done, [] => if quad = 0 then some done.reverse else none
  | quad, bits, pads, done, c :: r =>
    if c == '=' then
      if quad ≥ 2 && quad + (pads + 1) ≥ 4 then some done.reverse
      else if quad ≥ 2 then base64From quad bits (pads + 1) done r
      else base64From quad bits pads done r
    else match base64Value? c with
      | none => base64From quad bits pads done r
      | some v =>
        match quad with
        | 0 => base64From 1 v 0 done r
        | 1 => base64From 2 (v % 16) 0 ((bits * 4 + v / 16).toUInt8 :: done) r
        | 2 => base64From 3 (v % 4) 0 ((bits * 16 + v / 4).toUInt8 :: done) r
        | _ => base64From 0 0 0 ((bits * 64 + v).toUInt8 :: done) r

/-- Bytes written in base 64. -/
def bytesOf (s : String) : Except Fault Value :=
  if s.toList.all fun c => c.toNat < 128 then
    match base64From 0 0 0 [] s.toList with
    | some b => .ok (.bytes b)
    | none => .error .malformed
  else .error .malformed

/-! ### Dates -/

/-- Digits at the front of a text, from `lo` to `hi` of them. -/
def dateDigits (lo hi : Nat) (s : List Char) : Option (Nat × List Char) :=
  let ds := (s.take hi).takeWhile Char.isDigit
  if ds.length < lo then none
  else some (ds.foldl (fun n c => n * 10 + (c.toNat - '0'.toNat)) 0, s.drop ds.length)

/-- A given character at the front of a text. -/
def dateMark (c : Char) (s : List Char) : Option (List Char) :=
  match s with
  | x :: r => if x == c then some r else none
  | [] => none

/-- The millionths of a second that a fraction denotes. -/
def microsOf (ds : List Char) : Nat :=
  let six := ds.take 6
  (six ++ List.replicate (6 - six.length) '0').foldl
    (fun n c => n * 10 + (c.toNat - '0'.toNat)) 0

/-- A time zone: none, universal time, or hours and minutes from it. -/
def zoneOf (s : List Char) : Option (Option Int) :=
  let r := s.dropWhile fun c => c == ' ' || c == '\t'
  let after := fun (neg : Bool) (t : List Char) => do
    let (h, u) ← dateDigits 1 2 t
    let m ← match u with
      | [] => some 0
      | _ => do
        let (m, w) ← dateDigits 2 2 (← dateMark ':' u)
        if w.isEmpty then some m else none
    let n : Int := (h * 3600 + m * 60 : Nat)
    some (some (if neg then -n else n))
  if s.isEmpty then some none
  else match r with
    | ['Z'] => some (some 0)
    | '+' :: t => after false t
    | '-' :: t => after true t
    | _ => none

/-- The time of day in a date, from the mark before it on. -/
def clockOf (s : List Char) : Option Clock := do
  let r ← match s with
    | 'T' :: r => some r
    | 't' :: r => some r
    | c :: r =>
      if c == ' ' || c == '\t' then some (r.dropWhile fun c => c == ' ' || c == '\t') else none
    | [] => none
  let (hour, r) ← dateDigits 1 2 r
  let (minute, r) ← dateDigits 2 2 (← dateMark ':' r)
  let (second, r) ← dateDigits 2 2 (← dateMark ':' r)
  let (micro, r) := match r with
    | '.' :: r => (microsOf (r.takeWhile Char.isDigit), r.dropWhile Char.isDigit)
    | _ => (0, r)
  let offset ← zoneOf r
  some { hour, minute, second, micro, offset }

/-- A day, or a moment on it, as it is written. -/
def stampOf? (s : List Char) : Option Stamp := do
  let (year, r) ← dateDigits 4 4 s
  let (month, r) ← dateDigits 1 2 (← dateMark '-' r)
  let (day, r) ← dateDigits 1 2 (← dateMark '-' r)
  if r.isEmpty || r == ['\n'] then some { year, month, day, clock := none }
  else
    let r := match r.reverse with
      | '\n' :: t => t.reverse
      | _ => r
    some { year, month, day, clock := some (← clockOf r) }

/-- The number of days of a month. -/
def monthLength (year month : Nat) : Nat :=
  if month = 2 then
    (if year % 4 = 0 ∧ (year % 100 ≠ 0 ∨ year % 400 = 0) then 29 else 28)
  else if month = 4 ∨ month = 6 ∨ month = 9 ∨ month = 11 then 30
  else 31

/-- What is out of range in a date. -/
def Stamp.outOfRange (t : Stamp) : Option String :=
  match t.clock.bind (·.offset) with
  | some n =>
    if n.natAbs ≥ 86400 then
      some ("offset must be a timedelta strictly between -timedelta(hours=24) and " ++
        "timedelta(hours=24), not " ++ spanQuoted n ++ ".")
    else dateOutOfRange t
  | none => dateOutOfRange t
where
  /-- What is out of range in the day and the time. -/
  dateOutOfRange (t : Stamp) : Option String :=
    if t.year < 1 then some "year 0 is out of range"
    else if t.month < 1 ∨ 12 < t.month then some "month must be in 1..12"
    else if t.day < 1 ∨ monthLength t.year t.month < t.day then
      some "day is out of range for month"
    else match t.clock with
      | none => none
      | some c =>
        if 23 < c.hour then some "hour must be in 0..23"
        else if 59 < c.minute then some "minute must be in 0..59"
        else if 59 < c.second then some "second must be in 0..59"
        else none

/-- A day or a moment. -/
def stampOf (s : String) : Except Fault Value :=
  match stampOf? s.toList with
  | none => .error .notADate
  | some t =>
    match Stamp.outOfRange t with
    | some m => .error (.dateRange m)
    | none => .ok (.stamp t)

/-! ### Trees -/

/-- A value that can be a key. -/
def isKey : Value → Bool
  | .list _ => false
  | .set _ => false
  | .mapping _ => false
  | _ => true

/-- The kinds of value that the standard tags make. -/
inductive Making where
  | scalar (make : String → Except Fault Value)
  | list
  | mapping
  | set
  /-- A list of pairs, each written as a mapping with one entry. -/
  | pairs

/-- What a tag makes, if it is known. -/
def making? (tag : String) : Option Making :=
  let known : List (String × Making) := [
    ("str", .scalar fun s => .ok (.text s)),
    ("null", .scalar fun _ => .ok .null),
    ("bool", .scalar truthOf),
    ("int", .scalar wholeOf),
    ("float", .scalar numberOf),
    ("binary", .scalar bytesOf),
    ("timestamp", .scalar stampOf),
    ("seq", .list),
    ("map", .mapping),
    ("set", .set),
    ("omap", .pairs),
    ("pairs", .pairs)]
  (known.find? fun k => standardTag k.1 == tag).map (·.2)

/-- The key tag of merged mappings. -/
def isMerge (t : Tree) : Bool := t.tag == standardTag "merge"

/-- A key of a mapping: the mark of a default value is a text there. -/
def keyTree (t : Tree) : Tree :=
  match t with
  | .scalar tag s => if tag == standardTag "value" then .scalar (standardTag "str") s else t
  | _ => t

/-- A mapping of entries in which a later one replaces an earlier one. -/
def collect (es : List (Value × Value)) : List (Value × Value) :=
  es.foldl (fun acc e => Entries.put acc e.1 e.2) []

mutual

/-- The value of a tree. -/
def Tree.value : Tree → Except Fault Value
  | .scalar tag s =>
    match making? tag with
    | some (.scalar make) => make s
    | _ => .error .malformed
  | .sequence tag items =>
    match making? tag with
    | some .list => .list <$> valuesOf items
    | some .pairs => .list <$> pairsOf items
    | _ => .error .malformed
  | .mapping tag es =>
    match making? tag with
    | some .mapping => do
      let (merged, own) ← entriesOf es
      pure (.mapping (collect (merged ++ own)))
    | some .set => do
      let (merged, own) ← entriesOf es
      pure (.set ((collect (merged ++ own)).map (·.1)))
    | some (.scalar make) => do make (← Tree.scalarText (.mapping tag es))
    | _ => .error .malformed

/-- The values of a list of trees. -/
def valuesOf : List Tree → Except Fault (List Value)
  | [] => .ok []
  | t :: r => do
    let v ← t.value
    let vs ← valuesOf r
    pure (v :: vs)

/-- Pairs, each written as a mapping with one entry. -/
def pairsOf : List Tree → Except Fault (List Value)
  | [] => .ok []
  | .mapping _ [(k, v)] :: r => do
    let a ← k.value
    let b ← v.value
    let rest ← pairsOf r
    pure (.tuple [a, b] :: rest)
  | _ :: _ => .error .malformed

/-- The entries of a mapping: those merged into it, and its own. -/
def entriesOf : List (Tree × Tree) →
    Except Fault (List (Value × Value) × List (Value × Value))
  | [] => .ok ([], [])
  | (k, v) :: r => do
    if isMerge k then
      let lead ← mergedOf v
      let (merged, own) ← entriesOf r
      pure (lead ++ merged, own)
    else
      let a ← match k with
        | .scalar tag s =>
          if tag == standardTag "value" then .ok (.text s) else Tree.value (.scalar tag s)
        | t => t.value
      if !isKey a then throw .malformed
      let b ← v.value
      let (merged, own) ← entriesOf r
      pure (merged, (a, b) :: own)

/-- The entries that a merged tree brings: a mapping its own, a list of mappings
theirs, the last mapping's first. -/
def mergedOf : Tree → Except Fault (List (Value × Value))
  | .mapping _ es => do
    let (merged, own) ← entriesOf es
    pure (merged ++ own)
  | .sequence _ items => mergedAll items
  | .scalar _ _ => .error .malformed

/-- The entries that a list of mappings brings, the last one's first. -/
def mergedAll : List Tree → Except Fault (List (Value × Value))
  | [] => .ok []
  | .mapping _ es :: r => do
    let (merged, own) ← entriesOf es
    let rest ← mergedAll r
    pure (rest ++ (merged ++ own))
  | _ :: _ => .error .malformed

end

/-! ### The first fault -/

/-- Whether the value of a tree is made at once, before any collection about it is
complete. -/
def Tree.isImmediate (t : Tree) : Bool :=
  match t, making? t.tag with
  | .scalar _ _, _ => true
  | _, none => true
  | _, some (.scalar _) => true
  | _, _ => false

/-- The fault of a tree whose value is made at once. -/
def Tree.ownFault? (t : Tree) : Option Fault :=
  if t.isImmediate then
    match t.value with
    | .error f => some f
    | .ok _ => none
  else none

mutual

/-- The entries of a mapping with merged ones put in front, as trees. -/
def flatTree : Tree → Option (List (Tree × Tree))
  | .mapping _ es => (flatEntriesOf es).map fun (merged, own) => merged ++ own
  | .sequence _ items => flatAll items
  | .scalar _ _ => none

/-- The entries merged into a mapping, and its own. -/
def flatEntriesOf : List (Tree × Tree) → Option (List (Tree × Tree) × List (Tree × Tree))
  | [] => some ([], [])
  | (k, v) :: r =>
    if isMerge k then
      match flatTree v, flatEntriesOf r with
      | some lead, some (merged, own) => some (lead ++ merged, own)
      | _, _ => none
    else (flatEntriesOf r).map fun (merged, own) => (merged, (k, v) :: own)

/-- The entries of a list of mappings, the last one's first. -/
def flatAll : List Tree → Option (List (Tree × Tree))
  | [] => some []
  | .mapping _ es :: r =>
    match flatEntriesOf es, flatAll r with
    | some (merged, own), some rest => some (rest ++ (merged ++ own))
    | _, _ => none
  | _ :: _ => none

end

/-- Stands for a part that makes no value. -/
def noValue : Tree := .scalar (standardTag "merge") ""

/-- The parts of a collection in the order in which they are made, or nothing if
it is malformed itself.  A key that is no scalar makes no value. -/
def Tree.parts? (t : Tree) : Option (List Tree) :=
  let entries := fun (es : List (Tree × Tree)) => es.flatMap fun e =>
    [if e.1.isImmediate then keyTree e.1 else noValue, e.2]
  match t, making? t.tag with
  | .sequence _ items, some .list => some items
  | .sequence _ items, some .pairs => some (items.flatMap fun i => match i with
      | .mapping _ [(k, v)] => [k, v]
      | _ => [noValue])
  | .mapping _ _, some .mapping => (flatTree t).map entries
  | .mapping _ _, some .set => (flatTree t).map entries
  | _, _ => none

/-- The first fault among the parts of collections taken in turn, or the parts. -/
def faultAmong : List Tree → Except Fault (List Tree)
  | [] => .ok []
  | t :: r =>
    match t.parts? with
    | none => .error .malformed
    | some ps =>
      match ps.findSome? Tree.ownFault? with
      | some f => .error f
      | none => (faultAmong r).map (ps ++ ·)

/-- The first fault of collections, where each is entered after the parts about
it. -/
def firstFault : Nat → List Tree → Option Fault
  | 0, _ => none
  | fuel + 1, ts =>
    match ts with
    | [] => none
    | _ =>
      match faultAmong ts with
      | .error f => some f
      | .ok ps => firstFault fuel (ps.filter fun t => !t.isImmediate)

/-! ### Documents -/

/-- The value of the only document in a text; without a document it is null. -/
def read (s : List Char) : Except Fault Value := do
  match ← Tree.ofTokens (← Token.ofText s) with
  | none => pure .null
  | some t =>
    match t.value with
    | .ok v => pure v
    | .error f => throw (if t.isImmediate then f else (firstFault (s.length + 2) [t]).getD f)

/-- The message of a fault.  What exactly is malformed is left open, and of a long numeral
only the beginning is quoted.  Half of a surrogate pair and a collection that contains itself
are values that this library does not have; their messages are its own. -/
def Fault.message : Fault → String
  | .malformed => "<detail>"
  | .codePoint huge =>
    if huge then "Python int too large to convert to C int"
    else "chr() arg not in range(0x110000)"
  | .halfPair => "<half of a surrogate pair>"
  | .selfContained => "<a collection that contains itself>"
  | .truthName w => Quoted.ofText w
  | .wholeNumber base s =>
    "invalid literal for int() with base " ++ toString base ++ ": " ++
      String.ofList ((Quoted.ofText s).toList.take 200)
  | .tooManyDigits n =>
    "Exceeds the limit (" ++ toString greatestDigits ++ " digits) for integer string " ++
      "conversion: value has " ++ toString n ++
      " digits; use sys.set_int_max_str_digits() to increase the limit"
  | .number s => "could not convert string to float: " ++ Quoted.ofText s
  | .tooManyPlaces => "int too large to convert to float"
  | .emptyNumber => "string index out of range"
  | .notADate => "'NoneType' object has no attribute 'groupdict'"
  | .dateRange m => m

end TermRef.Yaml
