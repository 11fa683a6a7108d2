/-
TermRef/Value/Show.lean

Values as text.

`shown` is the text of a value on its own and `quoted` its text inside another
value, where texts stand in quotes.  Days and moments have a third form, the
standard one, with a `T` between day and time.

A whole number has a text only up to a number of digits, and a value only if all
numbers in it do: `shown?` is the text of a value that has one.
-/
import TermRef.Value.Basic
import TermRef.Text.Quoted

namespace TermRef

/-- `n` in decimal with at least `width` digits. -/
def padNat (width n : Nat) : String :=
  let d := Nat.toDigits 10 n
  String.ofList (List.replicate (width - d.length) '0' ++ d)

/-- The distance from universal time, as hours and minutes, and seconds if there
are any. -/
def offsetText (n : Int) : String :=
  let a := n.natAbs
  (if n < 0 then "-" else "+") ++ padNat 2 (a / 3600) ++ ":" ++ padNat 2 (a / 60 % 60) ++
    (if a % 60 = 0 then "" else ":" ++ padNat 2 (a % 60))

/-- A time of day. -/
def Clock.text (c : Clock) : String :=
  padNat 2 c.hour ++ ":" ++ padNat 2 c.minute ++ ":" ++ padNat 2 c.second ++
    (if c.micro = 0 then "" else "." ++ padNat 6 c.micro) ++
    (c.offset.map offsetText).getD ""

/-- A day or a moment, with the given text between day and time. -/
def Stamp.textWith (between : String) (t : Stamp) : String :=
  padNat 4 t.year ++ "-" ++ padNat 2 t.month ++ "-" ++ padNat 2 t.day ++
    (t.clock.map fun c => between ++ c.text).getD ""

/-- The standard form of a day or a moment. -/
def Stamp.standard (t : Stamp) : String := t.textWith "T"

/-- A span of time as its constructor would be written. -/
def spanQuoted (n : Int) : String :=
  let days := n.fdiv 86400
  let seconds := n.fmod 86400
  let parts :=
    (if days = 0 then [] else ["days=" ++ toString days]) ++
      (if seconds = 0 then [] else ["seconds=" ++ toString seconds])
  "datetime.timedelta(" ++ (if parts.isEmpty then "0" else ", ".intercalate parts) ++ ")"

/-- A time zone as its constructor would be written. -/
def zoneQuoted (n : Int) : String :=
  if n = 0 then "datetime.timezone.utc" else "datetime.timezone(" ++ spanQuoted n ++ ")"

/-- A day or a moment as its constructor would be written. -/
def Stamp.quoted (t : Stamp) : String :=
  let day := [t.year, t.month, t.day].map toString
  match t.clock with
  | none => "datetime.date(" ++ ", ".intercalate day ++ ")"
  | some c =>
    let fine := if c.micro ≠ 0 then [c.second, c.micro] else if c.second ≠ 0 then [c.second] else []
    let zone := match c.offset with
      | none => []
      | some n => ["tzinfo=" ++ zoneQuoted n]
    "datetime.datetime(" ++
      ", ".intercalate (day ++ ([c.hour, c.minute] ++ fine).map toString ++ zone) ++ ")"

namespace Value

mutual

/-- The text of a value inside another. -/
def quoted : Value → String
  | .null => "None"
  | .bool b => if b then "True" else "False"
  | .int n => toString n
  | .float x => Decimal.ofFloat x
  | .text s => Quoted.ofText s
  | .bytes b => Quoted.ofBytes b
  | .stamp t => t.quoted
  | .list xs => "[" ++ ", ".intercalate (quotedAll xs) ++ "]"
  | .tuple xs =>
    "(" ++ ", ".intercalate (quotedAll xs) ++ (if xs.length = 1 then ",)" else ")")
  | .set xs =>
    if xs.isEmpty then "set()" else "\x7b" ++ ", ".intercalate (quotedAll xs) ++ "\x7d"
  | .mapping es => "\x7b" ++ ", ".intercalate (quotedEntries es) ++ "\x7d"

/-- The texts of the members of a list. -/
def quotedAll : List Value → List String
  | [] => []
  | x :: r => quoted x :: quotedAll r

/-- The texts of the entries of a mapping. -/
def quotedEntries : List (Value × Value) → List String
  | [] => []
  | (k, v) :: r => (quoted k ++ ": " ++ quoted v) :: quotedEntries r

end

/-- The text of a value on its own. -/
def shown : Value → String
  | .text s => s
  | .stamp t => t.textWith " "
  | v => v.quoted

end Value

/-! ### Long numbers -/

/-- The greatest number of decimal digits that a whole number is written or read with. -/
def greatestDigits : Nat := 4300

/-- A whole number is short enough to be written in decimal. -/
def isShort (n : Int) : Bool := (Decimal.digits n.natAbs).length ≤ greatestDigits

/-- The text of the error with a number that is too long to be written. -/
def tooLongToWrite : String :=
  "Exceeds the limit (" ++ toString greatestDigits ++ " digits) for integer string conversion; " ++
    "use sys.set_int_max_str_digits() to increase the limit"

namespace Value

mutual

/-- All whole numbers in a value are short enough to be written. -/
def hasText : Value → Bool
  | .int n => isShort n
  | .list xs => haveTexts xs
  | .tuple xs => haveTexts xs
  | .set xs => haveTexts xs
  | .mapping es => entriesHaveTexts es
  | _ => true

/-- All members of a list have a text. -/
def haveTexts : List Value → Bool
  | [] => true
  | x :: r => hasText x && haveTexts r

/-- All entries of a mapping have a text. -/
def entriesHaveTexts : List (Value × Value) → Bool
  | [] => true
  | (k, v) :: r => hasText k && hasText v && entriesHaveTexts r

end

/-- The text of a value on its own, if it has one. -/
def shown? (v : Value) : Option String := if v.hasText then some v.shown else none

end Value

end TermRef
