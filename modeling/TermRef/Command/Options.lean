/-
TermRef/Command/Options.lean

The options of the command line.

An option is written as one of its flags.  A flag can be cut short as long as no other
flag starts in the same way; a value follows in the next argument, behind an equals
sign, or, for a flag of one letter, right behind the letter.  What does not look like an
option is the pattern of the files, and only the first such argument is.  After two
hyphens alone nothing looks like an option any more.

Options take effect one after the other; asking for help ends the reading.
-/
import TermRef.Text.Quoted
import TermRef.Text.Pieces
import TermRef.Unicode.Digit

namespace TermRef.Command

/-! ### Flags -/

/-- An option. -/
inductive Opt where
  | help
  | config
  | output
  | scopedir
  | vsntag
  | interpreter
  | converter
  | verbose
  deriving DecidableEq, Repr

namespace Opt

/-- The flags of an option. -/
def flags : Opt → List String
  | .help => ["-h", "--help"]
  | .config => ["-c", "--config"]
  | .output => ["-o", "--output"]
  | .scopedir => ["-s", "--scopedir"]
  | .vsntag => ["-v", "--vsntag"]
  | .interpreter => ["-int", "--interpreter"]
  | .converter => ["-con", "--converter"]
  | .verbose => ["--verbose"]

/-- The option has a value. -/
def takesValue : Opt → Bool
  | .help => false
  | .verbose => false
  | _ => true

/-- What an option is called in messages. -/
def label (o : Opt) : String := "/".intercalate o.flags

/-- All options. -/
def all : List Opt :=
  [.help, .config, .output, .scopedir, .vsntag, .interpreter, .converter, .verbose]

end Opt

/-- All flags with their options. -/
def allFlags : List (String × Opt) := Opt.all.flatMap fun o => o.flags.map fun f => (f, o)

/-- The option of a flag. -/
def flag? (s : String) : Option Opt := (allFlags.find? fun p => p.1 == s).map (·.2)

/-! ### Errors -/

/-- Why arguments are refused. -/
inductive UsageError where
  /-- A flag that is cut short can be several. -/
  | ambiguous (argument : String) (flags : List String)
  /-- The value of an option is missing. -/
  | noValue (o : Opt)
  /-- An option that has no value is given one. -/
  | surplusValue (o : Opt) (value : String)
  /-- Some arguments are neither options nor the pattern. -/
  | unrecognized (arguments : List String)
  deriving DecidableEq, Repr

/-- The text of an error. -/
def UsageError.message : UsageError → String
  | .ambiguous argument flags =>
    "ambiguous option: " ++ argument ++ " could match " ++ ", ".intercalate flags
  | .noValue o => "argument " ++ o.label ++ ": expected one argument"
  | .surplusValue o value =>
    "argument " ++ o.label ++ ": ignored explicit argument " ++ Quoted.ofText value
  | .unrecognized arguments => "unrecognized arguments: " ++ " ".intercalate arguments

/-! ### Arguments -/

/-- A value in the same argument as its flag, behind an equals sign or not. -/
structure Attached where
  equals : Bool
  value : String
  deriving DecidableEq, Repr

/-- What an argument looks like. -/
inductive Shape where
  /-- A value, or the pattern. -/
  | plain
  /-- Two hyphens alone. -/
  | separator
  /-- An option. -/
  | option (o : Opt) (flag : String) (attached : Option Attached)
  /-- Something that looks like an option, but is none. -/
  | unknown
  deriving DecidableEq, Repr

/-- A text up to its first equals sign, and what follows the sign. -/
def splitEquals (s : String) : String × Option String :=
  match Pieces.cutAt? ['='] s.toList with
  | some (a, b) => (String.ofList a, some (String.ofList b))
  | none => (s, none)

/-- Every character is a digit. -/
def areDigits (s : List Char) : Bool := s.all Unicode.isDecimal

/-- A text without the newline at its end. -/
def dropLastNewline (s : List Char) : List Char :=
  match s.reverse with
  | '\n' :: r => r.reverse
  | _ => s

/-- A negative number: a hyphen and digits, which may have a point before the last. -/
def isNegativeNumber (s : List Char) : Bool :=
  match dropLastNewline s with
  | '-' :: r =>
    match Pieces.cutAt? ['.'] r with
    | some (a, b) => areDigits a && areDigits b && !b.isEmpty
    | none => areDigits r && !r.isEmpty
  | _ => false

/-- The long flags that an argument can be short for. -/
def longMatches (s : String) : List (String × Shape) :=
  let (lead, value) := splitEquals s
  allFlags.filterMap fun (f, o) =>
    if lead.toList.isPrefixOf f.toList then some (f, .option o f (value.map fun v => ⟨true, v⟩))
    else none

/-- The flags that an argument of one hyphen can be short for, or can have a value
behind. -/
def shortMatches (s : String) : List (String × Shape) :=
  let letter := String.ofList (s.toList.take 2)
  let rest := String.ofList (s.toList.drop 2)
  allFlags.filterMap fun (f, o) =>
    if f == letter then some (f, .option o f (some ⟨false, rest⟩))
    else if s.toList.isPrefixOf f.toList then some (f, .option o f none)
    else none

/-- The flags that an argument of two characters at least can stand for. -/
def flagMatches (s : String) : List (String × Shape) :=
  match s.toList with
  | '-' :: '-' :: _ => longMatches s
  | _ => shortMatches s

/-- The shape of an argument that is no flag as it stands. -/
def inexactShape (s : String) : Except UsageError Shape :=
  match flagMatches s with
  | [(_, shape)] => .ok shape
  | [] =>
    if isNegativeNumber s.toList || s.toList.contains ' ' then .ok .plain else .ok .unknown
  | ms => .error (.ambiguous s (ms.map (·.1)))

/-- The shape of an argument that starts with a hyphen and goes on. -/
def hyphenShape (s : String) : Except UsageError Shape :=
  match flag? s with
  | some o => .ok (.option o s none)
  | none =>
    match splitEquals s with
    | (f, some v) =>
      match flag? f with
      | some o => .ok (.option o f (some ⟨true, v⟩))
      | none => inexactShape s
    | (_, none) => inexactShape s

/-- The shape of an argument before two hyphens alone. -/
def shapeOf (s : String) : Except UsageError Shape :=
  match s.toList with
  | '-' :: _ :: _ => hyphenShape s
  | _ => .ok .plain

/-- An argument and its shape. -/
abbrev Argument := String × Shape

/-- Arguments with their shapes. -/
def shapes : List String → Except UsageError (List Argument)
  | [] => .ok []
  | s :: r =>
    if s = "--" then .ok ((s, .separator) :: r.map fun t => (t, .plain))
    else do
      let shape ← shapeOf s
      pure ((s, shape) :: (← shapes r))

/-! ### Taking effect -/

/-- The options of a call. -/
structure Options where
  glob : Option String := none
  config : Option String := none
  output : Option String := none
  scopedir : Option String := none
  vsntag : Option String := none
  interpreter : Option String := none
  converter : Option String := none
  verbose : Bool := false
  deriving DecidableEq, Repr

/-- Why the reading of arguments ends without options. -/
inductive Stop where
  | help
  | usage (e : UsageError)
  deriving DecidableEq, Repr

/-- Options after one more has taken effect. -/
def Options.apply (os : Options) (o : Opt) (value : String) : Except Stop Options :=
  match o with
  | .help => .error .help
  | .config => .ok { os with config := some value }
  | .output => .ok { os with output := some value }
  | .scopedir => .ok { os with scopedir := some value }
  | .vsntag => .ok { os with vsntag := some value }
  | .interpreter => .ok { os with interpreter := some value }
  | .converter => .ok { os with converter := some value }
  | .verbose => .ok { os with verbose := true }

/-- What has been read of the arguments: options, and arguments that are not recognized. -/
structure Reading where
  options : Options := {}
  surplus : List String := []
  deriving DecidableEq, Repr

/-- A reading after an option has taken effect. -/
def Reading.apply (r : Reading) (o : Opt) (value : String) : Except Stop Reading := do
  pure { r with options := ← r.options.apply o value }

/-- A reading with an argument that is not recognized. -/
def Reading.leave (r : Reading) (s : String) : Reading := { r with surplus := r.surplus ++ [s] }

/-- An option without a value in its argument, and what follows it.  A value is in the
next argument. -/
def readNext (r : Reading) (o : Opt) (rest : List Argument) :
    Except Stop (Reading × List Argument) :=
  if o.takesValue then
    match rest with
    | (value, .plain) :: more => do pure (← r.apply o value, more)
    | _ => .error (.usage (.noValue o))
  else do pure (← r.apply o "", rest)

/-- What follows the letter of a flag, as the value of the next letter. -/
def attachedRest : List Char → Option Attached
  | [] => none
  | '=' :: r => some ⟨true, String.ofList r⟩
  | r => some ⟨false, String.ofList r⟩

/-- Options whose letters are in one argument, up to one that has a value.  Those that
have none take effect only when the argument has been read to its end: `waiting` are
those so far. -/
def readLetters (r : Reading) (rest : List Argument) :
    Nat → List Opt → Opt → String → Option Attached → Except Stop (Reading × List Argument)
  | 0, _, _, _, _ => .ok (r, rest)
  | fuel + 1, waiting, o, flag, attached =>
    let first := waiting.foldlM (fun (r : Reading) o => r.apply o "") r
    match attached with
    | none =>
      if o.takesValue && !(rest matches (_, .plain) :: _) then .error (.usage (.noValue o))
      else do readNext (← first) o rest
    | some a =>
      if o.takesValue then do pure (← (← first).apply o a.value, rest)
      else
        match a.value.toList with
        | [] => .error (.usage (.surplusValue o a.value))
        | c :: more =>
          if flag.toList.take 2 == ['-', '-'] || a.equals || c == '-' then
            .error (.usage (.surplusValue o a.value))
          else
            let letter := String.ofList ['-', c]
            match flag? letter with
            | some next => readLetters r rest fuel (waiting ++ [o]) next letter (attachedRest more)
            | none => do
              let done ← (waiting ++ [o]).foldlM (fun (r : Reading) o => r.apply o "")
                (r.leave ("-" ++ a.value))
              pure (done, rest)

/-- The arguments still hold something that looks like an option. -/
def holdOption (as : List Argument) : Bool :=
  as.any fun a =>
    match a.2 with
    | .option _ _ _ => true
    | .unknown => true
    | _ => false

/-- The pattern among arguments that hold no option, and those that are left.  It may
have two hyphens before or after it. -/
def patternOf : List Argument → Option String × List String
  | (_, .separator) :: (s, _) :: r => (some s, r.map (·.1))
  | (_, .separator) :: [] => (none, [])
  | (s, _) :: (_, .separator) :: r => (some s, r.map (·.1))
  | (s, _) :: r => (some s, r.map (·.1))
  | [] => (none, [])

/-- Reads the arguments that are left when no option is. -/
def readLast (r : Reading) (as : List Argument) : Reading :=
  match r.options.glob with
  | some _ => { r with surplus := r.surplus ++ as.map (·.1) }
  | none =>
    let (pattern, rest) := patternOf as
    { options := { r.options with glob := pattern }, surplus := r.surplus ++ rest }

/-- Reads an argument before the last option that is none itself: the pattern, if there
is none yet. -/
def readPlain (r : Reading) (s : String) : Reading :=
  match r.options.glob with
  | some _ => r.leave s
  | none => { r with options := { r.options with glob := some s } }

/-- Reads arguments.  Every step takes one at least, so one more than there are is fuel
enough. -/
def readFrom : Nat → List Argument → Reading → Except Stop Reading
  | 0, _, r => .ok r
  | fuel + 1, as, r =>
    if !holdOption as then .ok (readLast r as)
    else
      match as with
      | [] => .ok r
      | (s, .unknown) :: rest => readFrom fuel rest (r.leave s)
      | (s, .option o flag attached) :: rest => do
        let (next, rest) ← readLetters r rest (s.length + 1) [] o flag attached
        readFrom fuel rest next
      | (s, _) :: rest => readFrom fuel rest (readPlain r s)

/-- The options that arguments make up. -/
def Options.ofArguments (arguments : List String) : Except Stop Options := do
  let as ← (shapes arguments).mapError .usage
  let r ← readFrom (as.length + 1) as {}
  if r.surplus.isEmpty then pure r.options else throw (.usage (.unrecognized r.surplus))

end TermRef.Command
