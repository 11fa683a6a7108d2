/-
TermRef/Text/Utf8.lean

UTF-8: characters to bytes, bytes to characters, and what is wrong with bytes
that are no UTF-8.

A character takes one to four bytes.  `next` reads one character off the
front of a byte list; when it cannot, it says how many bytes belong to the
broken sequence and which of three things is wrong: the first byte starts no
sequence, a later byte does not continue it, or the data ends inside it.
`decode` reads a whole text and gives the position of the first fault;
`decodeChunked` reads it in chunks, where a fault is located from the start of
the chunk it is found in together with the bytes carried over into it.
-/
namespace TermRef.Utf8

/-! ### From characters to bytes -/

/-- The bytes of the character with code point `n`. -/
def encodeNat (n : Nat) : List UInt8 :=
  if n < 0x80 then [n.toUInt8]
  else if n < 0x800 then [(0xc0 + n / 64).toUInt8, (0x80 + n % 64).toUInt8]
  else if n < 0x10000 then
    [(0xe0 + n / 4096).toUInt8, (0x80 + n / 64 % 64).toUInt8, (0x80 + n % 64).toUInt8]
  else
    [(0xf0 + n / 262144).toUInt8, (0x80 + n / 4096 % 64).toUInt8,
      (0x80 + n / 64 % 64).toUInt8, (0x80 + n % 64).toUInt8]

/-- The bytes of a character. -/
def encodeChar (c : Char) : List UInt8 := encodeNat c.toNat

/-- The bytes of a text. -/
def encode (s : List Char) : List UInt8 := s.flatMap encodeChar

/-! ### From bytes to characters -/

/-- What can be wrong with a sequence of bytes. -/
inductive Reason where
  /-- No sequence starts with this byte. -/
  | start
  /-- A sequence is not continued as its start asks. -/
  | continuation
  /-- The data ends inside a sequence. -/
  | truncated
  deriving DecidableEq, Repr

/-- What one step of reading gives: a character, the number of bytes it took
and the rest, or a fault that spans a number of bytes. -/
inductive Step where
  | char (c : Char) (width : Nat) (rest : List UInt8)
  | fault (width : Nat) (reason : Reason)

/-- The byte continues a sequence. -/
def isTail (b : UInt8) : Bool := 0x80 ≤ b && b ≤ 0xbf

/-- The low six bits of a continuing byte. -/
def tailBits (b : UInt8) : Nat := b.toNat % 64

/-- The least and the greatest byte that may follow the lead byte `a` of a
sequence of three or four: what is outside would be an overlong form, a
surrogate or a code point beyond the last. -/
def secondBounds (a : UInt8) : UInt8 × UInt8 :=
  if a == 0xe0 then (0xa0, 0xbf)
  else if a == 0xed then (0x80, 0x9f)
  else if a == 0xf0 then (0x90, 0xbf)
  else if a == 0xf4 then (0x80, 0x8f)
  else (0x80, 0xbf)

/-- `b` may stand second after `a`. -/
def isSecond (a b : UInt8) : Bool := (secondBounds a).1 ≤ b && b ≤ (secondBounds a).2

/-- Reads the bytes after a lead byte `a` of a sequence of two. -/
def readTwo (a : UInt8) : List UInt8 → Step
  | [] => .fault 1 .truncated
  | b :: r =>
    if isTail b then .char (Char.ofNat (a.toNat % 32 * 64 + tailBits b)) 2 r
    else .fault 1 .continuation

/-- Reads the bytes after a lead byte `a` of a sequence of three. -/
def readThree (a : UInt8) : List UInt8 → Step
  | [] => .fault 1 .truncated
  | [b] => if isSecond a b then .fault 2 .truncated else .fault 1 .continuation
  | b :: c :: r =>
    if !isSecond a b then .fault 1 .continuation
    else if !isTail c then .fault 2 .continuation
    else .char (Char.ofNat (a.toNat % 16 * 4096 + tailBits b * 64 + tailBits c)) 3 r

/-- Reads the bytes after a lead byte `a` of a sequence of four. -/
def readFour (a : UInt8) : List UInt8 → Step
  | [] => .fault 1 .truncated
  | [b] => if isSecond a b then .fault 2 .truncated else .fault 1 .continuation
  | [b, c] =>
    if !isSecond a b then .fault 1 .continuation
    else if isTail c then .fault 3 .truncated else .fault 2 .continuation
  | b :: c :: d :: r =>
    if !isSecond a b then .fault 1 .continuation
    else if !isTail c then .fault 2 .continuation
    else if !isTail d then .fault 3 .continuation
    else .char (Char.ofNat
      (a.toNat % 8 * 262144 + tailBits b * 4096 + tailBits c * 64 + tailBits d)) 4 r

/-- Reads one character that starts with the byte `a`. -/
def next (a : UInt8) (r : List UInt8) : Step :=
  if a < 0x80 then .char (Char.ofNat a.toNat) 1 r
  else if a < 0xc2 then .fault 1 .start
  else if a < 0xe0 then readTwo a r
  else if a < 0xf0 then readThree a r
  else if a < 0xf5 then readFour a r
  else .fault 1 .start

/-- A fault located in a text: the position and number of the bytes of the
broken sequence, and the first of them. -/
structure Fault where
  position : Nat
  width : Nat
  byte : UInt8
  reason : Reason
  deriving DecidableEq, Repr

/-- Reads characters from position `n` on until the bytes end or a fault is
met: the characters read, latest first, and the fault with the bytes from it
on.  Every step takes a byte, so the number of bytes is fuel enough. -/
def readFrom : Nat → Nat → List UInt8 → List Char → List Char × Option (Fault × List UInt8)
  | 0, _, _, done => (done, none)
  | _, _, [], done => (done, none)
  | f + 1, n, a :: r, done =>
    match next a r with
    | .char c w rest => readFrom f (n + w) rest (c :: done)
    | .fault w reason => (done, some (⟨n, w, a, reason⟩, a :: r))

/-- The text that the bytes denote, or the first fault in them. -/
def decode (bytes : List UInt8) : Except Fault (List Char) :=
  match readFrom bytes.length 0 bytes [] with
  | (done, none) => .ok done.reverse
  | (_, some (fault, _)) => .error fault

/-! ### Reading in chunks -/

/-- Reads the bytes `size` at a time.  `left` are the bytes of an unfinished
sequence at the end of the chunk before; an unfinished sequence is a fault only
when no chunk follows. -/
def readChunks (size : Nat) :
    Nat → List UInt8 → List UInt8 → List Char → Except Fault (List Char)
  | 0, _, _, done => .ok done.reverse
  | f + 1, left, bytes, done =>
    let data := left ++ bytes.take size
    match readFrom data.length 0 data done with
    | (done, none) => if bytes.isEmpty then .ok done.reverse else
        readChunks size f [] (bytes.drop size) done
    | (done, some (fault, rest)) =>
      if fault.reason = .truncated ∧ !bytes.isEmpty then
        readChunks size f rest (bytes.drop size) done
      else .error fault

/-- The text that the bytes denote when they are read in chunks of `size`
bytes, or the first fault, located from the start of what its chunk and the
bytes carried over into it hold. -/
def decodeChunked (size : Nat) (bytes : List UInt8) : Except Fault (List Char) :=
  readChunks size (bytes.length + 2) [] bytes []

/-! ### Messages -/

/-- A hexadecimal digit, in lower case. -/
def hexDigit (n : Nat) : Char := (Nat.toDigits 16 (n % 16)).headD '0'

/-- A number below 256 as two hexadecimal digits. -/
def hexByte (n : Nat) : String := String.ofList [hexDigit (n / 16), hexDigit n]

/-- The reason in words. -/
def Reason.text : Reason → String
  | .start => "invalid start byte"
  | .continuation => "invalid continuation byte"
  | .truncated => "unexpected end of data"

/-- The message for a fault. -/
def Fault.message (f : Fault) : String :=
  let place :=
    if f.width = 1 then s!"byte 0x{hexByte f.byte.toNat} in position {f.position}"
    else s!"bytes in position {f.position}-{f.position + f.width - 1}"
  "'utf-8' codec can't decode " ++ place ++ ": " ++ f.reason.text

end TermRef.Utf8
