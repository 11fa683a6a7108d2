/-
TermRef/Yaml/Token.lean

The tokens of a YAML document, and what can be wrong with one.

Layout is made explicit: where a block sequence or mapping begins and ends by
indentation there is a token for it, and a key that is only recognised by the
colon after it gets its token in front.

All ways of not being YAML are one fault.  The others concern documents that are
YAML but ask for a value that does not exist, such as a truth value by the name
of "maybe".  With two of them the value is only missing here: a text holds no half
of a surrogate pair, and a collection does not contain itself.
-/
namespace TermRef.Yaml

/-- What is wrong with a document. -/
inductive Fault where
  /-- It is not YAML, or a construction in it has no meaning. -/
  | malformed
  /-- An escape asks for a code point beyond the last; `huge` says that the number
  does not fit a machine word either. -/
  | codePoint (huge : Bool)
  /-- An escape asks for half of a surrogate pair, which is no character. -/
  | halfPair
  /-- A collection stands inside itself. -/
  | selfContained
  /-- No truth value has this name. -/
  | truthName (word : String)
  /-- A text is no whole number of the base. -/
  | wholeNumber (base : Nat) (text : String)
  /-- A whole number is written with more decimal digits than are read. -/
  | tooManyDigits (count : Nat)
  /-- A text is no number. -/
  | number (text : String)
  /-- A number to base sixty has too many places. -/
  | tooManyPlaces
  /-- A number is written with no character at all. -/
  | emptyNumber
  /-- A text is no date. -/
  | notADate
  /-- A date is out of range in the way that the text says. -/
  | dateRange (message : String)
  deriving DecidableEq, Repr

/-- A directive at the start of a document. -/
inductive Directive where
  | version (major minor : Nat)
  | tag (handle lead : String)
  | other
  deriving DecidableEq, Repr

/-- A token. -/
inductive Token where
  | streamEnd
  | directive (d : Directive)
  | documentStart
  | documentEnd
  | blockSequenceStart
  | blockMappingStart
  | blockEnd
  | flowSequenceStart
  | flowSequenceEnd
  | flowMappingStart
  | flowMappingEnd
  | blockEntry
  | flowEntry
  | key
  | value
  | alias (name : String)
  | anchor (name : String)
  /-- A tag; without a handle it is the whole tag. -/
  | tag (handle : Option String) (rest : String)
  /-- A scalar; a plain one stands without quotes. -/
  | scalar (text : String) (plain : Bool)
  deriving DecidableEq, Repr

end TermRef.Yaml
