/-
TermRef/Pattern/Syntax.lean

Patterns as trees.

`Node` is the syntax of a pattern after reading: sequences and alternatives are
binary, a repeated character set is a node of its own (`run`), every other
repetition is `rep`.  A `Pattern` is a tree with the names of its groups, in
the order of their numbers.
-/
import TermRef.Pattern.CharSet

namespace TermRef.Pattern

/-- Which number of repetitions is tried first, and whether another is tried
afterwards. -/
inductive Mode where
  /-- As many as possible first. -/
  | greedy
  /-- As few as possible first. -/
  | lazy
  /-- As many as possible, and no other number. -/
  | possessive
  deriving DecidableEq, Repr

/-- Conditions on a position that take no characters. -/
inductive Anchor where
  /-- The start of the text. -/
  | textStart
  /-- The start of a line. -/
  | lineStart
  /-- The end of the text. -/
  | textEnd
  /-- The end of the text, or before a newline that ends it. -/
  | lastLineEnd
  /-- The end of a line. -/
  | lineEnd
  /-- Between a word character and another, or not so. -/
  | boundary (ascii present : Bool)
  deriving DecidableEq, Repr

/-- The tree of a pattern. -/
inductive Node where
  | empty
  /-- One character of a set. -/
  | one (s : CharSet)
  /-- Characters of a set, from `lo` to `hi` of them. -/
  | run (mode : Mode) (lo : Nat) (hi : Option Nat) (s : CharSet)
  | anchor (a : Anchor)
  | seq (a b : Node)
  | alt (a b : Node)
  /-- A numbered group, whose text is kept. -/
  | group (i : Nat) (a : Node)
  /-- The text of a group once more. -/
  | again (i : Nat) (fold : Fold)
  /-- One of two, according to whether a group has taken part. -/
  | ifGroup (i : Nat) (yes no : Node)
  /-- A condition on what follows, or on the `back` characters before. -/
  | look (back : Option Nat) (present : Bool) (a : Node)
  /-- The first way to match, and no other. -/
  | atomic (a : Node)
  /-- A repetition, from `lo` to `hi` times. -/
  | rep (mode : Mode) (lo : Nat) (hi : Option Nat) (a : Node)
  deriving Repr

/-- One given character. -/
def Node.char (c : Char) : Node := .one (.single c)

/-- Nodes one after the other. -/
def Node.chain : List Node → Node
  | [] => .empty
  | [a] => a
  | a :: r => .seq a (Node.chain r)

/-- Something that may be absent. -/
def Node.optional (a : Node) : Node := .rep .greedy 0 (some 1) a

end TermRef.Pattern

namespace TermRef

/-- A pattern: its tree and the names of its groups with their numbers. -/
structure Pattern where
  root : Pattern.Node
  names : List (String × Nat)
  deriving Repr

end TermRef
