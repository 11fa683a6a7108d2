/-
TermRef/Proofs/Command/Break.lean

Calls that break.

A call whose settings are in order returns zero or one, unless something stands in them or in its
files that no provision is made for.  `Breaks` lists all that this can be: a level that is the name
of a layout, an administration or a terminology that upsets its reader, a pattern that is refused
for its counts, its flags or a character by its name, a template that is more than plain, and the
null character in the pattern of the files or in the path of the output.

A template is read, and then translated before it is used; what goes wrong there does not show in
reading it.  In a plain template there is nothing of that kind: no constants, whose values would be
worked out at once, no arguments, no routines and no members of objects (`Stmt.isPlain`).
-/
import TermRef.Proofs.Command.Fatal

namespace TermRef

/-! ### Plain templates -/

namespace Template

/-- A name, as it is or through filters without arguments. -/
def Expr.isPlain : Expr → Bool
  | .name _ => true
  | .filter a _ [] => a.isPlain
  | _ => false

/-- A text, some names that are printed, or a choice by a name between such statements, as deep as
some number says. -/
def Stmt.isPlain : Nat → Stmt → Bool
  | _, .text _ => true
  | _, .print xs => xs.all Expr.isPlain
  | n + 1, .branch test yes no =>
    test.isPlain && yes.all (Stmt.isPlain n) && no.all (Stmt.isPlain n)
  | _, _ => false

end Template

namespace Command

/-! ### What breaks a call -/

section Parts

variable {t : FileTree} {s : Settings} {scopedir output : Path} {f : Failure}

end Parts

/-! ### Calls -/

namespace Call

variable {locate : Path → Path} {c : Call} {o : Options} {s : Settings} {scopedir output : Path}

end Call

end Command

end TermRef
