/-
TermRef/Text/Slug.lean

The identifier of a term, derived from the words that show it.

In lower case, without apostrophes and parentheses, every run of other
characters than `a`-`z`, `0`-`9`, `_` and `-` becomes one hyphen, and hyphens
at the ends go: "Driver's License (EU)" gives "drivers-license-eu".
-/
import TermRef.Unicode.Case

namespace TermRef.Slug

/-- The characters of an identifier. -/
def isSlugChar (c : Char) : Bool := c.isLower || c.isDigit || c == '_' || c == '-'

/-- Apostrophes and parentheses, which leave no trace in an identifier. -/
def isSilent (c : Char) : Bool := c == '\'' || c == '\u2019' || c == '(' || c == ')'

/-- Every run of characters outside the alphabet becomes one hyphen; `run` says
that the character before belonged to such a run. -/
def hyphenate (run : Bool) : List Char → List Char
  | [] => []
  | c :: r =>
    if isSlugChar c then c :: hyphenate false r
    else if run then hyphenate true r
    else '-' :: hyphenate true r

/-- Text without the hyphens at its ends. -/
def trimHyphens (s : List Char) : List Char :=
  ((s.dropWhile (· == '-')).reverse.dropWhile (· == '-')).reverse

/-- The identifier derived from shown characters. -/
def ofChars (s : List Char) : List Char :=
  trimHyphens (hyphenate false ((Unicode.lower s).filter fun c => !isSilent c))

/-- The identifier derived from shown text. -/
def ofText (s : String) : String := String.ofList (ofChars s.toList)

end TermRef.Slug
