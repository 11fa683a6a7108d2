/-
TermRef/Proofs/Link/Anchor.lean

What the styles for web pages render.

Their templates put an anchor around the words of a reference; the one with explanations
gives it the explanation of the term as a title.  Words, address and explanation are put in as
they are, so nothing keeps them from holding brackets, quotes or references of their own.
What is certain is how a rendering begins and ends, in these styles as in plain markup: it
begins with a bracket of some kind, and it ends with one that escapes nothing (`Fenced`).
-/
import TermRef.Proofs.Link.Markdown
import TermRef.Reference.Scan

namespace TermRef

namespace Template.Render

variable {call : Caller} {st : Store} {fs : Fields}

/-- The template for web pages puts an anchor around the words. -/
theorem puts_httpBody (h : Sees st fs) :
    Puts call st LinkStyle.httpBody (fs.haveTexts ["navurl", "trait", "showtext"])
      ("<a href=\"" ++ fs.address ++ "\">" ++ fs.shown "showtext" ++ "</a>") := by
  have hbody : Puts call st _ _ _ := .text "<a href=\"" <|
    .field h (n := "navurl") (by decide) rfl <| .trait h <| .text "\">" <|
    .field h (n := "showtext") (by decide) rfl <| .text "</a>" <| .nil call st
  simpa [LinkStyle.httpBody, Fields.address, Fields.haveTexts, String.append_assoc] using hbody

/-- The template with explanations gives the anchor a title. -/
theorem puts_essifBody (h : Sees st fs) :
    Puts call st LinkStyle.essifBody
      (fs.haveTexts ["navurl", "trait", "glossaryText", "showtext"])
      ("<a href=\"" ++ fs.address ++ "\" title=\"" ++ fs.shown "glossaryText" ++ "\">" ++
        fs.shown "showtext" ++ "</a>") := by
  have hbody : Puts call st _ _ _ := .text "<a href=\"" <|
    .field h (n := "navurl") (by decide) rfl <| .trait h <| .text "\" title=\"" <|
    .field h (n := "glossaryText") (by decide) rfl <| .text "\">" <|
    .field h (n := "showtext") (by decide) rfl <| .text "</a>" <| .nil call st
  simpa [LinkStyle.essifBody, Fields.address, Fields.haveTexts, String.append_assoc] using hbody

end Template.Render

/-! ### How renderings begin and end -/

/-- The text begins with a bracket, square or pointed, and ends in what escapes nothing. -/
def Fenced (l : List Char) : Prop :=
  ∃ b m z, l = b :: (m ++ [z]) ∧ (b = '[' ∨ b = '<') ∧ isEscape z = false

theorem Fenced.ne_nil {l : List Char} (h : Fenced l) : l ≠ [] := by
  obtain ⟨b, m, z, rfl, -⟩ := h
  simp

end TermRef
