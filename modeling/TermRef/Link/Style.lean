/-
TermRef/Link/Style.lean

The styles of links: templates for what replaces a reference.

Four styles have names; any other text is a template of its own.  A link shows the
words of the reference and leads to the address of the entry, with the trait behind a
hash if there is one.
-/
import TermRef.Template.Check

namespace TermRef

/-- The named styles, and those written as a template. -/
inductive LinkKind where
  | standard
  | markdown
  | http
  | essif
  | custom
  deriving DecidableEq, Repr

/-- The name of a kind of style. -/
def LinkKind.name : LinkKind → String
  | .standard => "default"
  | .markdown => "markdown"
  | .http => "http"
  | .essif => "essif"
  | .custom => "custom"

/-- A style of links. -/
structure LinkStyle where
  kind : LinkKind
  template : Template

namespace LinkStyle

open Template

/-! ### Named styles -/

/-- Puts out the value of a name. -/
def show_ (name : String) : Stmt := .print [.name name]

/-- Puts out the trait behind a hash, if there is one. -/
def traitSuffix : Stmt := .branch (.name "trait") [.text "#", show_ "trait"] []

/-- The words shown in square brackets, the address in round ones. -/
def markdownBody : List Stmt :=
  [.text "[", show_ "showtext", .text "](", show_ "navurl", traitSuffix, .text ")"]

/-- An anchor around the words shown. -/
def httpBody : List Stmt :=
  [.text "<a href=\"", show_ "navurl", traitSuffix, .text "\">", show_ "showtext", .text "</a>"]

/-- An anchor that has the explanation of the term as its title. -/
def essifBody : List Stmt :=
  [.text "<a href=\"", show_ "navurl", traitSuffix, .text "\" title=\"", show_ "glossaryText",
    .text "\">", show_ "showtext", .text "</a>"]

/-- The standard style. -/
def standard : LinkStyle := ⟨.standard, ⟨markdownBody⟩⟩

/-- The style for documents in plain markup. -/
def markdown : LinkStyle := ⟨.markdown, ⟨markdownBody⟩⟩

/-- The style for web pages. -/
def http : LinkStyle := ⟨.http, ⟨httpBody⟩⟩

/-- The style for web pages with explanations. -/
def essif : LinkStyle := ⟨.essif, ⟨essifBody⟩⟩

/-- The named styles. -/
def named : List LinkStyle := [standard, markdown, http, essif]

/-! ### Styles by their text -/

/-- Why a text is no style. -/
inductive Error where
  /-- It is neither a name nor a template. -/
  | malformed (source : String)
  deriving DecidableEq, Repr

/-- The text of the error.  What exactly is wrong with a template is left open. -/
def Error.message : Error → String
  | .malformed source => "Invalid template " ++ Quoted.ofText source ++ ": <detail>"

/-- The style that a text names, in any case, or the template it writes. -/
def ofText (source : String) : Except Error LinkStyle :=
  let key := String.ofList (Unicode.lower source.toList)
  match named.find? fun s => s.kind.name == key with
  | some s => .ok s
  | none =>
    match Template.ofText source with
    | .ok t => .ok ⟨.custom, t⟩
    | .error _ => .error (.malformed source)

end LinkStyle

end TermRef
