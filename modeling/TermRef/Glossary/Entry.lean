/-
TermRef/Glossary/Entry.lean

Entries of a glossary.

An entry says what a term of a scope means in a version of its terminology, and
where to read about it.  Two of its parts have a name in files and another one
that is accepted as well.  Entries beyond the ones named here are kept as they
are, so that templates can use them.
-/
import TermRef.Value.Check
import TermRef.Unicode.Blank

namespace TermRef

open Value Entries

/-- An entry of a glossary. -/
structure Entry where
  term : String
  vsntag : String
  scopetag : String
  locator : String
  glossaryText : String
  formPhrases : Option String
  navurl : Option String
  headingids : List String
  altvsntags : List String
  extra : Entries

namespace Entry

/-! ### Required parts -/

/-- The parts that an entry cannot do without. -/
def requiredNames : List String := ["term", "vsntag", "scopetag", "locator", "glossaryText"]

/-- Nothing, or a text of blanks. -/
def isVoid : Option Value → Bool
  | none => true
  | some .null => true
  | some (.text s) => Unicode.isBlankText s.toList
  | some _ => false

/-- The required parts that a mapping has nothing for. -/
def missing (es : Entries) : List String := requiredNames.filter fun n => isVoid (es.field? n)

/-! ### Reading and writing -/

/-- The name under which a mapping has the explanation. -/
def textName (es : Entries) : String := es.nameOf "glossaryText" "glossary_text"

/-- The name under which a mapping has the further forms. -/
def phrasesName (es : Entries) : String := es.nameOf "formPhrases" "form_phrases"

/-- The names of the entries that make up an entry of the glossary. -/
def names (es : Entries) : List String :=
  ["term", "vsntag", "scopetag", "locator", textName es, phrasesName es, "navurl", "headingids",
    "altvsntags"]

/-- An entry read from a mapping. -/
def ofEntries (es : Entries) : Checked Entry :=
  Entry.mk <$> es.required "term" tag? <*>
    es.required "vsntag" tag? <*>
    es.required "scopetag" tag? <*>
    es.required "locator" tag? <*>
    es.required (textName es) text? <*>
    es.optional (phrasesName es) none (optional? text?) <*>
    es.optional "navurl" none (optional? text?) <*>
    es.optional "headingids" [] tags? <*>
    es.optional "altvsntags" [] tags? <*>
    others (names es) es

/-- The fields of an entry, as templates see them. -/
def fields (e : Entry) : Entries :=
  [(.text "term", .text e.term), (.text "vsntag", .text e.vsntag),
    (.text "scopetag", .text e.scopetag), (.text "locator", .text e.locator),
    (.text "glossaryText", .text e.glossaryText), (.text "formPhrases", ofOption e.formPhrases),
    (.text "navurl", ofOption e.navurl), (.text "headingids", ofTexts e.headingids),
    (.text "altvsntags", ofTexts e.altvsntags)] ++ e.extra

/-- An entry as a value. -/
def toValue (e : Entry) : Value := .mapping e.fields

end Entry

end TermRef
