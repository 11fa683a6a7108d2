/-
TermRef/Glossary/Terminology.lean

A terminology: one version of the terms of a scope, as a file holds it.

The entries of a terminology are not checked when it is read: each is checked on
its own when a glossary takes it over, so that one bad entry spoils no other.
-/
import TermRef.Scope.Administration

namespace TermRef

open Value Entries

/-- What a terminology is: its scope, its version and other names of the version. -/
structure TerminologyInfo where
  scopetag : Option String
  scopedir : Option String
  curatedir : Option String
  vsntag : Option String
  altvsntags : List String
  extra : Entries

/-- What a terminology is, read from a mapping. -/
def TerminologyInfo.ofEntries (es : Entries) : Checked TerminologyInfo :=
  TerminologyInfo.mk <$> es.optional "scopetag" none (optional? tag?) <*>
    es.optional "scopedir" none (optional? text?) <*>
    es.optional "curatedir" none (optional? text?) <*>
    es.optional "vsntag" none (optional? tag?) <*>
    es.optional "altvsntags" [] tags? <*>
    others ["scopetag", "scopedir", "curatedir", "vsntag", "altvsntags"] es

/-- What a terminology is, as a value. -/
def TerminologyInfo.toValue (t : TerminologyInfo) : Value :=
  .mapping ([(.text "scopetag", ofOption t.scopetag), (.text "scopedir", ofOption t.scopedir),
    (.text "curatedir", ofOption t.curatedir), (.text "vsntag", ofOption t.vsntag),
    (.text "altvsntags", ofTexts t.altvsntags)] ++ t.extra)

/-- What a terminology is when nothing is said about it. -/
def TerminologyInfo.unknown : TerminologyInfo := ⟨none, none, none, none, [], []⟩

/-- A terminology. -/
structure Terminology where
  info : TerminologyInfo
  scopes : List ScopeRef
  entries : List Value
  extra : Entries

/-- Nothing is replaced by the empty mapping. -/
def Value.nullAsMapping : Value → Value
  | .null => .mapping []
  | v => v

/-- A terminology read from a mapping. -/
def Terminology.ofEntries (es : Entries) : Checked Terminology :=
  Terminology.mk <$>
    es.optional "terminology" .unknown (fun v => v.nullAsMapping.record? TerminologyInfo.ofEntries) <*>
    es.optional "scopes" [] (fun v => v.nullAsList.list? (record? ScopeRef.ofEntries)) <*>
    es.optional "entries" [] (fun v => v.nullAsList.list? .good) <*>
    others ["terminology", "scopes", "entries"] es

/-- A terminology as a value. -/
def Terminology.toValue (t : Terminology) : Value :=
  .mapping ([(.text "terminology", t.info.toValue),
    (.text "scopes", .list (t.scopes.map ScopeRef.toValue)), (.text "entries", .list t.entries)] ++
    t.extra)

end TermRef
