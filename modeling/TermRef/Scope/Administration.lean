/-
TermRef/Scope/Administration.lean

The administration of a scope: what the scope is called, where its glossary is
kept, which scopes it knows and which versions of its terminology there are.

Entries beyond the ones named here are kept as they are.
-/
import TermRef.Value.Check

namespace TermRef

open Value Entries

/-! ### The scope itself -/

/-- A scope: its tag, the directory of its glossary and its website. -/
structure ScopeInfo where
  scopetag : String
  glossarydir : String
  website : String
  scopedir : Option String
  curatedir : Option String
  mrgfile : Option String
  extra : Entries

/-- The names of the entries of a scope. -/
def ScopeInfo.names : List String :=
  ["scopetag", "glossarydir", "website", "scopedir", "curatedir", "mrgfile"]

/-- A scope read from a mapping. -/
def ScopeInfo.ofEntries (es : Entries) : Checked ScopeInfo :=
  ScopeInfo.mk <$> es.required "scopetag" filledTag? <*>
    es.required "glossarydir" filled? <*>
    es.optional "website" "" text? <*>
    es.optional "scopedir" none (optional? text?) <*>
    es.optional "curatedir" none (optional? text?) <*>
    es.optional "mrgfile" none (optional? text?) <*>
    others names es

/-- A scope as a value. -/
def ScopeInfo.toValue (s : ScopeInfo) : Value :=
  .mapping ([
    (.text "scopetag", .text s.scopetag), (.text "glossarydir", .text s.glossarydir),
    (.text "website", .text s.website), (.text "scopedir", ofOption s.scopedir),
    (.text "curatedir", ofOption s.curatedir), (.text "mrgfile", ofOption s.mrgfile)] ++ s.extra)

/-! ### Scopes known -/

/-- A scope that is known by some tags. -/
structure ScopeRef where
  scopetags : List String
  scopedir : Option String
  extra : Entries

/-- A known scope read from a mapping. -/
def ScopeRef.ofEntries (es : Entries) : Checked ScopeRef :=
  ScopeRef.mk <$> es.optional "scopetags" [] tags? <*>
    es.optional "scopedir" none (optional? text?) <*>
    others ["scopetags", "scopedir"] es

/-- A known scope as a value. -/
def ScopeRef.toValue (s : ScopeRef) : Value :=
  .mapping ([(.text "scopetags", ofTexts s.scopetags), (.text "scopedir", ofOption s.scopedir)] ++
    s.extra)

/-! ### Versions -/

/-- A version of the terminology. -/
structure VersionInfo where
  vsntag : String
  mrgfile : Option String
  altvsntags : List String
  extra : Entries

/-- A version read from a mapping. -/
def VersionInfo.ofEntries (es : Entries) : Checked VersionInfo :=
  VersionInfo.mk <$> es.required "vsntag" tag? <*>
    es.optional "mrgfile" none (optional? text?) <*>
    es.optional "altvsntags" [] tags? <*>
    others ["vsntag", "mrgfile", "altvsntags"] es

/-- A version as a value. -/
def VersionInfo.toValue (s : VersionInfo) : Value :=
  .mapping ([(.text "vsntag", .text s.vsntag), (.text "mrgfile", ofOption s.mrgfile),
    (.text "altvsntags", ofTexts s.altvsntags)] ++ s.extra)

/-! ### The administration -/

/-- The administration of a scope. -/
structure ScopeAdmin where
  scope : ScopeInfo
  scopes : List ScopeRef
  versions : List VersionInfo
  extra : Entries

/-- The administration read from a mapping. -/
def ScopeAdmin.ofEntries (es : Entries) : Checked ScopeAdmin :=
  ScopeAdmin.mk <$> es.required "scope" (record? ScopeInfo.ofEntries) <*>
    es.optional "scopes" [] (fun v => v.nullAsList.list? (record? ScopeRef.ofEntries)) <*>
    es.optional "versions" [] (fun v => v.nullAsList.list? (record? VersionInfo.ofEntries)) <*>
    others ["scope", "scopes", "versions"] es

/-- The administration as a value. -/
def ScopeAdmin.toValue (s : ScopeAdmin) : Value :=
  .mapping ([(.text "scope", s.scope.toValue), (.text "scopes", .list (s.scopes.map ScopeRef.toValue)),
    (.text "versions", .list (s.versions.map VersionInfo.toValue))] ++ s.extra)

end TermRef
