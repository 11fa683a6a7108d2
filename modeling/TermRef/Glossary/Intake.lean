/-
TermRef/Glossary/Intake.lean

Taking a terminology over into a glossary.

Each entry of the terminology is looked at on its own.  It is dropped, with a warning,
if it is no mapping, if something required is missing, or if a part of it is not what
it should be.  Otherwise it enters the glossary, with the address of its page resolved
against the website of the scope and with the other version names of the terminology,
and after it come the entries for the further forms of its term.

An entry is refused if its address is malformed, and if its address, or its term in the
warning, is a number too long to be written.  No provision is made for that.
-/
import TermRef.Glossary.Index
import TermRef.Glossary.Phrases
import TermRef.Url.Join
import TermRef.Journal

namespace TermRef

/-! ### One entry -/

/-- What becomes of an entry of a terminology. -/
inductive Admission where
  | admitted (e : Entry)
  | dropped (why : String)
  | refused (m : Mishap)

namespace Admission

/-- What an entry is called in messages: its term, if that has a text, or its number. -/
def label? (number : Nat) (es : Entries) : Option String :=
  match es.field? "term" with
  | some v => if v.isTrue then v.shown? else some ("#" ++ toString number)
  | none => some ("#" ++ toString number)

/-- An entry is dropped, with a warning that names it. -/
def dropping (number : Nat) (es : Entries) (why : String) : Admission :=
  match label? number es with
  | some l => .dropped ("Entry '" ++ l ++ "' dropped, " ++ why)
  | none => .refused .tooLong

/-- The address of the page of an entry, as it is written. -/
def addressOf (es : Entries) : Except Mishap (Option String) :=
  match es.field? "navurl" with
  | none => .ok none
  | some .null => .ok none
  | some v =>
    match v.shown? with
    | some s => .ok (some s)
    | none => .error .tooLong

/-- The address of the page of an entry, resolved against a website. -/
def resolvedAddress (website : String) (es : Entries) : Except Mishap String :=
  match addressOf es with
  | .error m => .error m
  | .ok address => (Url.join website address).mapError .address

/-- An entry with its address and the other names of its version set. -/
def completed (url : String) (altvsntags : List String) (es : Entries) : Entries :=
  (es.put (.text "altvsntags") (.ofTexts altvsntags)).put (.text "navurl") (.text url)

/-- What becomes of a mapping that is an entry. -/
def ofEntries (website : String) (altvsntags : List String) (number : Nat) (es : Entries) :
    Admission :=
  match Entry.missing es with
  | [] =>
    match resolvedAddress website es with
    | .error m => .refused m
    | .ok url =>
      match Entry.ofEntries (completed url altvsntags es) with
      | .good e => .admitted e
      | .bad ps => dropping number es ("invalid (" ++ toString ps.length ++ " errors)")
  | names => dropping number es ("missing " ++ ", ".intercalate names)

/-- What becomes of an entry. -/
def ofValue (website : String) (altvsntags : List String) (number : Nat) : Value → Admission
  | .mapping es => ofEntries website altvsntags number es
  | _ => .dropped ("Entry #" ++ toString number ++ " is not a mapping")

end Admission

/-- The phrases that stand for the term of an entry as well. -/
def Entry.phrases (e : Entry) : List String := Phrases.ofText (e.formPhrases.getD "")

/-- An entry, and the entries for the further forms of its term. -/
def Entry.withForms (e : Entry) : List Entry := e :: e.phrases.map fun p => { e with term := p }

/-! ### Terminologies -/

/-- A glossary that takes entries over, with its journal and their number so far. -/
structure Intake where
  glossary : Glossary
  journal : Journal
  added : Nat := 0

namespace Intake

/-- Takes an entry and its further forms over. -/
def accept (i : Intake) (e : Entry) : Intake :=
  { i with
    glossary := e.withForms.foldl Glossary.add i.glossary
    added := i.added + e.withForms.length }

/-- Drops an entry with a warning. -/
def drop (i : Intake) (source why : String) : Intake :=
  { i with journal := i.journal.warn ⟨.invalidEntry, why, some source, none⟩ }

/-- Takes entries over, the first of which has the given number.  An entry that is refused
ends this; what has come before stays. -/
def takeFrom (source : String) (altvsntags : List String) :
    Nat → List Value → Intake → Intake × Option Mishap
  | _, [], i => (i, none)
  | number, v :: r, i =>
    match Admission.ofValue i.glossary.website altvsntags number v with
    | .admitted e => takeFrom source altvsntags (number + 1) r (i.accept e)
    | .dropped why => takeFrom source altvsntags (number + 1) r (i.drop source why)
    | .refused m => (i, some m)

/-- Takes a terminology over. -/
def take (g : Glossary) (j : Journal) (t : Terminology) (source : String) :
    Intake × Option Mishap :=
  takeFrom source t.info.altvsntags 1 t.entries { glossary := g, journal := j }

end Intake

end TermRef
