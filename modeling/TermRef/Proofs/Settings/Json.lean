/-
TermRef/Proofs/Settings/Json.lean

Files of settings that hold JSON.

Files of settings are read as YAML, and nothing else is tried for those that hold JSON.  A JSON
text that is read as it is meant gives the object that it denotes (`fileEntries_json`): its bytes
are read as its text, the text as its tokens, and these as the object.
-/
import TermRef.Proofs.Json.Tree
import TermRef.Proofs.Text.Utf8
import TermRef.Settings.Load

namespace TermRef

namespace Settings

variable {t : FileTree} {path : String}

/-- A file that holds a text is read as its text. -/
theorem document_of_text {s : List Char} (h : t.read path = .ok (Utf8.encode s)) :
    t.document path = (Yaml.read (Lines.unifyEnds s)).mapError .text := by
  have hbytes : Utf8.decodeChunked FileTree.chunkSize (Utf8.encode s) = .ok s :=
    Utf8.decodeChunked_encode (by decide) s
  rw [FileTree.document, h]
  simp only [Except.mapError, bind, Except.bind, hbytes]

/-- **A file that holds a JSON object is read as this object**, with each number as the text that is
written, where JSON and YAML do not differ. -/
theorem fileEntries_json {d : Json.Document} (hd : d.Readable)
    (hread : t.read path = .ok (Utf8.encode d.text)) : fileEntries t path = .ok d.entries := by
  rw [fileEntries, document_of_text hread, hd.read]
  rfl

/-- A directory with one file, which holds a JSON text. -/
def holding (d : Json.Document) : FileTree := ⟨[], [(["c.json"], .file (Utf8.encode d.text))]⟩

/-- An object with an array that has a line end in it, a numeral with all its parts, an escape of
each kind, and a name that is repeated. -/
def nestedDocument : Json.Document where
  inside := ⟨[' '], by decide⟩
  members :=
    .cons .none (.verbatim ['a']) ⟨[' '], by decide⟩ ⟨[' '], by decide⟩
      (.array .none
        (.cons .none (.number ⟨true, ⟨1, []⟩, some ⟨5, []⟩, some ⟨false, some false, ⟨0, [3]⟩⟩,
            by decide⟩) .none
        (.cons ⟨['\r', '\n', ' '], by decide⟩
          (.object .none (.cons .none (.verbatim ['k']) .none .none .null .none .nil)) .none
        .nil))) ⟨['\r'], by decide⟩
    (.cons .none (.verbatim ['b']) .none ⟨['\n'], by decide⟩ (.bool true) .none
    (.cons .none (.verbatim ['b']) .none .none
      (.string [.plain 'd' (by decide),
        .code ⟨⟨0, false⟩, ⟨0, false⟩, ⟨14, false⟩, ⟨9, false⟩⟩ (by decide),
        .short 'n' '\n' (by decide)]) .none
    .nil))
  after := ⟨['\r', '\n'], by decide⟩

/-- The last entry for a name counts, at the place of the first one. -/
theorem fileEntries_json_nested :
    String.ofList nestedDocument.text = "\x7b \"a\" : [-1.5e+03,\r\n \x7b\"k\":null\x7d]\r," ++
        "\"b\":\ntrue,\"b\":\"d\\u00e9\\n\"\x7d\r\n" ∧
      fileEntries (holding nestedDocument) "c.json" =
        .ok [(.text "a", .list [.text "-1.5e+03", .mapping [(.text "k", .null)]]),
          (.text "b", .text "dé\n")] := by
  refine ⟨by decide +kernel, ?_⟩
  have hentries : nestedDocument.entries =
      [(.text "a", .list [.text "-1.5e+03", .mapping [(.text "k", .null)]]),
        (.text "b", .text "dé\n")] := by with_unfolding_all rfl
  rw [← hentries]
  have hread : (holding nestedDocument).read "c.json" = .ok (Utf8.encode nestedDocument.text) := by
    decide +kernel
  exact fileEntries_json (by decide +kernel) hread

/-! ### Where JSON and YAML differ -/

/-- An object with one member. -/
def sole (name : Json.Written) (toColon : Json.Blank) (value : Json) : Json.Document where
  members := .cons .none name toColon .none value .none .nil

/-- An object with one member, whose value is a string. -/
def soleString (s : Json.Written) : Json.Document := sole (.verbatim ['a']) .none (.string s)

/-- JSON texts that are not read as they are meant, one for each condition on those that are. -/
def misreadDocuments : List Json.Document :=
  let one : Json := .number ⟨false, ⟨1, []⟩, none, none, by decide⟩
  [{ sole (.verbatim ['a']) .none one with inside := ⟨['\t'], by decide⟩ },
    sole (.verbatim ['a']) ⟨['\n'], by decide⟩ one,
    sole (List.replicate 1023 (.plain 'a' (by decide))) .none one,
    sole (.verbatim ['\u2028']) .none one,
    soleString (.verbatim ['\x7f']),
    soleString (.verbatim ['\u0085']),
    soleString (.verbatim ['\uffff']),
    soleString (.verbatim [' ', '\u2028']),
    soleString (.verbatim ['\u2029', ' ']),
    soleString (.verbatim ['\u2028', '-', '-', '-', ' ']),
    soleString (.verbatim ['\u2028', '.', '.', '.', '\u2029'])]

/-- The text that the first entry has, if there is one. -/
def firstText? (r : Except Failure Entries) : Option String :=
  match r with
  | .ok ((_, .text s) :: _) => some s
  | _ => none

/-- **Some JSON texts are refused, and others are read as something else.** -/
theorem fileEntries_json_misread : misreadDocuments.Forall fun d =>
    fileEntries (holding d) "c.json" ≠ .ok d.entries := by
  have hdiffer : ∀ d ∈ misreadDocuments,
      firstText? (fileEntries (holding d) "c.json") ≠ firstText? (.ok d.entries) := by
    decide +kernel
  exact List.forall_iff_forall_mem.mpr fun d hd heq => hdiffer d hd (congrArg firstText? heq)

end Settings

end TermRef
