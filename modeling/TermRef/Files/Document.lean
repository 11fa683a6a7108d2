/-
TermRef/Files/Document.lean

Files that hold a YAML document.

The bytes of the file are read as UTF-8, in chunks, and every line end counts as a line
feed.  All of them are read before the document is looked at: bytes that are no text count
before a fault of the document, also if that comes earlier in the file.
-/
import TermRef.Files.Tree
import TermRef.Text.Utf8
import TermRef.Text.Lines
import TermRef.Yaml.Meaning

namespace TermRef

/-- Why a file gives no value. -/
inductive DocumentError where
  /-- The file cannot be read. -/
  | file (e : FileError)
  /-- Its bytes are no text. -/
  | bytes (f : Utf8.Fault)
  /-- Its text is no document, or one that asks for what does not exist. -/
  | text (f : Yaml.Fault)
  deriving DecidableEq, Repr

namespace FileTree

/-- The number of bytes in a chunk. -/
def chunkSize : Nat := 8192

/-- The value of the document in a file. -/
def document (t : FileTree) (path : String) : Except DocumentError Value := do
  let bytes ← (t.read path).mapError .file
  let text ← (Utf8.decodeChunked chunkSize bytes).mapError .bytes
  (Yaml.read (Lines.unifyEnds text)).mapError .text

end FileTree

end TermRef
