import SourceEditor.Text.Utf8

/-!
# Decoding documents

The text of a file that is opened in the editor. Line ends stay as they are. Bytes that are no UTF-8
are shown as U+FFFD rather than refused, but a file with a zero byte is taken for no text at all.
-/

namespace SourceEditor.Document

/-- How the bytes of a document were read. -/
inductive Encoding
  /-- As UTF-8, a byte order mark at the beginning left out. -/
  | exact
  /-- As UTF-8 with replacements. -/
  | replaced
  deriving DecidableEq, Repr

/-- The name of an encoding in the status line. -/
def Encoding.name : Encoding → Text
  | .exact => "utf-8-sig"
  | .replaced => "utf-8 (replacement)"

/-- The bytes without a byte order mark at their beginning. -/
def withoutMark (bytes : Bytes) : Bytes :=
  if Utf8.byteOrderMark.isPrefixOf bytes then bytes.drop Utf8.byteOrderMark.length else bytes

/-- What is said of a file with a zero byte. -/
def binaryMessage : Text :=
  "This looks like a binary file (contains NUL bytes)."

/-- The text of a document and how it was read; a document with a zero byte has none. -/
def decode? (bytes : Bytes) : Option (Text × Encoding) :=
  if bytes.contains 0 then none
  else
    match Utf8.decode? (withoutMark bytes) with
    | some t => some (t, .exact)
    | none => some (Utf8.decodeLossy bytes, .replaced)

end SourceEditor.Document
