import SourceEditor.Text.Utf8

/-!
# File names

The names of files are bytes. A text names a file by its UTF-8 form, except that a lone surrogate
from U+DC80 to U+DCFF stands for a single byte from 80 to FF, so that names which are no UTF-8 can
be written too. A text with any other lone surrogate names nothing.
-/

namespace SourceEditor

/-- The name of a file or directory. -/
abbrev FileName := Bytes

namespace FileName

/-- Whether a character stands for a single byte of a name. -/
def standsForByte (c : Character) : Bool :=
  0xDC80 ≤ c.toNat && c.toNat ≤ 0xDCFF

/-- The bytes of a character of a name. -/
def encodeCharacter (c : Character) : Bytes :=
  if standsForByte c then [UInt8.ofNat (c.toNat - 0xDC00)] else Utf8.encodeCharacter c

/-- The bytes of a name. -/
def ofText (t : Text) : FileName :=
  t.flatMap encodeCharacter

/-- Why a text is no name or path of a file, if it is none. -/
def refusal? (t : Text) : Option Utf8.Refusal :=
  Utf8.refusalFrom? (fun c => c.isSurrogate && !standsForByte c) 0 t

/-- The name that leads to the directory above. -/
def up : FileName :=
  ofText ".."

end FileName

end SourceEditor
