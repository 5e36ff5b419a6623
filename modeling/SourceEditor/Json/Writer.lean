import SourceEditor.Json.Value
import SourceEditor.Numeral.Decimal

/-!
# Writing JSON documents

Values as text in ASCII: every other character is escaped, one beyond U+FFFF as a surrogate pair and
a lone surrogate as half of one. A `Layout` says what stands between the parts, either on one line
or with one part a line.
-/

namespace SourceEditor.Json

/-- A hexadecimal digit. -/
def hexDigit (n : Nat) : Character :=
  if n < 10 then Character.ofNat (48 + n) else Character.ofNat (87 + n)

/-- A 16-bit unit as an escape. -/
def escapeUnit (u : Nat) : Text :=
  ['\\', 'u', hexDigit (u / 4096 % 16), hexDigit (u / 256 % 16), hexDigit (u / 16 % 16),
    hexDigit (u % 16)]

/-- The escapes of a character that a text cannot show as itself. -/
def escapeCode (n : Nat) : Text :=
  if n < 0x10000 then escapeUnit n
  else
    let m := n - 0x10000
    escapeUnit (0xD800 + m / 0x400) ++ escapeUnit (0xDC00 + m % 0x400)

/-- A character inside a written text. -/
def writeCharacter (c : Character) : Text :=
  if c = '"' then ['\\', '"']
  else if c = '\\' then ['\\', '\\']
  else if c = '\n' then ['\\', 'n']
  else if c = '\r' then ['\\', 'r']
  else if c = '\t' then ['\\', 't']
  else if c = '\x0c' then ['\\', 'f']
  else if c = '\x08' then ['\\', 'b']
  else if 32 ≤ c.toNat ∧ c.toNat < 127 then [c]
  else escapeCode c.toNat

/-- A written text with its quotes. -/
def writeString (s : Text) : Text :=
  ("\"" : Text) ++ s.flatMap writeCharacter ++ "\""

/-- How numbers are written in documents. -/
def documentNotation : Numeral.Notation :=
  { Numeral.standard with nan := "NaN", infinity := "Infinity" }

/-- What stands between the parts of an array or object. -/
structure Layout where
  /-- The number of spaces by which each level is set in, or all on one line. -/
  indent? : Option Nat

/-- All on one line, with a space after each comma. -/
def Layout.line : Layout := ⟨none⟩

/-- One part a line, each level set in by two spaces. -/
def Layout.block : Layout := ⟨some 2⟩

/-- The line break before a part at some level. -/
def Layout.break (l : Layout) (level : Nat) : Text :=
  match l.indent? with
  | none => []
  | some n => '\n' :: List.replicate (n * level) ' '

/-- What stands after a comma at some level. -/
def Layout.afterComma (l : Layout) (level : Nat) : Text :=
  match l.indent? with
  | none => " "
  | some _ => l.break level

mutual

/-- A value at some level. -/
def writeAt (l : Layout) (level : Nat) : Value → Text
  | .null => "null"
  | .bool b => if b then "true" else "false"
  | .integer n => Numeral.ofInt n
  | .real x => Numeral.writeReal documentNotation x
  | .string s => writeString s
  | .array [] => "[]"
  | .array (v :: vs) =>
    ("[" : Text) ++ l.break (level + 1) ++ writeAt l (level + 1) v ++ writeItems l (level + 1) vs
      ++ l.break level ++ "]"
  | .object [] => "\x7b\x7d"
  | .object ((k, v) :: es) =>
    ("\x7b" : Text) ++ l.break (level + 1) ++ writeString k ++ ": " ++ writeAt l (level + 1) v
      ++ writeEntries l (level + 1) es ++ l.break level ++ "\x7d"

/-- The items of an array after its first. -/
def writeItems (l : Layout) (level : Nat) : List Value → Text
  | [] => []
  | v :: vs => ("," : Text) ++ l.afterComma level ++ writeAt l level v ++ writeItems l level vs

/-- The entries of an object after its first. -/
def writeEntries (l : Layout) (level : Nat) : List (Text × Value) → Text
  | [] => []
  | (k, v) :: es =>
    ("," : Text) ++ l.afterComma level ++ writeString k ++ ": " ++ writeAt l level v
      ++ writeEntries l level es

end

/-- A value as a document in a layout. -/
def write (l : Layout) (v : Value) : Text :=
  writeAt l 0 v

end SourceEditor.Json
