import SourceEditor.Text.Basic
import SourceEditor.Character.Printable

/-!
# Quoted texts

A text between quotes, for messages that name it. Apostrophes are the quotes unless the text holds
an apostrophe and no double quote. What is not printable is escaped by its code point.
-/

namespace SourceEditor.Text

/-- The last `count` hexadecimal digits of a number. -/
def hexDigits : Nat → Nat → Text
  | 0, _ => []
  | count + 1, n =>
    hexDigits count (n / 16) ++
      [if n % 16 < 10 then Character.ofNat (48 + n % 16) else Character.ofNat (87 + n % 16)]

/-- The escape of a code point with two, four or eight hexadecimal digits. -/
def codePointEscape (n : Nat) : Text :=
  if n < 0x100 then '\\' :: 'x' :: hexDigits 2 n
  else if n < 0x10000 then '\\' :: 'u' :: hexDigits 4 n
  else '\\' :: 'U' :: hexDigits 8 n

/-- The quote that a text is put between. -/
def quoteFor (t : Text) : Character :=
  if t.contains '\'' && !t.contains '"' then '"' else '\''

/-- A character between quotes. -/
def quotedChar (quote c : Character) : Text :=
  if c = quote ∨ c = '\\' then ['\\', c]
  else if c = '\n' then ['\\', 'n']
  else if c = '\r' then ['\\', 'r']
  else if c = '\t' then ['\\', 't']
  else if Character.isPrintable c then [c]
  else codePointEscape c.toNat

/-- A text between quotes. -/
def quoted (t : Text) : Text :=
  let quote := quoteFor t
  quote :: t.flatMap (quotedChar quote) ++ [quote]

end SourceEditor.Text
