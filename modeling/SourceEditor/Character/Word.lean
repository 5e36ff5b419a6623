import SourceEditor.Character.Alphabetic
import SourceEditor.Character.Numeric

/-!
# Word characters

The characters that identifiers and words are made of: letters, numbers and the underscore.
Combining marks are no word characters.
-/

namespace SourceEditor.Character

/-- Whether a character is a letter or stands for a number. -/
def isAlphanumeric (c : Character) : Bool :=
  isLetter c || isNumeric c

/-- Whether an identifier may begin with the character. -/
def startsIdentifier (c : Character) : Bool :=
  isLetter c || c == '_'

/-- Whether the character belongs to words. -/
def isWord (c : Character) : Bool :=
  isAlphanumeric c || c == '_'

end SourceEditor.Character
