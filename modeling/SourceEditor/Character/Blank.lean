import SourceEditor.Character.Basic

/-!
# Blank characters

The characters that trimming removes and words are separated by: those with the Unicode property
White_Space, and the four information separators of ASCII.
-/

namespace SourceEditor.Character

/-- Whether a character is blank. -/
def isBlank (c : Character) : Bool :=
  let n := c.toNat
  (9 ≤ n && n ≤ 13) || (28 ≤ n && n ≤ 32) || n == 0x85 || n == 0xA0 || n == 0x1680
    || (0x2000 ≤ n && n ≤ 0x200A) || n == 0x2028 || n == 0x2029 || n == 0x202F || n == 0x205F
    || n == 0x3000

/-- Whether a character is one of the four information separators of ASCII. -/
def isInformationSeparator (c : Character) : Bool :=
  28 ≤ c.toNat && c.toNat ≤ 31

end SourceEditor.Character
