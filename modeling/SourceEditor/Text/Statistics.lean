import SourceEditor.Text.Basic
import SourceEditor.Numeral.Integer

/-!
# Document statistics

The counts shown below a document.
-/

namespace SourceEditor

/-- Counts of a document. -/
structure Statistics where
  /-- The number of characters. -/
  chars : Nat
  /-- The number of words, which blanks separate. -/
  words : Nat
  /-- The number of lines; an empty document has none. -/
  lines : Nat
  deriving DecidableEq, Repr

/-- The counts of a text. -/
def Statistics.ofText (t : Text) : Statistics :=
  ⟨t.length, Text.wordCount t, if t.isEmpty then 0 else t.count ('\n' : Character) + 1⟩

/-- The line that shows the counts. -/
def Statistics.label (s : Statistics) : Text :=
  "Characters: " ++ Numeral.ofNat s.chars ++ "    Words: " ++ Numeral.ofNat s.words
    ++ "    Lines: " ++ Numeral.ofNat s.lines

end SourceEditor
