import SourceEditor.Text.Basic

/-!
# Rule sets

What a language tells the highlighter: its keywords and types, and the marks of its comments and
strings.
-/

namespace SourceEditor

/-- The highlighting rules of a language. -/
structure RuleSet where
  /-- The keywords, in increasing order, each once. -/
  keywords : List Text := []
  /-- The names of types, in increasing order, each once. -/
  types : List Text := []
  /-- The mark that begins a comment to the end of its line. -/
  lineComment : Option Text := none
  /-- The marks around a comment that may cross lines. -/
  blockComment : Option (Text × Text) := none
  /-- The mark at both ends of a string. -/
  stringQuote : Option Text := none
  deriving DecidableEq, Repr

namespace RuleSet

/-- A rule set of words in any order. -/
def ofWords (keywords types : List Text) (lineComment : Option Text)
    (blockComment : Option (Text × Text)) (stringQuote : Option Text) : RuleSet :=
  ⟨Text.sortedUnique keywords, Text.sortedUnique types, lineComment, blockComment, stringQuote⟩

/-- The mark of line comments, unless it is empty. -/
def lineMark? (r : RuleSet) : Option Text :=
  r.lineComment.filter fun mark => !mark.isEmpty

/-- The marks of block comments, unless one of them is empty. -/
def blockMarks? (r : RuleSet) : Option (Text × Text) :=
  r.blockComment.filter fun marks => !marks.1.isEmpty && !marks.2.isEmpty

/-- The mark of strings, unless it is empty. -/
def quoteMark? (r : RuleSet) : Option Text :=
  r.stringQuote.filter fun mark => !mark.isEmpty

end RuleSet

end SourceEditor
