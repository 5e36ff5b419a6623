import SourceEditor.Highlight.Overlay
import SourceEditor.Highlight.Token
import SourceEditor.Language.Builtin

/-!
# Composition

The full styling of a document: the classification of its characters by a highlighter, then the
search matches, then the error lines.
-/

namespace SourceEditor

/-- How a language is highlighted. -/
structure Highlighter where
  /-- The rules; the scanner falls back on the built-in ones, the rule passes on plain text. -/
  rules : Option RuleSet
  /-- Whether the scanner reads the text, or the rule passes do. -/
  scans : Bool
  deriving DecidableEq, Repr

/-- The classification of a text by a highlighter. -/
def Highlighter.base (h : Highlighter) (t : Text) : StyledText :=
  if h.scans then (h.rules.getD kotlinRules).scan t
  else
    match h.rules with
    | some r => r.paint t
    | none => StyledText.plain t

/-- What the find bar asks for. -/
structure Query where
  /-- The text to find. -/
  text : Text := []
  /-- Whether case counts. -/
  caseSensitive : Bool := false
  /-- Whether only whole words match. -/
  wholeWord : Bool := false
  deriving DecidableEq, Repr

/-- The pattern of a query; an empty query has none. -/
def Query.pattern? (q : Query) : Option Pattern :=
  Pattern.ofQuery? q.text q.caseSensitive q.wholeWord

/-- The full styling of a text: classification, search matches, error lines. -/
def Highlighter.compose (h : Highlighter) (t : Text) (q : Query) (errorLines : List Int) :
    StyledText :=
  ((h.base t).overlaySearch t q.text q.caseSensitive q.wholeWord).overlayErrors t errorLines

end SourceEditor
