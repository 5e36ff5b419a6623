import SourceEditor.Highlight.RuleSet
import SourceEditor.Search.Matcher
import SourceEditor.Style.StyledText

/-!
# Rule passes

The highlighter without a scanner: each rule looks for its own matches in the whole text, and the
passes paint over each other, keywords first, then types, comments and strings.
-/

namespace SourceEditor

/-- One rule: what it matches, and the category that it paints. -/
structure RulePass where
  /-- What the rule matches. -/
  matcher : Matcher
  /-- The category of its matches. -/
  category : Category

namespace RulePass

/-- The spans that matches are painted as. -/
def spansOf (category : Category) (found : List Match) : List Span :=
  found.map fun (start, stop) => ⟨start, stop, category⟩

/-- The spans that a rule paints in a text. -/
def spans (p : RulePass) (t : Text) : List Span :=
  spansOf p.category (p.matcher.all t)

/-- Matches one word wherever it is a whole word, case included. -/
def word (w : Text) : Matcher :=
  Matcher.literal (· == ·) true w

/-- The characters that have a meaning of their own in a written pattern. -/
def patternCharacters : List Character :=
  ['.', '^', '$', '*', '+', '?', '{', '}', '[', ']', '\\', '|', '(', ')']

/-- The rule of a written pattern. Only a plain word is understood, which stands for itself anywhere
in the text; a source with a pattern character is refused. -/
def ofSource? (source : Text) (category : Category) : Option RulePass :=
  if source.any patternCharacters.contains then none
  else some ⟨Matcher.literal (· == ·) false source, category⟩

end RulePass

/-- The passes of a rule set in the order of painting. -/
def RuleSet.passes (r : RuleSet) : List RulePass :=
  r.keywords.map (fun w => ⟨RulePass.word w, .keyword⟩)
    ++ r.types.map (fun w => ⟨RulePass.word w, .type⟩)
    ++ r.lineMark?.toList.map (fun mark => ⟨Matcher.toLineEnd mark, .comment⟩)
    ++ r.blockMarks?.toList.map
      (fun (opening, closing) => ⟨Matcher.region true opening closing, .comment⟩)
    ++ r.quoteMark?.toList.map (fun quote => ⟨Matcher.region false quote quote, .string⟩)

/-- A plain text with the matches of each pass painted over those of the passes before. -/
def RuleSet.paint (r : RuleSet) (t : Text) : StyledText :=
  r.passes.foldl (fun styled pass => styled.paint (pass.spans t)) (StyledText.plain t)

end SourceEditor
