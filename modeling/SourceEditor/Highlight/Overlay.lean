import SourceEditor.Highlight.RulePass
import SourceEditor.Search.Pattern

/-!
# Overlays

Search matches and error lines, painted over a styled text.
-/

namespace SourceEditor

/-- The offset of each line of a text, which has one line more than line breaks. -/
def lineStartsFrom (offset : Nat) : Text → List Nat
  | [] => []
  | c :: rest =>
    if c = '\n' then (offset + 1) :: lineStartsFrom (offset + 1) rest
    else lineStartsFrom (offset + 1) rest

/-- The offset of each line of a text. -/
def lineStarts (t : Text) : List Nat :=
  0 :: lineStartsFrom 0 t

/-- The whole line of a number, counted from 1, with its line break; other numbers have none. The
lines begin at the given offsets, and the last one ends at the end of the text. -/
def lineRange? (starts : Array Nat) (length : Nat) (line : Int) : Option Match :=
  if line < 1 then none
  else
    let i := (line - 1).toNat
    starts[i]?.map fun start => (start, (starts[i + 1]?).getD length)

/-- Integers in increasing order, each once. -/
def sortedLines (lines : List Int) : List Int :=
  lines.mergeSort.foldr (fun n acc => if acc.head? = some n then acc else n :: acc) []

namespace StyledText

/-- Paints the matches of a query in a text over a styled text. A blank query has no matches. -/
def overlaySearch (s : StyledText) (fullText query : Text) (caseSensitive wholeWord : Bool) :
    StyledText :=
  if Text.isBlank query then s
  else
    match Pattern.ofQuery? query caseSensitive wholeWord with
    | some p => s.paint (RulePass.spansOf .searchMatch (p.allIn fullText))
    | none => s

/-- Paints whole lines of a text over a styled text, in increasing order. -/
def overlayErrors (s : StyledText) (fullText : Text) (lines : List Int) : StyledText :=
  let starts := (lineStarts fullText).toArray
  s.paint (RulePass.spansOf .errorLine
    ((sortedLines lines).filterMap (lineRange? starts fullText.length)))

end StyledText

end SourceEditor
