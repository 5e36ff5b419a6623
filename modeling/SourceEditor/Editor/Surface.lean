import SourceEditor.Editor.Buffer
import SourceEditor.Highlight.Composition
import SourceEditor.Theme.Palette

/-!
# Editor surfaces

What an editor paints: the style of every byte of its text, which shows the lexical category painted
last, and two layers of marks over it, for search matches and for error lines. The styles follow
every change of the text at once; the marks stay where they are until they are painted anew.

* `Surface.restyle` paints the styles.
* `Surface.paintMarks` paints the marks of a styled text, if it is still the text of the editor.
-/

namespace SourceEditor

namespace Category

/-- The number of the style in which a category is painted. Overlays are painted as marks. -/
def styleNumber : Category → Nat
  | .plain => 0
  | .keyword => 1
  | .type => 2
  | .string => 3
  | .comment => 4
  | .number => 5
  | .searchMatch => 0
  | .errorLine => 0

/-- The categories that are painted as styles, in the order of their numbers. -/
def styled : List Category :=
  [.plain, .keyword, .type, .string, .comment, .number]

/-- The description of a style: the name of its category. -/
def styleDescription (number : Int) : Text :=
  match styled.find? fun c => (c.styleNumber : Int) = number with
  | some c => c.name
  | none => []

end Category

/-- Bytes painted alike: their number, and the number of their style. -/
structure StyleRun where
  /-- The number of bytes. -/
  length : Nat
  /-- The number of the style. -/
  style : Nat
  deriving DecidableEq, Repr

/-- A mark over some bytes. -/
structure Mark where
  /-- The first byte. -/
  start : Nat
  /-- The number of bytes. -/
  length : Nat
  deriving DecidableEq, Repr

/-- What an editor paints. -/
structure Surface where
  /-- The text and the selection. -/
  buffer : Buffer := {}
  /-- What classifies the text. -/
  highlighter : Highlighter := ⟨some kotlinRules, true⟩
  /-- The styles from the first byte on. -/
  styles : List StyleRun := []
  /-- The marks of search matches. -/
  searchMarks : List Mark := []
  /-- The marks of error lines. -/
  errorMarks : List Mark := []
  /-- The colours. -/
  palette : Palette := .dark

namespace Surface

/-- The text of the editor. -/
def text (s : Surface) : Text :=
  s.buffer.text

/-- The styles of a styled text: one stretch of bytes for each run. -/
def stylesOf (styled : StyledText) : List StyleRun :=
  let offsets := (Utf8.offsets styled.text).toArray
  styled.runs.map fun r =>
    ⟨offsets.getD r.stop 0 - offsets.getD r.start 0, (topLexical r.categories).styleNumber⟩

/-- Paints the styles of the text. -/
def restyle (s : Surface) : Surface :=
  { s with styles := stylesOf (s.highlighter.base s.text) }

/-- Takes another way to classify the text. -/
def setHighlighter (s : Surface) (highlighter : Highlighter) : Surface :=
  restyle { s with highlighter }

/-- Takes other colours. -/
def setPalette (s : Surface) (palette : Palette) : Surface :=
  restyle { s with palette }

/-- The marks of the layers of a category. -/
def marksOf (styled : StyledText) (c : Category) : List Mark :=
  let offsets := (Utf8.offsets styled.text).toArray
  let byte (boundary : Int) : Nat := offsets.getD (min boundary.toNat (offsets.size - 1)) 0
  (styled.layers.filter fun span => span.category = c).filterMap fun span =>
    if byte span.start < byte span.stop then
      some ⟨byte span.start, byte span.stop - byte span.start⟩
    else none

/-- Paints the marks of a styled text. Marks of another text than that of the editor are not
painted. -/
def paintMarks (s : Surface) (styled : StyledText) : Surface :=
  if styled.text = s.text then
    { s with
      searchMarks := marksOf styled .searchMatch
      errorMarks := marksOf styled .errorLine }
  else s

/-- Takes another buffer, and paints the styles if its text is another one. -/
def setBuffer (s : Surface) (buffer : Buffer) : Surface :=
  if buffer.text = s.text then { s with buffer } else restyle { s with buffer }

end Surface

end SourceEditor
