import SourceEditor.Text.Basic

/-!
# Fonts

The font with letters of one width in which code is shown.
-/

namespace SourceEditor

/-- A font of the editor. -/
structure Font where
  /-- The family. -/
  family : Text
  /-- The size in points. -/
  points : Int
  deriving DecidableEq, Repr

namespace Font

/-- The families with letters of one width, the best one first. -/
def monospaceFamilies : List Text :=
  Text.ofStrings
    ["JetBrains Mono", "Menlo", "SF Mono", "DejaVu Sans Mono", "Liberation Mono", "Courier New"]

/-- The family used when none of them is installed. -/
def standardFamily : Text :=
  "Default"

/-- The best installed font with letters of one width. -/
def monospace (installed : List Text) (points : Int) : Font :=
  ⟨(monospaceFamilies.find? installed.contains).getD standardFamily, points⟩

end Font

end SourceEditor
