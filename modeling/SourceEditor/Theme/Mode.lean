import SourceEditor.Text.Basic
import SourceEditor.Theme.Colour
import SourceEditor.Theme.Palette

/-!
# Theme modes

Which palette is in effect: always the same one, or the one that suits the window.
-/

namespace SourceEditor

/-- How a palette is chosen. -/
inductive ThemeMode
  /-- The one that suits the window. -/
  | auto
  /-- Always the dark one. -/
  | dark
  /-- Always the light one. -/
  | light
  deriving DecidableEq, Repr

namespace ThemeMode

/-- The name of a mode. -/
def name : ThemeMode → Text
  | .auto => "auto"
  | .dark => "dark"
  | .light => "light"

/-- The mode of a name, blanks around it and case apart. Every other name is that of `auto`. -/
def ofName (n : Text) : ThemeMode :=
  let n := Text.lowered (Text.trim n)
  if n = "dark" then .dark else if n = "light" then .light else .auto

/-- The place of a mode in the list of modes. -/
def index : ThemeMode → Nat
  | .auto => 0
  | .dark => 1
  | .light => 2

/-- The mode at a place of the list; outside the list it is `auto`. -/
def ofIndex (i : Int) : ThemeMode :=
  if i = 1 then .dark else if i = 2 then .light else .auto

/-- The palette that a mode chooses for a window of some colour. -/
def paletteKey (m : ThemeMode) (window : Rgb) : PaletteKey :=
  match m with
  | .dark => .dark
  | .light => .light
  | .auto => if window.isDark then .dark else .light

end ThemeMode

end SourceEditor
