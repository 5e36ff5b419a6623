import SourceEditor.Theme.Mode
import SourceEditor.Theme.ThemeFile

/-!
# Theme managers

The theme in use: where it was loaded from, how its palette is chosen, and which palette was handed
out last. A palette is announced only when it is not the one handed out last, or when the theme
itself is new.
-/

namespace SourceEditor

/-- The theme in use. -/
structure ThemeManager where
  /-- Where the theme was loaded from. -/
  path : Path
  /-- The palettes of the theme. -/
  theme : Theme
  /-- How the palette is chosen. -/
  mode : ThemeMode
  /-- The palette handed out last, if one was. -/
  shown : Option PaletteKey := none

namespace ThemeManager

/-- Loads the first theme. -/
def load (fs : FileSystem) (path : Path) (mode : ThemeMode) :
    Except ThemeFile.Error ThemeManager × FileSystem :=
  let (theme, fs) := ThemeFile.load fs path
  (theme.map fun theme => ⟨path, theme, mode, none⟩, fs)

/-- The palette in effect for a window of some colour. -/
def paletteKey (m : ThemeManager) (window : Rgb) : PaletteKey :=
  m.mode.paletteKey window

/-- Hands out the palette in effect. -/
def current (m : ThemeManager) (window : Rgb) : Palette × ThemeManager :=
  let key := m.paletteKey window
  (m.theme.palette key, { m with shown := some key })

/-- Announces the palette in effect, whether or not it is news. -/
def announce (m : ThemeManager) (window : Rgb) : Option Palette × ThemeManager :=
  let (palette, m) := m.current window
  (some palette, m)

/-- Announces the palette in effect if it was not the last one handed out. -/
def refresh (m : ThemeManager) (window : Rgb) : Option Palette × ThemeManager :=
  if some (m.paletteKey window) = m.shown then (none, m) else m.announce window

/-- Takes another mode. -/
def setMode (m : ThemeManager) (mode : ThemeMode) (window : Rgb) :
    Option Palette × ThemeManager :=
  refresh { m with mode } window

/-- Takes another theme; one that cannot be loaded leaves everything as it is. -/
def setPath (m : ThemeManager) (fs : FileSystem) (path : Path) (window : Rgb) :
    Except ThemeFile.Error (Option Palette × ThemeManager) × FileSystem :=
  let (theme, fs) := ThemeFile.load fs path
  (theme.map fun theme => announce { m with path, theme } window, fs)

end ThemeManager

end SourceEditor
