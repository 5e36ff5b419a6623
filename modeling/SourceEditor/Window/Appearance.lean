import SourceEditor.Window.PreferencesDialog
import SourceEditor.Window.State

/-!
# Appearance and preferences

The theme, the fonts and the timeouts of a window, which follow the preferences in the settings.
-/

namespace SourceEditor.Window

/-- Shows the colours of a palette. -/
def showPalette (w : Window) (p : Palette) : Window :=
  refreshMarks { w with
    surface := w.surface.setPalette p
    errorColour := p.colour .logError }

/-- Takes the theme manager after a call and shows the palette that it announced, if any. -/
def followThemes (w : Window) (announced : Option Palette × ThemeManager) : Window :=
  let w := { w with themes := announced.2 }
  match announced.1 with
  | some p => w.showPalette p
  | none => w

/-- Shows the palette in effect. -/
def showCurrentPalette (w : Window) : Window :=
  let (palette, themes) := w.themes.current w.colour
  showPalette { w with themes } palette

/-- Takes the theme of a file, or says why it cannot be loaded and keeps the theme. A theme that is
too deep breaks the action off. -/
def loadTheme (w : Window) (path : Path) : Result :=
  match w.themes.setPath w.files path w.colour with
  | (.ok announced, files) => (followThemes { w with files } announced, none)
  | (.error (.tooDeep e), files) => ({ w with files }, some (.theme e))
  | (.error e, files) => (say { w with files } (("Theme load failed: " : Text) ++ e.message), none)

/-- Takes the theme of a path. A blank path, or that of the theme in use, changes nothing. -/
def chooseTheme (w : Window) (path : Text) : Result :=
  if Text.isBlank path then (w, none)
  else
    match (Path.ofText path).expandHome w.accounts with
    | .error e => (w, some (.home e))
    | .ok wanted => if wanted = w.themes.path then (w, none) else w.loadTheme wanted

/-- Takes the sizes and timeouts of some preferences. -/
def applySizes (w : Window) (p : Preferences) : Window :=
  { w with
    windowPoints := p.windowPoints
    editorPoints := p.editorPoints
    font := .monospace w.fonts p.editorPoints
    client := { w.client with
      healthTimeout := .ofInt p.healthSeconds
      compileTimeout := .ofInt p.compileSeconds } }

/-- Follows the preferences in the settings. -/
def applyAppearance (w : Window) : Result :=
  let p := Preferences.load w.settings w.windowPoints w.editorPoints
  let w := w.followThemes (w.themes.setMode p.themeMode w.colour)
  (w.chooseTheme p.themePath).andThen fun w => ((w.applySizes p).showCurrentPalette, none)

/-- Opens the preferences dialog, in which the user does something. -/
def openPreferences (w : Window) (edits : PreferencesDialog.Edits) : Result :=
  let shown := PreferencesDialog.ofPreferences
    (Preferences.load w.settings w.windowPoints w.editorPoints)
  let w : Window := match edits.browse with
    | some _ => w.tell (.dialog "Select theme.json" [] "JSON Files (*.json);;All Files (*)")
    | none => w
  if edits.accept then
    applyAppearance { w with settings := (shown.edit edits).preferences.save w.settings }
  else (w, none)

/-- A change that a window may hear of. -/
inductive ChangeEvent
  /-- The palette of the window changed. -/
  | palette
  /-- The palette of all windows changed. -/
  | applicationPalette
  /-- Something else changed. -/
  | other
  deriving DecidableEq, Repr

/-- The colour of windows changed, and the window hears of some change. -/
def recolour (w : Window) (colour : Rgb) (event : ChangeEvent) : Window :=
  let w := { w with colour }
  match event with
  | .other => w
  | _ => w.followThemes (w.themes.refresh colour)

end SourceEditor.Window
