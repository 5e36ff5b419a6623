import SourceEditor.Settings.Preferences

/-!
# The preferences dialog

The dialog in which preferences are changed. Its number fields keep to their ranges.
-/

namespace SourceEditor

/-- What the preferences dialog shows. -/
structure PreferencesDialog where
  /-- The place of the mode in its list. -/
  modeIndex : Int
  /-- The path of the theme file. -/
  themePath : Text
  /-- The font size of the window. -/
  windowPoints : Int
  /-- The font size of the editor. -/
  editorPoints : Int
  /-- The seconds to wait for a health check. -/
  healthSeconds : Int
  /-- The seconds to wait for the compiler. -/
  compileSeconds : Int
  deriving DecidableEq, Repr

namespace PreferencesDialog

/-- The dialog that shows a mode by its name, a path, and numbers. -/
def opened (mode themePath : Text)
    (windowPoints editorPoints healthSeconds compileSeconds : Int) : PreferencesDialog where
  modeIndex := (ThemeMode.ofName mode).index
  themePath := themePath
  windowPoints := Preferences.pointRange.clamp windowPoints
  editorPoints := Preferences.pointRange.clamp editorPoints
  healthSeconds := Preferences.healthRange.clamp healthSeconds
  compileSeconds := Preferences.compileRange.clamp compileSeconds

/-- The dialog that shows preferences. -/
def ofPreferences (p : Preferences) : PreferencesDialog :=
  PreferencesDialog.opened p.themeMode.name p.themePath p.windowPoints p.editorPoints
    p.healthSeconds p.compileSeconds

/-- The preferences that the dialog shows. -/
def preferences (d : PreferencesDialog) : Preferences where
  themeMode := .ofIndex d.modeIndex
  themePath := Text.trim d.themePath
  windowPoints := d.windowPoints
  editorPoints := d.editorPoints
  healthSeconds := d.healthSeconds
  compileSeconds := d.compileSeconds

/-- What a user does in the dialog. -/
structure Edits where
  /-- Chooses a mode from the list. -/
  modeIndex : Option Int := none
  /-- Browses for a theme file, and this file is chosen; an empty path stands for none. -/
  browse : Option Text := none
  /-- Writes the path of a theme file. -/
  themePath : Option Text := none
  /-- Changes the font size of the window. -/
  windowPoints : Option Int := none
  /-- Changes the font size of the editor. -/
  editorPoints : Option Int := none
  /-- Changes the seconds to wait for a health check. -/
  healthSeconds : Option Int := none
  /-- Changes the seconds to wait for the compiler. -/
  compileSeconds : Option Int := none
  /-- Accepts the dialog in the end. -/
  accept : Bool := true
  deriving DecidableEq, Repr

/-- The dialog after some edits. -/
def edit (d : PreferencesDialog) (e : Edits) : PreferencesDialog where
  modeIndex := e.modeIndex.getD d.modeIndex
  themePath := e.themePath.getD ((e.browse.filter fun path => !path.isEmpty).getD d.themePath)
  windowPoints := (e.windowPoints.map Preferences.pointRange.clamp).getD d.windowPoints
  editorPoints := (e.editorPoints.map Preferences.pointRange.clamp).getD d.editorPoints
  healthSeconds := (e.healthSeconds.map Preferences.healthRange.clamp).getD d.healthSeconds
  compileSeconds := (e.compileSeconds.map Preferences.compileRange.clamp).getD d.compileSeconds

end PreferencesDialog

end SourceEditor
