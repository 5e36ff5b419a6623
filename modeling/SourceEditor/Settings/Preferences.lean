import SourceEditor.Settings.Store
import SourceEditor.Theme.Mode

/-!
# Preferences

What a user chooses once: the theme, the sizes of the fonts, and how long to wait for the bridge.
Loading always comes to preferences within their ranges, whatever the settings hold.

* `Preferences.Draft` holds preferences as any values; saving one stops at the first value that
  stands for no integer and keeps what was written before.
-/

namespace SourceEditor

/-- What a user chooses once. -/
structure Preferences where
  /-- How the palette is chosen. -/
  themeMode : ThemeMode
  /-- The path of the theme file; without one the theme stays. -/
  themePath : Text
  /-- The font size of the window. -/
  windowPoints : Int
  /-- The font size of the editor. -/
  editorPoints : Int
  /-- The seconds to wait for a health check. -/
  healthSeconds : Int
  /-- The seconds to wait for the compiler. -/
  compileSeconds : Int
  deriving DecidableEq, Repr

/-- The range of a number among the preferences. -/
structure Preferences.Range where
  /-- The least number. -/
  low : Int
  /-- The greatest number. -/
  high : Int

namespace Preferences

/-- The range of font sizes. -/
def pointRange : Range := ⟨8, 28⟩

/-- The range of the seconds to wait for a health check. -/
def healthRange : Range := ⟨1, 30⟩

/-- The range of the seconds to wait for the compiler. -/
def compileRange : Range := ⟨5, 600⟩

/-- A number moved into a range. -/
def Range.clamp (r : Range) (n : Int) : Int :=
  Settings.clamp r.low r.high n

/-- The number under a key, or else a default, moved into a range. -/
def number (s : Settings) (key : SettingKey) (otherwise : Int) (r : Range) : Int :=
  Settings.clampValue ((s.get? key).getD (.integer otherwise)) otherwise r.low r.high

/-- The preferences in some settings; the sizes of the fonts have the given defaults. -/
def load (s : Settings) (windowPoints editorPoints : Int) : Preferences where
  themeMode := .ofName ((s.get .themeMode).shownOr "auto")
  themePath := (s.get .themePath).shownOr []
  windowPoints := number s .windowPoints windowPoints pointRange
  editorPoints := number s .editorPoints editorPoints pointRange
  healthSeconds := number s .healthSeconds 2 healthRange
  compileSeconds := number s .compileSeconds 120 compileRange

/-- Preferences as values of any kind. -/
structure Draft where
  /-- How the palette is chosen. -/
  themeMode : Json.Value
  /-- The path of the theme file. -/
  themePath : Json.Value
  /-- The font size of the window. -/
  windowPoints : Json.Value
  /-- The font size of the editor. -/
  editorPoints : Json.Value
  /-- The seconds to wait for a health check. -/
  healthSeconds : Json.Value
  /-- The seconds to wait for the compiler. -/
  compileSeconds : Json.Value

/-- Preferences as values. -/
def draft (p : Preferences) : Draft where
  themeMode := .string p.themeMode.name
  themePath := .string p.themePath
  windowPoints := .integer p.windowPoints
  editorPoints := .integer p.editorPoints
  healthSeconds := .integer p.healthSeconds
  compileSeconds := .integer p.compileSeconds

/-- Writes integers under keys, one after the other, up to the first value that stands for none. -/
def saveIntegers (s : Settings) :
    List (SettingKey × Json.Value) → Settings × Option Json.ConversionError
  | [] => (s, none)
  | (key, value) :: rest =>
    match value.toInt with
    | .ok n => saveIntegers (s.set key (.integer n)) rest
    | .error e => (s, some e)

/-- Writes preferences to the settings, as far as they can be written. -/
def Draft.save (d : Draft) (s : Settings) : Settings × Option Json.ConversionError :=
  let s := s.set .themeMode (.string (d.themeMode.shownOr "auto"))
  let s := s.set .themePath (.string (Text.trim (d.themePath.shownOr [])))
  saveIntegers s [(.windowPoints, d.windowPoints), (.editorPoints, d.editorPoints),
    (.healthSeconds, d.healthSeconds), (.compileSeconds, d.compileSeconds)]

/-- Writes preferences to the settings. -/
def save (p : Preferences) (s : Settings) : Settings :=
  (p.draft.save s).1

end Preferences

end SourceEditor
