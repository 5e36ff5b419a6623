import SourceEditor.Json.Shown
import SourceEditor.Json.Conversion

/-!
# Settings

What the editor remembers from one run to the next: JSON values under names. Values written by hand
or by another program may be of any kind, so the readers here always come to a value of the kind
they want.

* `SettingKey` lists the names that the editor itself uses.
* `Settings.reset` forgets all of them and leaves other names alone.
-/

namespace SourceEditor

/-- What the editor remembers. -/
inductive SettingKey
  /-- The place of the window. -/
  | geometry
  /-- The arrangement of the window. -/
  | windowState
  /-- The text in the editor. -/
  | editorText
  /-- The path of the document. -/
  | currentPath
  /-- The path of the last file opened or saved. -/
  | lastOpenPath
  /-- The language. -/
  | language
  /-- The text to find. -/
  | findText
  /-- Whether case counts in a search. -/
  | findCase
  /-- Whether only whole words match in a search. -/
  | findWholeWord
  /-- How the palette is chosen. -/
  | themeMode
  /-- The path of the theme file. -/
  | themePath
  /-- The font size of the window. -/
  | windowPoints
  /-- The font size of the editor. -/
  | editorPoints
  /-- The seconds to wait for a health check. -/
  | healthSeconds
  /-- The seconds to wait for the compiler. -/
  | compileSeconds
  deriving DecidableEq, Repr

namespace SettingKey

/-- The name under which a value is kept. -/
def name : SettingKey → Text
  | .geometry => "main/geometry"
  | .windowState => "main/windowState"
  | .editorText => "session/editorText"
  | .currentPath => "session/currentPath"
  | .lastOpenPath => "session/lastOpenPath"
  | .language => "session/language"
  | .findText => "session/findText"
  | .findCase => "session/findCaseSensitive"
  | .findWholeWord => "session/findWholeWord"
  | .themeMode => "appearance/themeMode"
  | .themePath => "appearance/themePath"
  | .windowPoints => "appearance/uiFontPt"
  | .editorPoints => "appearance/editorFontPt"
  | .healthSeconds => "bridge/healthTimeoutS"
  | .compileSeconds => "bridge/compileTimeoutS"

/-- Every key. -/
def all : List SettingKey :=
  [.geometry, .windowState, .editorText, .currentPath, .lastOpenPath, .language, .findText,
    .findCase, .findWholeWord, .themeMode, .themePath, .windowPoints, .editorPoints,
    .healthSeconds, .compileSeconds]

end SettingKey

/-- Values under names. -/
structure Settings where
  /-- The values in the order in which their names came. -/
  entries : Json.Entries := []

namespace Settings

/-- The value under a name. -/
def valueAt? (s : Settings) (name : Text) : Option Json.Value :=
  Json.Entries.get? name s.entries

/-- Puts a value under a name. -/
def put (s : Settings) (name : Text) (value : Json.Value) : Settings :=
  ⟨Json.Entries.insert name value s.entries⟩

/-- The value of a key. -/
def get? (s : Settings) (key : SettingKey) : Option Json.Value :=
  s.valueAt? key.name

/-- The value of a key, `null` if it has none. -/
def get (s : Settings) (key : SettingKey) : Json.Value :=
  (s.get? key).getD .null

/-- Gives a key a value. -/
def set (s : Settings) (key : SettingKey) (value : Json.Value) : Settings :=
  s.put key.name value

/-- Forgets the value of a key. -/
def remove (s : Settings) (key : SettingKey) : Settings :=
  ⟨Json.Entries.erase key.name s.entries⟩

/-- Forgets everything that the editor remembers. -/
def reset (s : Settings) : Settings :=
  SettingKey.all.foldl remove s

/-- A number moved into a range. If the range is empty, its lower end wins. -/
def clamp (low high n : Int) : Int :=
  max low (min high n)

/-- The integer that a value stands for, or else a default, moved into a range. -/
def clampValue (value : Json.Value) (otherwise low high : Int) : Int :=
  clamp low high (value.toInt.toOption.getD otherwise)

/-- The words for true. -/
def trueWords : List Text :=
  Text.ofStrings ["true", "1", "yes", "on"]

/-- The words for false. -/
def falseWords : List Text :=
  Text.ofStrings ["false", "0", "no", "off"]

/-- The truth value that a value stands for, or else a default. Stores that keep nothing but texts
give truth values as words. -/
def truthOf (value : Json.Value) (otherwise : Bool) : Bool :=
  match value with
  | .bool b => b
  | .string s =>
    let word := Text.lowered (Text.trim s)
    if trueWords.contains word then true
    else if falseWords.contains word then false
    else otherwise
  | .integer n => n != 0
  | _ => otherwise

end Settings

end SourceEditor
