import SourceEditor.Settings.SavedSession
import SourceEditor.Window.Appearance

/-!
# The life of a window

A window restores the session of the last run when it opens, saves its own when it closes, and can
be reset to a window without a past.
-/

namespace SourceEditor.Window

/-- The document of a window without a past. -/
def sampleText : Text :=
  "fun main() \x7b\n    println(\"Hello from KtEdit\")\n\x7d\n"

/-- The place of a window as it is saved. -/
def savedGeometry : Json.Value :=
  .string "geometry"

/-- The arrangement of a window as it is saved. -/
def savedArrangement : Json.Value :=
  .string "state"

/-- The path of the theme file that every window begins with. -/
def standardThemePath : Path :=
  .ofText "theme.json"

/-- Restores a part of the layout, if something was saved of it. -/
def restorePart (w : Window) (part : LayoutPart) : Json.Value → Window
  | .null => w
  | value => w.tell (.restored part value)

/-- Restores the layout of the last run. -/
def restoreLayout (w : Window) : Window :=
  let w := w.restorePart .geometry (w.settings.get .geometry)
  w.restorePart .arrangement (w.settings.get .windowState)

/-- Restores the session of the last run. -/
def restoreSession (w : Window) : Result :=
  let s := SavedSession.load w.settings
  let restored : Result := match s.editorText with
    | some t => if t.isEmpty then (w, none) else w.setText t
    | none => (w, none)
  restored.andThen fun w =>
    let w : Window := if s.currentPath.isEmpty then w
      else
        let path := Path.ofText s.currentPath
        titled { w with path := some path } path
    ((w.setFind s.find).chooseLanguage s.language.name, none)

/-- Why a window could not be opened. -/
inductive LaunchError
  /-- The theme could not be loaded. -/
  | theme (e : ThemeFile.Error)
  /-- The preferences could not be followed, or the session of the last run could not be restored.
  -/
  | failure (f : Failure)
  deriving DecidableEq, Repr

/-- A window with the sample in its editor, before it takes anything from the settings but the
timeouts. -/
def fresh (d : Desktop) (themes : ThemeManager) (p : Preferences) : Window :=
  { d with
    surface := Surface.setBuffer {} { text := sampleText }
    client :=
      { healthTimeout := .ofInt p.healthSeconds, compileTimeout := .ofInt p.compileSeconds }
    themes
    font := .monospace d.fonts 12 }

/-- Opens a window. -/
def launch (d : Desktop) : Except LaunchError Window :=
  let p := Preferences.load d.settings 13 12
  match ThemeManager.load d.files standardThemePath p.themeMode with
  | (.error e, _) => .error (.theme e)
  | (.ok themes, files) =>
    let opened := (fresh { d with files } themes p).applyAppearance.andThen fun w =>
      w.showCurrentPalette.restoreSession
    match opened with
    | (_, some f) => .error (.failure f)
    | (w, none) => .ok w.restoreLayout.showSession.textChanged

/-- The session that a window saves. -/
def savedSession (w : Window) : SavedSession where
  editorText := some w.text
  currentPath := (w.path.map Path.text).getD []
  language := w.language
  find := w.find

/-- Closes the window, saving its layout and its session. -/
def close (w : Window) : Window :=
  let s := (w.settings.set .geometry savedGeometry).set .windowState savedArrangement
  { w with settings := w.savedSession.save s }

/-- Forgets the settings and gives the window the document, the layout and the find bar of one
without a past. -/
def reset (w : Window) : Result :=
  let w := { w with settings := w.settings.reset }
  let w := w.tell (.restored .geometry savedGeometry)
  let w := w.tell (.restored .arrangement savedArrangement)
  (w.replaceDocument sampleText).andThen fun w =>
    let w := (setFind { w with path := none } {}).chooseLanguage Language.kotlin.name
    (say { w with title := "KtEdit" } "Reset", none)

end SourceEditor.Window
