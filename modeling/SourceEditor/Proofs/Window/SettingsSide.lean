import SourceEditor.Proofs.Settings.SavedPreferences
import SourceEditor.Proofs.Window.Apart
import SourceEditor.Proofs.Window.Appearance

/-!
# What the settings decide of a window

The preferences decide how a palette is chosen, where the theme comes from, how large the fonts are
and how long the bridge is waited for. Nothing that has to do with a document, a search or the
compiler touches any of this. It leaves the preferences in the settings alone as well, and the text
that they hold for the next window.

* `Window.Setup`, `Window.setup`: what a window has in effect of its preferences.
* `Window.settingsSide`: that, what the settings hold of the preferences and of the text, and the
  accounts that a theme path may name; `Window.apart_settingsSide`: it is apart from the document.
* `Window.settingsSide_perform`: an action that is not for the settings changes none of it.
-/

namespace SourceEditor

/-- Whether an action saves or forgets what the settings hold of the preferences or of the text: the
dialog does once it is accepted, and so does a reset and the end. -/
def Action.isForSettings : Action → Bool
  | .openPreferences edits => edits.accept
  | .reset | .close => true
  | _ => false

namespace Window

/-- What of some preferences is in effect in a window. -/
structure Setup where
  /-- How the palette is chosen. -/
  themeMode : ThemeMode
  /-- The theme file in use. -/
  themePath : Path
  /-- The font size of the window. -/
  windowPoints : Int
  /-- The font size of the editor, as the window knows it. -/
  editorPoints : Int
  /-- The size of the font that the editor and the compile log show. -/
  fontPoints : Int
  /-- The seconds to wait for a health check. -/
  healthTimeout : Binary64
  /-- The seconds to wait for the compiler. -/
  compileTimeout : Binary64
  deriving DecidableEq

/-- What a window has in effect of its preferences. -/
def setup (w : Window) : Setup where
  themeMode := w.themes.mode
  themePath := w.themes.path
  windowPoints := w.windowPoints
  editorPoints := w.editorPoints
  fontPoints := w.font.points
  healthTimeout := w.client.healthTimeout
  compileTimeout := w.client.compileTimeout

/-- What a window has in effect of its preferences, what its settings hold of them and of the text,
and the accounts in whose home directories a theme may be. -/
def settingsSide (w : Window) : Setup × (Int → Int → Preferences) × Json.Value × Accounts :=
  (w.setup, Preferences.load w.settings, w.settings.get .editorText, w.accounts)

variable (w : Window)

/-- The settings have no effect by themselves. -/
theorem setup_withSettings (settings : Settings) : setup { w with settings } = w.setup :=
  rfl

/-- Counting a text has no part in the settings. -/
theorem settingsSide_textChanged : w.textChanged.settingsSide = w.settingsSide :=
  rfl

/-- Nor has showing the session. -/
theorem settingsSide_showSession : w.showSession.settingsSide = w.settingsSide :=
  rfl

/-- A document has no part in the preferences, and the path of its file is none of them. -/
theorem apart_settingsSide : Apart settingsSide where
  notices _ _ := rfl
  setBuffer w b := by
    obtain ⟨_, _, h⟩ := w.exists_setBuffer_eq b
    rw [h]
    rfl
  setFind w q := by
    obtain ⟨_, h⟩ := w.exists_setFind_eq q
    rw [h]
    rfl
  timer w := by
    obtain ⟨_, _, h⟩ := w.exists_timer_eq
    rw [h]
    rfl
  replacement _ _ := rfl
  named _ _ _ := rfl
  setPath w p := by
    have hload : Preferences.load (w.setPath p).settings = Preferences.load w.settings :=
      Preferences.load_set rfl _ _
    have htext : (w.setPath p).settings.get .editorText = w.settings.get .editorText :=
      Settings.get_set _ _ _ _
    unfold settingsSide
    rw [hload, htext]
    rfl
  files _ _ := rfl
  report w w' h := by
    cases h with
    | call c =>
      obtain ⟨_, _, _, _, _, hheard⟩ := w.exists_followSession_eq (c.respond w.session)
      rw [hheard]
      rfl
    | _ => rfl

/-! ## Languages -/

/-- A language has no part in the preferences. -/
theorem settingsSide_setLanguage (name : Text) :
    (w.setLanguage name).settingsSide = w.settingsSide := by
  obtain ⟨_, _, _, _, h⟩ := w.exists_setLanguage_eq name
  rw [h]
  rfl

/-- Nor has the choice of one. -/
theorem settingsSide_chooseLanguage (name : Text) :
    (w.chooseLanguage name).settingsSide = w.settingsSide := by
  unfold chooseLanguage
  split
  · exact settingsSide_setLanguage _ name
  · rfl

/-! ## Colours -/

/-- Taking the theme manager after a call leaves everything but the manager. -/
theorem setup_followThemes (announced : Option Palette × ThemeManager) :
    (w.followThemes announced).setup =
      { w.setup with themeMode := announced.2.mode, themePath := announced.2.path } := by
  unfold followThemes
  dsimp only
  split <;> rfl

/-- Following the themes saves nothing. -/
theorem settings_followThemes (announced : Option Palette × ThemeManager) :
    (w.followThemes announced).settings = w.settings :=
  congrArg DocumentSide.settings (w.documentSide_followThemes announced)

/-- A colour of the desktop may lead to another palette, but to no other theme. -/
theorem settingsSide_recolour (colour : Rgb) (event : ChangeEvent) :
    (w.recolour colour event).settingsSide = w.settingsSide := by
  -- A palette may be announced, but it comes from the theme in use.
  have hannounced : (followThemes { w with colour } (w.themes.refresh colour)).settingsSide =
      w.settingsSide := by
    unfold settingsSide
    rw [setup_followThemes, settings_followThemes, accounts_followThemes, mode_refresh,
      path_refresh]
    rfl
  cases event with
  | other => rfl
  | palette | applicationPalette => exact hannounced

/-! ## Opening and resetting -/

/-- Restoring a session leaves what is in effect of the preferences. -/
theorem settingsSide_restoreSession : w.restoreSession.1.settingsSide = w.settingsSide := by
  unfold restoreSession
  dsimp only
  -- First comes the text, which may break it off, then the path, the query and the language.
  apply Apart.andThen
  · split
    · split
      · rfl
      · exact apart_settingsSide.edit w _
    · rfl
  · intro w'
    rw [settingsSide_chooseLanguage, apart_settingsSide.setFind]
    split <;> rfl

/-- A reset takes everything out of the settings and does nothing else of this kind. -/
theorem settingsSide_reset :
    w.reset.1.settingsSide = settingsSide { w with settings := w.settings.reset } := by
  unfold reset
  dsimp only
  refine Eq.trans ?_ (apart_settingsSide.notices { w with settings := w.settings.reset }
    (w.notices ++ [.restored .geometry savedGeometry] ++ [.restored .arrangement savedArrangement]))
  apply Apart.andThen (apart_settingsSide.replaceDocument _ _)
  intro w'
  -- The title and the message come last and belong to nothing of this.
  show settingsSide (chooseLanguage _ _) = _
  rw [settingsSide_chooseLanguage, apart_settingsSide.setFind]
  rfl

/-! ## All actions -/

/-- An action that is not for the settings changes neither what is in effect of the preferences nor
what the settings hold of them and of the text. -/
theorem settingsSide_perform {a : Action} (ha : a.isForSettings = false) :
    (w.perform a).1.settingsSide = w.settingsSide := by
  cases hdocument : a.isForDocument with
  | true => exact apart_settingsSide.perform w hdocument
  | false =>
    cases a with
    | chooseLanguage name => exact w.settingsSide_chooseLanguage name
    | setLanguage name => exact w.settingsSide_setLanguage name
    | openPreferences edits =>
      -- The dialog is closed again, and nothing but a file dialog in it was seen.
      show (w.openPreferences edits).1.settingsSide = w.settingsSide
      unfold openPreferences
      dsimp only
      rw [if_neg (by simpa [Action.isForSettings] using ha)]
      cases edits.browse <;> rfl
    | recolour colour event => exact w.settingsSide_recolour colour event
    | reset | close => exact absurd ha.symm Bool.false_ne_true
    | _ => exact absurd hdocument.symm Bool.false_ne_true

end Window

end SourceEditor
