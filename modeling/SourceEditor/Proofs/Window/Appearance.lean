import SourceEditor.Proofs.Editor.Painting
import SourceEditor.Window.Lifecycle

/-!
# How a window follows its preferences

Following the preferences gives a window other colours and sizes, and perhaps another theme. Nothing
of its document changes, and only one thing can break it off: the path of the theme.

* `Window.documentSide`: what a window shows of its document.
* `Window.ThemeFailure`: why the theme of a path cannot be followed.
* `Window.applyAppearance_spec`: what following the preferences keeps, and when it breaks off.
-/

namespace SourceEditor.Window

variable {w : Window}

/-- What a window shows of its document, and what it restores it from. -/
structure DocumentSide where
  settings : Settings
  text : Text
  path : Option Path
  title : Text
  language : Language
  listedName : Text
  find : Query

def documentSide (w : Window) : DocumentSide where
  settings := w.settings
  text := w.text
  path := w.path
  title := w.title
  language := w.language
  listedName := w.listedName
  find := w.find

/-- A palette that is shown changes nothing of the document. -/
theorem documentSide_showPalette (w : Window) (p : Palette) :
    (w.showPalette p).documentSide = w.documentSide := by
  have htext : (w.showPalette p).text = w.text := Surface.text_paintMarks _ _
  unfold documentSide
  rw [htext]
  rfl

/-- Nor does one that the themes announce. -/
theorem documentSide_followThemes (w : Window) (announced : Option Palette × ThemeManager) :
    (w.followThemes announced).documentSide = w.documentSide := by
  unfold followThemes
  dsimp only
  split
  · exact documentSide_showPalette _ _
  · rfl

/-- Nor does showing the palette in effect. -/
theorem documentSide_showCurrentPalette (w : Window) :
    w.showCurrentPalette.documentSide = w.documentSide :=
  documentSide_showPalette _ _

/-- Nor does another theme file, whether or not it loads. -/
theorem documentSide_loadTheme (w : Window) (p : Path) :
    (w.loadTheme p).1.documentSide = w.documentSide := by
  unfold loadTheme
  split
  · exact documentSide_followThemes _ _
  · rfl
  · rfl

/-- Nor does the choice of one. -/
theorem documentSide_chooseTheme (w : Window) (t : Text) :
    (w.chooseTheme t).1.documentSide = w.documentSide := by
  unfold chooseTheme
  split
  · rfl
  · split
    · rfl
    · split
      · rfl
      · exact w.documentSide_loadTheme _

/-! ## Themes that cannot be followed -/

/-- Why the theme of a path cannot be followed by a window that stands among some accounts and files
and has the theme of another path. A theme that cannot be loaded is no reason, unless it is too
deep. -/
inductive ThemeFailure (accounts : Accounts) (files : FileSystem) (current : Path) (t : Text) :
    Failure → Prop
  | home {e : Path.HomeError} (hblank : Text.isBlank t = false)
      (hhome : (Path.ofText t).expandHome accounts = .error e) :
      ThemeFailure accounts files current t (.home e)
  | tooDeep {p : Path} {e : Json.TooDeep} (hblank : Text.isBlank t = false)
      (hhome : (Path.ofText t).expandHome accounts = .ok p) (hnew : p ≠ current)
      (hload : (ThemeFile.load files p).1 = .error (.tooDeep e)) :
      ThemeFailure accounts files current t (.theme e)

/-- Only a theme that is too deep to be read breaks off the loading. -/
theorem loadTheme_snd_eq_some_iff {p : Path} {f : Failure} : (w.loadTheme p).2 = some f ↔
    ∃ e, (ThemeFile.load w.files p).1 = .error (.tooDeep e) ∧ f = .theme e := by
  unfold loadTheme ThemeManager.setPath
  obtain ⟨theme, files⟩ := ThemeFile.load w.files p
  -- Any other error is told in the status line, and the action goes on.
  cases theme with
  | ok theme => simp [Except.map]
  | error e => cases e <;> simp [Except.map, eq_comm]

/-- A choice breaks off if the home directory of the path cannot be found, or the theme there is too
deep. -/
theorem chooseTheme_snd_eq_some_iff {t : Text} {f : Failure} :
    (w.chooseTheme t).2 = some f ↔ ThemeFailure w.accounts w.files w.themes.path t f := by
  unfold chooseTheme
  constructor
  · intro h
    -- A path that is blank, or that of the theme in effect, leads to no failure.
    split at h
    · simp at h
    · next hblank =>
      rw [Bool.not_eq_true] at hblank
      split at h
      · next hhome =>
        obtain rfl := Option.some.inj h
        exact .home hblank hhome
      · next hhome =>
        split at h
        · simp at h
        · next hnew =>
          obtain ⟨e, hload, rfl⟩ := loadTheme_snd_eq_some_iff.mp h
          exact .tooDeep hblank hhome hnew hload
  · intro h
    cases h with
    | home hblank hhome => simp [hblank, hhome]
    | tooDeep hblank hhome hnew hload =>
      simp only [hblank, Bool.false_eq_true, if_false, hhome, hnew]
      exact loadTheme_snd_eq_some_iff.mpr ⟨_, hload, rfl⟩

/-- Looking at the colours anew keeps the mode. -/
theorem mode_refresh (m : ThemeManager) (colour : Rgb) : (m.refresh colour).2.mode = m.mode := by
  unfold ThemeManager.refresh
  split <;> rfl

/-- It keeps the theme file. -/
theorem path_refresh (m : ThemeManager) (colour : Rgb) : (m.refresh colour).2.path = m.path := by
  unfold ThemeManager.refresh
  split <;> rfl

/-- A mode that is set is the mode. -/
theorem mode_setMode (m : ThemeManager) (mode : ThemeMode) (colour : Rgb) :
    (m.setMode mode colour).2.mode = mode :=
  mode_refresh _ _

/-- Setting it keeps the theme file. -/
theorem path_setMode (m : ThemeManager) (mode : ThemeMode) (colour : Rgb) :
    (m.setMode mode colour).2.path = m.path :=
  path_refresh _ _

/-- Following the themes leaves the files. -/
theorem files_followThemes (w : Window) (announced : Option Palette × ThemeManager) :
    (w.followThemes announced).files = w.files := by
  unfold followThemes
  dsimp only
  split <;> rfl

/-- Following the themes leaves the accounts. -/
theorem accounts_followThemes (w : Window) (announced : Option Palette × ThemeManager) :
    (w.followThemes announced).accounts = w.accounts := by
  unfold followThemes
  dsimp only
  split <;> rfl

/-- It takes the manager as it is after the call. -/
theorem themes_followThemes (w : Window) (announced : Option Palette × ThemeManager) :
    (w.followThemes announced).themes = announced.2 := by
  unfold followThemes
  dsimp only
  split <;> rfl

/-- Following the preferences changes nothing of the document, and breaks off only if their theme
cannot be followed. -/
theorem applyAppearance_spec (w : Window) :
    w.applyAppearance.1.documentSide = w.documentSide ∧
      ∀ f, w.applyAppearance.2 = some f ↔ ThemeFailure w.accounts w.files w.themes.path
        (Preferences.load w.settings w.windowPoints w.editorPoints).themePath f := by
  let p := Preferences.load w.settings w.windowPoints w.editorPoints
  let announced := w.themes.setMode p.themeMode w.colour
  have hside : ((w.followThemes announced).chooseTheme p.themePath).1.documentSide =
      w.documentSide :=
    (documentSide_chooseTheme _ _).trans (documentSide_followThemes _ _)
  have hfailure (f : Failure) : ((w.followThemes announced).chooseTheme p.themePath).2 = some f ↔
      ThemeFailure w.accounts w.files w.themes.path p.themePath f := by
    rw [chooseTheme_snd_eq_some_iff, accounts_followThemes, files_followThemes,
      themes_followThemes, path_setMode]
  show (Result.andThen _ _).1.documentSide = _ ∧ ∀ f, (Result.andThen _ _).2 = some f ↔ _
  -- What comes behind the choice of the theme never breaks off.
  cases hchosen : (w.followThemes announced).chooseTheme p.themePath with
  | mk chosen broken =>
    rw [hchosen] at hside hfailure
    cases broken with
    | none => exact ⟨(documentSide_showCurrentPalette _).trans hside, hfailure⟩
    | some f => exact ⟨hside, hfailure⟩

end SourceEditor.Window
