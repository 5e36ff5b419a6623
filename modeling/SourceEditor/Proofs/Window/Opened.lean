import SourceEditor.Proofs.Theme.Loaded
import SourceEditor.Window.Lifecycle

/-!
# Opening a window

A window opens in two steps: its first theme is loaded, and then it follows the settings. Where no
theme file is, the first step is known without reading what has just been written.

* `Window.launch_of_loaded`: how a window opens once its first theme is loaded.
* `Window.launch_of_not_loaded`: no window opens without that theme.
* `Window.launch_of_missing`: how it opens where no theme file is.
* `Window.exists_launch_eq`: what is computed of that window holds of the one that opens.
-/

namespace SourceEditor.Window

variable {d : Desktop}

/-- A window that opens once its first theme is loaded, before it follows the settings. -/
def opening (d : Desktop) (theme : Theme) (files : FileSystem) : Window :=
  let p := Preferences.load d.settings 13 12
  fresh { d with files } ⟨standardThemePath, theme, p.themeMode, none⟩ p

/-- Once its first theme is loaded, a window follows the settings, restores the session and the
layout, and shows itself. -/
theorem launch_of_loaded {theme : Theme} {files : FileSystem}
    (hfile : ThemeFile.load d.files standardThemePath = (.ok theme, files)) :
    launch d = match (opening d theme files).applyAppearance.andThen fun w =>
        w.showCurrentPalette.restoreSession with
      | (_, some f) => .error (.failure f)
      | (w, none) => .ok w.restoreLayout.showSession.textChanged := by
  simp only [launch, ThemeManager.load, hfile, Except.map]
  rfl

/-- Without its first theme, no window opens. -/
theorem launch_of_not_loaded {e : ThemeFile.Error} {files : FileSystem}
    (hfile : ThemeFile.load d.files standardThemePath = (.error e, files)) :
    launch d = .error (.theme e) := by
  simp only [launch, ThemeManager.load, hfile, Except.map]

/-- A window that opens where no theme file is, up to where it shows itself. The theme file then
comes to stand in `place`. -/
def openedWithoutTheme (d : Desktop) (place : List FileName) : Result :=
  (opening d ⟨.dark, .light⟩
    (d.files.put place (.file (Utf8.encode ThemeFile.standardDocument)))).applyAppearance.andThen
      fun w => w.showCurrentPalette.restoreSession

/-- Where no theme file is, the first theme is the standard one. -/
theorem launch_of_missing {place : List FileName}
    (hplace : d.files.place standardThemePath = .ok place) (hnode : d.files.node? place = none)
    (hsucceeds : (openedWithoutTheme d place).2 = none) :
    launch d = .ok (openedWithoutTheme d place).1.restoreLayout.showSession.textChanged := by
  rw [launch_of_loaded (ThemeFile.load_of_missing hplace hnode)]
  unfold openedWithoutTheme at hsucceeds ⊢
  split
  · next hfailed =>
    rw [hfailed] at hsucceeds
    cases hsucceeds
  · next hopened => rw [hopened]

/-- What is computed of a window as it opens where no theme file is holds of the window that opens
there. -/
theorem exists_launch_eq {P : Window → Prop} [DecidablePred P]
    (h : (d.files.place standardThemePath).toOption.any (fun place =>
      d.files.node? place = none ∧ (openedWithoutTheme d place).2 = none ∧
        P (openedWithoutTheme d place).1.restoreLayout.showSession.textChanged) = true) :
    ∃ w, launch d = .ok w ∧ P w := by
  cases hplace : d.files.place standardThemePath with
  | ok place =>
    rw [hplace] at h
    obtain ⟨hnode, hsucceeds, hP⟩ := of_decide_eq_true h
    exact ⟨_, launch_of_missing hplace hnode hsucceeds, hP⟩
  | error e =>
    rw [hplace] at h
    cases h

end SourceEditor.Window
