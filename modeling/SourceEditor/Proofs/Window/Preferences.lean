import SourceEditor.Proofs.Window.Restored
import SourceEditor.Proofs.Window.SettingsSide

/-!
# Whether a window is in step with its settings

A window takes the preferences out of its settings when it opens and whenever the preferences dialog
is accepted. Then it has what a fresh window on the same settings would have, and nothing else that
happens to it changes that, with two exceptions. Preferences that name no theme leave a window the
theme file it has, while a fresh one has the standard theme. And a reset takes the preferences out
of the settings, but the window keeps what it had taken of them.

* `Window.Course`: how windows come about while every theme that is asked for can be had.
* `Window.Standing`: what the window last did with the preferences in its settings.
* `Window.setup_course`: what the window has of its preferences, beside what a fresh one would have.
-/

namespace SourceEditor

/-- The theme file that some preferences ask for among some accounts, if not the current one. -/
def Preferences.themeFile (p : Preferences) (accounts : Accounts) (current : Path) :
    Except Path.HomeError Path :=
  if Text.isBlank p.themePath then .ok current else (Path.ofText p.themePath).expandHome accounts

/-- Preferences without a theme ask for the theme file in use. -/
theorem Preferences.themeFile_of_isBlank {p : Preferences} (h : Text.isBlank p.themePath = true)
    (accounts : Accounts) (current : Path) : p.themeFile accounts current = .ok current :=
  if_pos h

/-- Preferences with a theme ask for its file, whatever is in use. -/
theorem Preferences.themeFile_of_not_isBlank {p : Preferences}
    (h : ¬ Text.isBlank p.themePath = true) (accounts : Accounts) (current : Path) :
    p.themeFile accounts current = (Path.ofText p.themePath).expandHome accounts :=
  if_neg h

/-- The theme file that some preferences ask for can be had: it is in use already, or it loads. -/
structure Preferences.ThemeLoads (p : Preferences) (accounts : Accounts) (files : FileSystem)
    (current path : Path) : Prop where
  file : p.themeFile accounts current = .ok path
  loads : path = current ∨ ∃ theme, (ThemeFile.load files path).1 = .ok theme

/-- A window that opens can have the standard theme, and then the one that it is to have. -/
structure Desktop.ThemesLoad (d : Desktop) : Prop where
  standard : ∃ theme, (ThemeFile.load d.files Window.standardThemePath).1 = .ok theme
  preferred : ∃ path, (Preferences.load d.settings 13 12).ThemeLoads d.accounts
    (ThemeFile.load d.files Window.standardThemePath).2 Window.standardThemePath path

/-- The next window can restore the text in the settings, if they hold one. -/
def Settings.IsRestorable (s : Settings) : Prop :=
  ∀ t, s.get .editorText = .string t → Utf8.isEncodable t = true

namespace Window

variable {d : Desktop} {w w' : Window}

/-- What is in effect of some preferences in a window with a theme file. -/
def Setup.of (p : Preferences) (theme : Path) : Setup where
  themeMode := p.themeMode
  themePath := theme
  windowPoints := p.windowPoints
  editorPoints := p.editorPoints
  fontPoints := p.editorPoints
  healthTimeout := .ofInt p.healthSeconds
  compileTimeout := .ofInt p.compileSeconds

/-- What is in effect in a window that was never told of any preferences. -/
def Setup.standard : Setup :=
  .of .standard standardThemePath

/-- What a fresh window among some accounts has in effect of some preferences. -/
def Setup.IsFresh (s : Setup) (accounts : Accounts) (p : Preferences) : Prop :=
  ∃ path, p.themeFile accounts standardThemePath = .ok path ∧ s = .of p path

/-- The preferences in the settings of a window, as a fresh window reads them. -/
def preferences (w : Window) : Preferences :=
  Preferences.load w.settings 13 12

/-! ## Following preferences -/

/-- A theme file that loads is the theme file in use. -/
theorem loadTheme_of_loaded {path : Path} {theme : Theme}
    (h : (ThemeFile.load w.files path).1 = .ok theme) :
    (w.loadTheme path).2 = none ∧
      (w.loadTheme path).1.setup = { w.setup with themePath := path } := by
  unfold loadTheme ThemeManager.setPath
  cases hload : ThemeFile.load w.files path with
  | mk loaded files =>
    rw [hload] at h
    obtain rfl : loaded = .ok theme := h
    refine ⟨rfl, ?_⟩
    exact setup_followThemes _ _

/-- So is one that preferences ask for, if it can be had. -/
theorem chooseTheme_of_themeLoads {p : Preferences} {path : Path}
    (h : p.ThemeLoads w.accounts w.files w.themes.path path) :
    (w.chooseTheme p.themePath).2 = none ∧
      (w.chooseTheme p.themePath).1.setup = { w.setup with themePath := path } := by
  obtain ⟨hfile, hloads⟩ := h
  unfold chooseTheme
  split
  · next hblank =>
    rw [Preferences.themeFile_of_isBlank hblank] at hfile
    obtain rfl := Except.ok.inj hfile
    exact ⟨rfl, rfl⟩
  · next hnamed =>
    rw [Preferences.themeFile_of_not_isBlank hnamed] at hfile
    rw [hfile]
    dsimp only
    -- The theme in use is not loaded again.
    split
    · next hsame =>
      rw [hsame]
      exact ⟨rfl, rfl⟩
    · next hnew =>
      obtain ⟨theme, htheme⟩ := hloads.resolve_left hnew
      exact loadTheme_of_loaded htheme

/-- A window that follows its preferences has all of them in effect, if their theme can be had. -/
theorem applyAppearance_of_themeLoads {path : Path}
    (h : (Preferences.load w.settings w.windowPoints w.editorPoints).ThemeLoads
      w.accounts w.files w.themes.path path) :
    w.applyAppearance.2 = none ∧ w.applyAppearance.1.setup =
      .of (Preferences.load w.settings w.windowPoints w.editorPoints) path := by
  let p := Preferences.load w.settings w.windowPoints w.editorPoints
  let announced := w.themes.setMode p.themeMode w.colour
  have hfollowed : p.ThemeLoads (w.followThemes announced).accounts
      (w.followThemes announced).files (w.followThemes announced).themes.path path := by
    rw [accounts_followThemes, files_followThemes, themes_followThemes, path_setMode]
    exact h
  obtain ⟨hgoes, hsetup⟩ := chooseTheme_of_themeLoads hfollowed
  show (Result.andThen _ _).2 = none ∧ (Result.andThen _ _).1.setup = _
  cases hchosen : (w.followThemes announced).chooseTheme p.themePath with
  | mk chosen broken =>
    rw [hchosen] at hgoes hsetup
    obtain rfl : broken = none := hgoes
    refine ⟨rfl, ?_⟩
    -- The choice of the theme keeps the mode; the sizes and timeouts all come behind it.
    have hmode : chosen.themes.mode = p.themeMode := by
      rw [← mode_setMode w.themes p.themeMode w.colour, ← w.themes_followThemes announced]
      exact congrArg Setup.themeMode hsetup
    have hpath : chosen.themes.path = path := congrArg Setup.themePath hsetup
    show Setup.mk chosen.themes.mode chosen.themes.path _ _ _ _ _ = _
    rw [hmode, hpath]
    rfl

/-- The preferences in the dialog when the user is done with it. -/
def accepted (w : Window) (e : PreferencesDialog.Edits) : Preferences :=
  ((PreferencesDialog.ofPreferences
    (Preferences.load w.settings w.windowPoints w.editorPoints)).edit e).preferences

/-- The dialog keeps to what can be saved, so that loading finds it unchanged. -/
theorem normalized_accepted (w : Window) (e : PreferencesDialog.Edits) :
    (w.accepted e).normalized = w.accepted e := by
  have hnumber (r : Preferences.Range) (n : Option Int) (shown : Int) :
      r.clamp ((n.map r.clamp).getD (r.clamp shown)) = (n.map r.clamp).getD (r.clamp shown) := by
    cases n <;> exact r.clamp_clamp _
  -- Every number in the dialog was moved into its range when it came there.
  unfold accepted Preferences.normalized PreferencesDialog.preferences
  simp only [PreferencesDialog.edit, PreferencesDialog.ofPreferences, PreferencesDialog.opened,
    hnumber, Text.trim_trim]

/-- Preferences that are accepted are saved and in effect, if their theme can be had. -/
theorem openPreferences_of_accept {e : PreferencesDialog.Edits} (he : e.accept = true)
    {path : Path} (h : (w.accepted e).ThemeLoads w.accounts w.files w.themes.path path) :
    (w.openPreferences e).1.setup = .of (w.accepted e) path ∧
      (w.openPreferences e).1.settings = (w.accepted e).save w.settings := by
  -- Whether a dialog for a theme file opened before makes no difference.
  have hfollows (u : Window) (hsettings : u.settings = (w.accepted e).save w.settings)
      (haccounts : u.accounts = w.accounts) (hfiles : u.files = w.files)
      (hpath : u.themes.path = w.themes.path) :
      u.applyAppearance.1.setup = .of (w.accepted e) path ∧
        u.applyAppearance.1.settings = (w.accepted e).save w.settings := by
    have hload (m n : Int) : Preferences.load u.settings m n = w.accepted e := by
      rw [hsettings, Preferences.load_save, normalized_accepted]
    have hloads : (Preferences.load u.settings u.windowPoints u.editorPoints).ThemeLoads
        u.accounts u.files u.themes.path path := by
      rw [hload, haccounts, hfiles, hpath]
      exact h
    refine ⟨?_, ?_⟩
    · rw [(applyAppearance_of_themeLoads hloads).2, hload]
    · rw [← hsettings]
      exact congrArg DocumentSide.settings u.applyAppearance_spec.1
  unfold openPreferences
  dsimp only
  rw [if_pos he]
  cases e.browse with
  | none => exact hfollows _ rfl rfl rfl rfl
  | some chosen => exact hfollows _ rfl rfl rfl rfl

/-! ## Opening -/

/-- What is not an error is a result. -/
theorem exists_eq_ok {ε α : Type} {x : Except ε α} (h : x.isOk = true) : ∃ a, x = .ok a := by
  cases x with
  | ok a => exact ⟨a, rfl⟩
  | error e => exact absurd h Bool.false_ne_true

/-- Preferences that name no theme ask for no more than the standard one. -/
theorem themesLoad_of_isBlank
    (hload : (ThemeFile.load d.files standardThemePath).1.isOk = true)
    (hblank : Text.isBlank (Preferences.load d.settings 13 12).themePath = true) :
    d.ThemesLoad where
  standard := exists_eq_ok hload
  preferred := ⟨standardThemePath, Preferences.themeFile_of_isBlank hblank _ _, .inl rfl⟩

/-- Only a text without a form in UTF-8 is refused. -/
theorem setText_snd_eq_none_iff {t : Text} :
    (w.setText t).2 = none ↔ Utf8.isEncodable t = true := by
  cases ht : Utf8.isEncodable t with
  | true =>
    obtain ⟨b, -, hset⟩ := setText_of_isEncodable ht w
    rw [hset]
    exact iff_of_true rfl rfl
  | false =>
    obtain ⟨e, he⟩ := Buffer.exists_ofText_eq_error ht
    rw [setText, he, edit]
    exact iff_of_false (by simp) (by simp)

/-- Before something that never breaks off, only the beginning can. -/
theorem andThen_snd_eq_none_iff {r : Result} {next : Window → Result}
    (hnext : ∀ w, (next w).2 = none) : (r.andThen next).2 = none ↔ r.2 = none := by
  obtain ⟨w', _ | e⟩ := r
  · exact iff_of_true (hnext w') rfl
  · exact Iff.rfl

/-- Only the text can keep a session from being restored. -/
theorem restoreSession_snd_eq_none_iff :
    w.restoreSession.2 = none ↔ w.settings.IsRestorable := by
  unfold restoreSession Settings.IsRestorable SavedSession.load
  dsimp only
  -- What comes behind the text never breaks off.
  rw [andThen_snd_eq_none_iff fun _ => rfl]
  generalize w.settings.get .editorText = value
  cases value with
  | string t =>
    show (if t.isEmpty then (w, none) else w.setText t).2 = none ↔ _
    split
    · next hempty =>
      rw [List.isEmpty_iff] at hempty
      simp [hempty, Utf8.isEncodable]
    · simp [setText_snd_eq_none_iff]
  | _ => simp [SavedSession.textOf?]

/-- A window whose themes load has what a fresh one is to have when it comes to restore the session,
which is all that can keep it from opening. -/
theorem launch_of_themesLoad (h : d.ThemesLoad) :
    ∃ o : Window, o.setup.IsFresh d.accounts (Preferences.load d.settings 13 12) ∧
      o.settings = d.settings ∧ launch d = match o.restoreSession with
        | (_, some f) => .error (.failure f)
        | (w, none) => .ok w.restoreLayout.showSession.textChanged := by
  obtain ⟨⟨theme, htheme⟩, path, hpreferred⟩ := h
  cases hfile : ThemeFile.load d.files standardThemePath with
  | mk loaded files =>
    rw [hfile] at htheme hpreferred
    obtain rfl : loaded = .ok theme := htheme
    -- The first theme is there; following the preferences does not break off, since theirs is too.
    obtain ⟨hgoes, hsetup⟩ := applyAppearance_of_themeLoads (w := opening d theme files) hpreferred
    have hsettings : (opening d theme files).applyAppearance.1.settings = d.settings :=
      congrArg DocumentSide.settings (applyAppearance_spec _).1
    rw [launch_of_loaded hfile]
    cases happeared : (opening d theme files).applyAppearance with
    | mk appeared broken =>
      rw [happeared] at hgoes hsetup hsettings
      obtain rfl : broken = none := hgoes
      exact ⟨appeared.showCurrentPalette, ⟨path, hpreferred.file, hsetup⟩, hsettings, rfl⟩

/-- A window opens if its themes load and the text that is saved can be restored. -/
theorem exists_launch (h : d.ThemesLoad) (hd : d.settings.IsRestorable) :
    ∃ w, launch d = .ok w := by
  obtain ⟨o, -, hsettings, hlaunch⟩ := launch_of_themesLoad h
  have hgoes : o.restoreSession.2 = none := by
    rw [restoreSession_snd_eq_none_iff, hsettings]
    exact hd
  cases hrestored : o.restoreSession with
  | mk restored broken =>
    rw [hrestored] at hgoes hlaunch
    obtain rfl : broken = none := hgoes
    exact ⟨_, hlaunch⟩

/-- A fresh window has what its preferences ask for, its settings hold the same preferences as
before, and a text that can be restored. -/
theorem isFresh_launch (h : d.ThemesLoad) (hw : launch d = .ok w) :
    w.setup.IsFresh w.accounts w.preferences ∧ w.preferences = Preferences.load d.settings 13 12 ∧
      w.settings.IsRestorable := by
  obtain ⟨o, hfresh, hsettings, hlaunch⟩ := launch_of_themesLoad h
  have hside := o.settingsSide_restoreSession
  cases hrestored : o.restoreSession with
  | mk restored broken =>
    rw [hrestored] at hlaunch hside
    cases broken with
    | some f => simp [hlaunch] at hw
    | none =>
      rw [hlaunch] at hw
      obtain rfl := Except.ok.inj hw
      have hrestorable : o.settings.IsRestorable := by
        rw [← restoreSession_snd_eq_none_iff, hrestored]
      -- What comes behind the session leaves all of this alone.
      have hkept :
          restored.restoreLayout.showSession.textChanged.settingsSide = o.settingsSide := by
        rw [settingsSide_textChanged, settingsSide_showSession,
          apart_settingsSide.restoreLayout, hside]
      simp only [settingsSide, Prod.mk.injEq] at hkept
      obtain ⟨hsetup, hload, htext, -⟩ := hkept
      have haccounts := congrArg Prod.fst (surroundings_launch hlaunch)
      change Desktop.accounts _ = d.accounts at haccounts
      unfold preferences
      rw [hsetup, haccounts, hload, hsettings]
      refine ⟨hfresh, rfl, ?_⟩
      intro t ht
      rw [htext] at ht
      exact hrestorable t ht

/-! ## Courses -/

/-- What a window last did with the preferences in its settings. -/
inductive Standing
  /-- It followed them, and they decided everything. -/
  | followed
  /-- It followed them, but they name no theme, and so it kept a theme file. -/
  | ownTheme (kept : Path)
  /-- It took them out of its settings, and kept what it had in effect. -/
  | reset (kept : Setup)

/-- The standing of a window after an action. -/
def Standing.after (st : Standing) (w : Window) : Action → Standing
  | .openPreferences e =>
    if e.accept then
      if Text.isBlank (w.accepted e).themePath then .ownTheme w.themes.path else .followed
    else st
  | .reset => .reset w.setup
  | _ => st

/-- Whether a fresh window would have the same in effect as one with some standing. -/
def Standing.InStep : Standing → Prop
  | .followed => True
  | .ownTheme kept => kept = standardThemePath
  | .reset kept => kept = .standard

/-- The theme file that an action asks for can be had, if it asks for one. -/
def ThemeLoads (w : Window) (a : Action) : Prop :=
  ∀ e, a = .openPreferences e → e.accept = true →
    ∃ path, (w.accepted e).ThemeLoads w.accounts w.files w.themes.path path

/-- How windows come about while every theme that is asked for can be had. Besides the actions,
these are the edits and the calls of the session, at any time. -/
inductive Course : Standing → Window → Prop
  | launch {d : Desktop} {w : Window} (h : launch d = .ok w) (hloads : d.ThemesLoad) :
      Course .followed w
  | step {st : Standing} {w : Window} (h : Course st w) {a : Action} (hloads : w.ThemeLoads a) :
      Course (st.after w a) (w.step a).1
  | edit {st : Standing} {w : Window} (h : Course st w) (b : Buffer) : Course st (w.setBuffer b)
  | call {st : Standing} {w : Window} (h : Course st w) (c : Session.Call) :
      Course st (w.followSession (c.respond w.session))

/-- What holds of a window by its standing. -/
def Standing.Holds (w : Window) : Standing → Prop
  | .followed => w.setup.IsFresh w.accounts w.preferences
  | .ownTheme kept =>
    Text.isBlank w.preferences.themePath = true ∧ w.setup = .of w.preferences kept
  | .reset kept => w.preferences = .standard ∧ w.setup = kept

/-- A window has what its standing says, and its settings hold a text that can be restored. -/
structure Stands (st : Standing) (w : Window) : Prop where
  holds : st.Holds w
  restorable : w.settings.IsRestorable

variable {st : Standing}

/-- What holds by a standing has to do with what is in effect, the preferences and the accounts
alone. -/
theorem Standing.Holds.congr (h : st.Holds w) (hsetup : w'.setup = w.setup)
    (hpreferences : w'.preferences = w.preferences) (haccounts : w'.accounts = w.accounts) :
    st.Holds w' := by
  cases st with
  | followed | ownTheme kept | reset kept =>
    simp only [Holds, hsetup, hpreferences, haccounts]
    exact h

/-- What leaves the settings side alone leaves the standing. -/
theorem Stands.congr (h : Stands st w) (hside : w'.settingsSide = w.settingsSide) :
    Stands st w' := by
  simp only [settingsSide, Prod.mk.injEq] at hside
  obtain ⟨hsetup, hload, htext, haccounts⟩ := hside
  refine ⟨h.holds.congr hsetup (congrFun₂ hload 13 12) haccounts, ?_⟩
  intro t ht
  rw [htext] at ht
  exact h.restorable t ht

/-- Preferences that are accepted decide the standing. -/
theorem Stands.accept (h : Stands st w) {e : PreferencesDialog.Edits} (he : e.accept = true)
    {path : Path} (hloads : (w.accepted e).ThemeLoads w.accounts w.files w.themes.path path) :
    Stands (st.after w (.openPreferences e)) (w.openPreferences e).1 := by
  obtain ⟨hsetup, hsettings⟩ := openPreferences_of_accept he hloads
  have hpreferences : (w.openPreferences e).1.preferences = w.accepted e := by
    rw [preferences, hsettings, Preferences.load_save, normalized_accepted]
  refine ⟨?_, ?_⟩
  · have hfile := hloads.file
    simp only [Standing.after, he, if_true]
    split
    · next hblank =>
      -- The theme in use has stayed.
      rw [Preferences.themeFile_of_isBlank hblank] at hfile
      obtain rfl := Except.ok.inj hfile
      simp only [Standing.Holds, hpreferences]
      exact ⟨hblank, hsetup⟩
    · next hnamed =>
      -- A fresh window comes to the same theme file, whatever theme it has before.
      rw [Preferences.themeFile_of_not_isBlank hnamed] at hfile
      have haccounts : (w.openPreferences e).1.accounts = w.accounts :=
        congrArg Prod.fst (w.adjustments_openPreferences e).surroundings_eq
      refine ⟨path, ?_, ?_⟩
      · rw [hpreferences, haccounts, Preferences.themeFile_of_not_isBlank hnamed, hfile]
      · rw [hpreferences, hsetup]
  · intro t ht
    rw [hsettings, Preferences.get_save rfl] at ht
    exact h.restorable t ht

/-- So does a reset. -/
theorem stands_reset (w : Window) : Stands (.reset w.setup) w.reset.1 := by
  have hforgotten : Stands (.reset w.setup) { w with settings := w.settings.reset } := by
    refine ⟨⟨Preferences.load_reset _, w.setup_withSettings _⟩, ?_⟩
    intro t ht
    simp [Settings.get, Settings.get?_reset] at ht
  exact hforgotten.congr w.settingsSide_reset

/-- Closing leaves it. -/
theorem Stands.close (h : Stands st w) : Stands st w.close := by
  have hload : Preferences.load w.close.settings = Preferences.load w.settings := by
    show Preferences.load (w.savedSession.save _) = _
    rw [Preferences.load_saveSession, Preferences.load_set rfl, Preferences.load_set rfl]
  have htext : w.close.settings.get .editorText = .string w.text := by
    show (SavedSession.save _ _).get .editorText = _
    simp [SavedSession.save, SavedSession.draft, SavedSession.Draft.save, savedSession,
      Settings.get_set]
  refine ⟨h.holds.congr rfl (congrFun₂ hload 13 12) rfl, ?_⟩
  -- What an editor holds can always be encoded, and so it can be restored.
  intro t ht
  rw [htext] at ht
  obtain rfl := Json.Value.string.inj ht
  exact w.surface.buffer.isEncodable_text

/-- Whatever a window does, it has what its standing says. -/
theorem Stands.perform (h : Stands st w) {a : Action} (hloads : w.ThemeLoads a) :
    Stands (st.after w a) (w.perform a).1 := by
  -- The settings side moves at three actions only, and the standing at two of them.
  cases ha : a.isForSettings with
  | false =>
    have hstays : st.after w a = st := by
      cases a with
      | openPreferences e => exact if_neg (by simpa [Action.isForSettings] using ha)
      | reset => exact absurd ha.symm Bool.false_ne_true
      | _ => rfl
    rw [hstays]
    exact h.congr (w.settingsSide_perform ha)
  | true =>
    cases a with
    | openPreferences e =>
      obtain ⟨path, hpath⟩ := hloads e rfl ha
      exact h.accept ha hpath
    | reset => exact w.stands_reset
    | close => exact h.close
    | _ => exact absurd ha Bool.false_ne_true

/-- So it is however the window came about. -/
theorem Course.stands (h : Course st w) : Stands st w := by
  induction h with
  | launch hlaunch hloads =>
    obtain ⟨hfresh, -, hrestorable⟩ := isFresh_launch hloads hlaunch
    exact ⟨hfresh, hrestorable⟩
  | @step st w h a hloads ih =>
    -- A step begins with forgetting what the window told, which nothing of this reads.
    have hforgot : Stands st { w with notices := [] } := ih.congr rfl
    have hsame : st.after { w with notices := [] } a = st.after w a := by cases a <;> rfl
    rw [← hsame]
    exact hforgot.perform hloads
  | edit h b ih => exact ih.congr (apart_settingsSide.setBuffer _ b)
  | call h c ih => exact ih.congr (apart_settingsSide.followSession _ c)

/-- Fresh windows on the same preferences have the same in effect. -/
theorem Setup.IsFresh.unique {s s' : Setup} {accounts : Accounts} {p : Preferences}
    (h : s.IsFresh accounts p) (h' : s'.IsFresh accounts p) : s = s' := by
  obtain ⟨path, hpath, rfl⟩ := h
  obtain ⟨path', hpath', rfl⟩ := h'
  obtain rfl := Except.ok.inj (hpath.symm.trans hpath')
  rfl

/-- What a fresh window has if its preferences name no theme. -/
theorem Setup.IsFresh.of_isBlank {s : Setup} {accounts : Accounts} {p : Preferences}
    (hblank : Text.isBlank p.themePath = true) (h : s.IsFresh accounts p) :
    s = .of p standardThemePath := by
  apply h.unique
  exact ⟨standardThemePath, Preferences.themeFile_of_isBlank hblank _ _, rfl⟩

/-- However a window came about while every theme that was asked for could be had: if the themes of
its settings load, a fresh window opens on them. The mode, the theme file, the sizes and the
timeouts that the two windows have in effect are the same, where the accounts are, exactly if the
window is in step by its standing. A window that was last told of preferences without a theme
differs in the theme file alone, which it has kept. A window that was reset has kept everything,
while the fresh one has the defaults. -/
theorem setup_course (h : Course st w) (hd : d.settings = w.settings) (hloads : d.ThemesLoad) :
    ∃ w', launch d = .ok w' ∧ (d.accounts = w.accounts → (w.setup = w'.setup ↔ st.InStep)) ∧
      (∀ kept, st = .ownTheme kept → w.setup = { w'.setup with themePath := kept }) ∧
      (∀ kept, st = .reset kept → w.setup = kept ∧ w'.setup = .standard) := by
  obtain ⟨hholds, hrestorable⟩ := h.stands
  rw [← hd] at hrestorable
  obtain ⟨w', hw'⟩ := exists_launch hloads hrestorable
  obtain ⟨hfresh, hpreferences, -⟩ := isFresh_launch hloads hw'
  have hsame : w'.preferences = w.preferences := by rw [hpreferences, hd]; rfl
  have haccounts : w'.accounts = d.accounts := congrArg Prod.fst (surroundings_launch hw')
  rw [hsame, haccounts] at hfresh
  refine ⟨w', hw', ?_⟩
  -- What the fresh window has is known by now, and what the other one has depends on its standing.
  cases st with
  | followed =>
    refine ⟨fun hmachine => ?_, by simp, by simp⟩
    rw [hmachine] at hfresh
    exact iff_of_true (hholds.unique hfresh) trivial
  | ownTheme kept =>
    obtain ⟨hblank, hsetup⟩ := hholds
    have hstandard : w'.setup = .of w.preferences standardThemePath := hfresh.of_isBlank hblank
    rw [hsetup, hstandard]
    refine ⟨fun _ => ⟨fun h => congrArg Setup.themePath h, ?_⟩, ?_, by simp⟩
    · rintro rfl
      rfl
    · intro other hother
      obtain rfl := Standing.ownTheme.inj hother
      rfl
  | reset kept =>
    obtain ⟨hdefaults, hsetup⟩ := hholds
    -- The defaults name no theme.
    rw [hdefaults] at hfresh
    have hstandard : w'.setup = .standard := hfresh.of_isBlank rfl
    rw [hsetup, hstandard]
    refine ⟨fun _ => Iff.rfl, by simp, ?_⟩
    intro other hother
    exact ⟨Standing.reset.inj hother, rfl⟩

/-- A window whose preferences named a theme and a size before it was reset, beside a fresh one. -/
theorem setup_course_reset :
    ∃ w w' : Window, ∃ kept, Course (.reset kept) w ∧
      launch { settings := w.settings, files := w.files } = .ok w' ∧
      w'.setup = .standard ∧ w.setup ≠ w'.setup := by
  let named : PreferencesDialog.Edits := { themePath := some "other.json", windowPoints := some 20 }
  -- The themes that the run loads are computed with it.
  obtain ⟨w, hw, hfile, hkept, hblank, hfirst, hnamed, hstandard⟩ := exists_launch_eq (d := {})
    (P := fun w =>
      let after := ((w.step (.openPreferences named)).1.step .reset).1
      (w.accepted named).themeFile w.accounts w.themes.path = .ok (.ofText "other.json") ∧
        after.setup ≠ .standard ∧ Text.isBlank after.preferences.themePath = true ∧
        (ThemeFile.load FileSystem.empty standardThemePath).1.isOk = true ∧
        (ThemeFile.load w.files (.ofText "other.json")).1.isOk = true ∧
        (ThemeFile.load after.files standardThemePath).1.isOk = true) (by decide +kernel)
  have hloads : w.ThemeLoads (.openPreferences named) := by
    rintro e he -
    obtain rfl := Action.openPreferences.inj he
    exact ⟨_, hfile, .inr (exists_eq_ok hnamed)⟩
  have hcourse := (Course.launch hw (themesLoad_of_isBlank hfirst rfl)).step hloads
  have hreset := hcourse.step (a := .reset) fun e he => absurd he (by simp)
  -- How the two windows came about has done its part.
  generalize (w.step (.openPreferences named)).1 = told at *
  generalize (told.step .reset).1 = after at *
  replace hreset : Course (.reset told.setup) after := hreset
  let d : Desktop := { settings := after.settings, files := after.files }
  obtain ⟨w', hw', -, -, hdefaults⟩ := setup_course (d := d) hreset rfl
    (themesLoad_of_isBlank hstandard hblank)
  have hfresh : w'.setup = .standard := (hdefaults _ rfl).2
  refine ⟨after, w', told.setup, hreset, hw', hfresh, ?_⟩
  rw [hfresh]
  exact hkept

end Window

end SourceEditor
