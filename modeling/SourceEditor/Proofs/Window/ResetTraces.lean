import SourceEditor.Proofs.Settings.SavedPreferences
import SourceEditor.Proofs.Window.Editing
import SourceEditor.Proofs.Window.ListedLanguage

/-!
# A reset leaves no trace

A window that is reset and then closed leaves nothing in the settings that would tell what it was
before: the session that it saves is the one of a window without a past, and its preferences and the
path of its last file are gone. So the window that opens next is the one that opens on settings that
hold nothing, but that it restores the layout.

* `Settings.HoldsNoTrace`: what a reset and a close leave in the settings.
* `Window.ShowsLanguage.documentSide_reset`, `Window.holdsNoTrace_close`: that they leave this.
* `Window.launch_of_holdsNoTrace`: a window that opens on such settings.
* `Window.launch_close_reset`: all this together.
-/

namespace SourceEditor

/-- Settings tell nothing of a past: the session in them is that of a window without one, with the
layout that every window saves, and they hold neither preferences nor the path of a last file. -/
structure Settings.HoldsNoTrace (s : Settings) : Prop where
  session : SavedSession.load s = ⟨some Window.sampleText, [], .kotlin, {}⟩
  preferences : Preferences.load s 13 12 = .standard
  lastOpenPath : s.get .lastOpenPath = .null
  geometry : s.get .geometry = Window.savedGeometry
  windowState : s.get .windowState = Window.savedArrangement

namespace Window

variable {w : Window} {d : Desktop} {s : Settings}

/-! ## Resetting and closing -/

/-- A reset goes through, and leaves a document without a past. -/
theorem ShowsLanguage.documentSide_reset (h : ShowsLanguage w) :
    w.reset.2 = none ∧ w.reset.1.documentSide = withoutPast w.settings.reset := by
  unfold Window.reset
  dsimp only
  generalize w.settings.reset = forgotten
  -- The layout comes first, and then the sample takes the place of the document.
  let told := (tell { w with settings := forgotten } (.restored .geometry savedGeometry)).tell
    (.restored .arrangement savedArrangement)
  obtain ⟨b, hb, hreplaced⟩ := told.exists_replaceDocument (t := sampleText) (by decide +kernel)
  let replaced : Window := { (told.setBuffer told.surface.buffer.selectAll).setBuffer b with
    path := none }
  have hreplacedSide : replaced.documentSide =
      ⟨forgotten, sampleText, none, w.title, w.language, w.listedName, w.find⟩ := by
    have hside : ((told.setBuffer told.surface.buffer.selectAll).setBuffer b).documentSide =
        ⟨forgotten, sampleText, w.path, w.title, w.language, w.listedName, w.find⟩ := by
      rw [documentSide_setBuffer, documentSide_setBuffer, hb]
      rfl
    exact congrArg (fun side => { side with path := none }) hside
  -- Then come the query and the language, which the list has shown so far.
  have hsought : (replaced.setFind {}).documentSide =
      ⟨forgotten, sampleText, none, w.title, w.language, w.listedName, {}⟩ := by
    rw [documentSide_setFind, hreplacedSide]
  have hlanguage : (replaced.setFind {}).language = w.language :=
    congrArg DocumentSide.language hsought
  have hlisted : (replaced.setFind {}).listedName = w.listedName :=
    congrArg DocumentSide.listedName hsought
  have hchosen := documentSide_chooseLanguage (w := replaced.setFind {})
    (by rw [hlisted, hlanguage, h.listedName]) (by rw [hlanguage]; exact h.language)
    (l := .kotlin) List.mem_cons_self
  rw [hsought] at hchosen
  rw [show told.replaceDocument sampleText = _ from hreplaced]
  exact ⟨rfl, congrArg (fun side => { side with title := titleOf none }) hchosen⟩

/-- A window without a past saves a session that tells nothing of one. -/
theorem holdsNoTrace_close (hside : w.documentSide = withoutPast s.reset) :
    (w.step .close).1.settings.HoldsNoTrace := by
  have hsettings : w.settings = s.reset := congrArg DocumentSide.settings hside
  have htext : w.text = sampleText := congrArg DocumentSide.text hside
  have hpath : w.path = none := congrArg DocumentSide.path hside
  have hlanguage : w.language = .kotlin := congrArg DocumentSide.language hside
  have hfind : w.find = {} := congrArg DocumentSide.find hside
  have hsession : w.savedSession = ⟨some sampleText, [], .kotlin, {}⟩ := by
    rw [savedSession, htext, hpath, hlanguage, hfind]
    rfl
  have hclose : (w.step .close).1.settings = SavedSession.save ⟨some sampleText, [], .kotlin, {}⟩
      ((s.reset.set .geometry savedGeometry).set .windowState savedArrangement) := by
    rw [← hsession, ← hsettings]
    rfl
  rw [hclose]
  constructor
  · rw [SavedSession.load_save List.mem_cons_self]
    rfl
  · rw [Preferences.load_saveSession, Preferences.load_set rfl, Preferences.load_set rfl,
      Preferences.load_reset]
  all_goals
    simp [SavedSession.save, SavedSession.draft, SavedSession.Draft.save, Settings.get,
      Settings.get?_set, Settings.get?_reset]

/-! ## Opening -/

/-- A window that follows the standard preferences keeps its theme. -/
theorem applyAppearance_of_standard
    (h : Preferences.load w.settings w.windowPoints w.editorPoints = .standard) :
    w.applyAppearance = (((w.followThemes (w.themes.setMode .auto w.colour)).applySizes
      .standard).showCurrentPalette, none) := by
  unfold applyAppearance
  rw [h]
  rfl

/-- The settings have no part in following a theme. -/
theorem followThemes_withSettings (w : Window) (s : Settings)
    (announced : Option Palette × ThemeManager) :
    followThemes { w with settings := s } announced =
      { w.followThemes announced with settings := s } := by
  unfold followThemes
  dsimp only
  split <;> rfl

/-- A palette has no part in the buffer. -/
theorem buffer_showPalette (w : Window) (p : Palette) :
    (w.showPalette p).surface.buffer = w.surface.buffer := by
  show (Surface.paintMarks _ _).buffer = _
  unfold Surface.paintMarks
  split <;> rfl

/-- Following the themes has none either. -/
theorem buffer_followThemes (w : Window) (announced : Option Palette × ThemeManager) :
    (w.followThemes announced).surface.buffer = w.surface.buffer := by
  unfold followThemes
  dsimp only
  split
  · exact buffer_showPalette _ _
  · rfl

/-- The document of a window that has just opened is taken again, and nothing happens. -/
theorem setText_sampleText (h : w.surface.buffer = { text := sampleText }) :
    w.setText sampleText = (w, none) := by
  have hbuffer : Buffer.ofText sampleText = .ok w.surface.buffer := by
    rw [h]
    rfl
  have hsame : w.setBuffer w.surface.buffer = w := by
    have hsurface : w.surface.setBuffer w.surface.buffer = w.surface := if_pos rfl
    rw [setBuffer, hsurface]
    exact if_pos rfl
  rw [setText, hbuffer, edit, hsame]

/-- A window that is to restore the document and the query that it has stays as it is. -/
theorem restoreSession_eq_self {text : Option Text} (hside : w.documentSide = withoutPast s)
    (hload : SavedSession.load s = ⟨text, [], .kotlin, {}⟩)
    (htext : ∀ t, text = some t → w.setText t = (w, none)) : w.restoreSession = (w, none) := by
  have hsettings : w.settings = s := congrArg DocumentSide.settings hside
  have hfind : w.setFind {} = w := if_pos (congrArg DocumentSide.find hside).symm
  have hlisted : w.chooseLanguage Language.kotlin.name = w :=
    if_neg fun h => h.2 (congrArg DocumentSide.listedName hside).symm
  have hrest : ((w.setFind {}).chooseLanguage Language.kotlin.name, none) =
      ((w, none) : Result) := by
    rw [hfind, hlisted]
  unfold restoreSession
  rw [hsettings, hload]
  cases text with
  | none => exact hrest
  | some t =>
    have hrestored : (if t.isEmpty then (w, none) else w.setText t) = ((w, none) : Result) := by
      rw [htext t rfl]
      exact ite_self _
    dsimp only
    rw [hrestored]
    exact hrest

/-- What a window is when it comes to restore the session, if it opens on settings without
preferences. The settings themselves have no part in it yet. -/
theorem exists_opened_eq (d : Desktop) (theme : Theme) (files : FileSystem) :
    ∃ o : Window, o.surface.buffer = { text := sampleText } ∧
      ∀ s : Settings, Preferences.load s 13 12 = .standard →
        (opening { d with settings := s } theme files).applyAppearance =
          ({ o with settings := s }, none) := by
  let o := fresh { d with files } ⟨standardThemePath, theme, .auto, none⟩ .standard
  refine ⟨((o.followThemes (o.themes.setMode .auto o.colour)).applySizes
    .standard).showCurrentPalette, ?_, fun s hs => ?_⟩
  · show (showPalette _ _).surface.buffer = _
    rw [buffer_showPalette]
    show (o.followThemes _).surface.buffer = _
    rw [buffer_followThemes]
    exact Surface.buffer_setBuffer {} _
  · have hopening : opening { d with settings := s } theme files = { o with settings := s } := by
      unfold opening
      dsimp only
      rw [hs]
      rfl
    rw [hopening, applyAppearance_of_standard (w := { o with settings := s }) hs,
      followThemes_withSettings]
    rfl

/-- Without a last path, the dialog suggests none. -/
theorem suggestedPath_of_lastOpenPath (h : w.settings.get .lastOpenPath = .null) :
    w.suggestedPath = .ok [] := by
  rw [suggestedPath, lastOpenPath?, h]

/-- On settings that hold no trace of a past, the window opens that opens on settings that hold
nothing, but that it restores the layout. -/
theorem launch_of_holdsNoTrace (hs : s.HoldsNoTrace) (d : Desktop) :
    (∃ e, launch { d with settings := s } = .error (.theme e) ∧
      launch { d with settings := {} } = .error (.theme e)) ∨
    ∃ w : Window, w.settings = {} ∧ launch { d with settings := {} } = .ok w ∧
      launch { d with settings := s } = .ok { w with
        settings := s
        notices := w.notices ++
          [.restored .geometry savedGeometry, .restored .arrangement savedArrangement] } := by
  cases hfile : ThemeFile.load d.files standardThemePath with
  | mk loaded files =>
    cases loaded with
    | error e => exact .inl ⟨e, launch_of_not_loaded hfile, launch_of_not_loaded hfile⟩
    | ok theme =>
      obtain ⟨o, hbuffer, hopened⟩ := exists_opened_eq d theme files
      -- Each of the two windows has the sample already when it comes to restore the session.
      have hrestored (s : Settings) (text : Option Text)
          (hpreferences : Preferences.load s 13 12 = .standard)
          (hload : SavedSession.load s = ⟨text, [], .kotlin, {}⟩)
          (htext : ∀ t, text = some t → t = sampleText) :
          launch { d with settings := s } =
            .ok (restoreLayout
              { o.showCurrentPalette with settings := s }).showSession.textChanged := by
        have hside := documentSide_opened { d with settings := s } theme files
        rw [hopened s hpreferences] at hside
        have hself := restoreSession_eq_self hside hload fun t ht => by
          obtain rfl := htext t ht
          apply setText_sampleText
          exact (buffer_showPalette _ _).trans hbuffer
        rw [launch_of_loaded (d := { d with settings := s }) hfile, hopened s hpreferences]
        dsimp only [Result.andThen]
        rw [hself]
        rfl
      have hdefaults : Preferences.load {} 13 12 = .standard := by decide +kernel
      have hempty : SavedSession.load {} = ⟨none, [], .kotlin, {}⟩ := by decide +kernel
      refine .inr ⟨_, ?_, hrestored {} none hdefaults hempty (by simp), ?_⟩
      · rfl
      · rw [hrestored s (some sampleText) hs.preferences hs.session (by simp),
          restoreLayout_of_saved (w := { o.showCurrentPalette with settings := s }) hs.geometry
            hs.windowState]
        rfl

/-- A reset leaves no trace. Whatever was open, typed, looked for or configured in a window, and
whatever its settings hold: once it is reset and closed, the window that opens on its settings is
the one that opens on settings that hold nothing. The two have the same document, title, language
and query, and the same theme, sizes and timeouts, and neither suggests a file to open; they differ
only in what their settings hold, and in the layout that the first one restores. If the theme that
every window begins with cannot be loaded, neither of them opens. -/
theorem launch_close_reset (h : Operated w) (d : Desktop) :
    let reset := w.step .reset
    let closed := reset.1.step .close
    reset.2 = none ∧ closed.2 = none ∧
    ((∃ e, launch { d with settings := closed.1.settings } = .error (.theme e) ∧
        launch { d with settings := {} } = .error (.theme e)) ∨
      ∃ w₀ w₁, launch { d with settings := {} } = .ok w₀ ∧
        launch { d with settings := closed.1.settings } = .ok w₁ ∧
        w₁ = { w₀ with
          settings := closed.1.settings
          notices := w₀.notices ++
            [.restored .geometry savedGeometry, .restored .arrangement savedArrangement] } ∧
        w₀.suggestedPath = .ok [] ∧ w₁.suggestedPath = .ok []) := by
  intro reset closed
  -- What the window told before has no part in the reset.
  have hshows : ShowsLanguage { w with notices := [] } := h.showsLanguage.congr rfl
  obtain ⟨hgoes, hside⟩ := hshows.documentSide_reset
  have htrace : closed.1.settings.HoldsNoTrace := holdsNoTrace_close hside
  refine ⟨hgoes, rfl, ?_⟩
  rcases launch_of_holdsNoTrace htrace d with herror | ⟨w₀, hempty, h₀, h₁⟩
  · exact .inl herror
  · refine .inr ⟨w₀, _, h₀, h₁, rfl, suggestedPath_of_lastOpenPath ?_,
      suggestedPath_of_lastOpenPath htrace.lastOpenPath⟩
    rw [hempty]
    rfl

/-- A window with a document in another language, a query, other preferences and a file, beside the
window that opens after its reset. -/
theorem launch_close_reset_used :
    ∃ w : Window, Operated w ∧
      (w.text = ("print(1)" : Text) ∧ w.language = .python ∧ w.find ≠ {} ∧ w.windowPoints = 20 ∧
        w.suggestedPath ≠ .ok []) ∧
      ∃ w₁ : Window, launch { settings := ((w.step .reset).1.step .close).1.settings } = .ok w₁ ∧
        w₁.text = sampleText ∧ w₁.language = .kotlin ∧ w₁.find = {} ∧ w₁.windowPoints = 13 ∧
        w₁.suggestedPath = .ok [] := by
  let actions : List Action := [.setText "print(1)",
    .setFind { text := "print", wholeWord := true }, .chooseLanguage Language.python.name,
    .openPreferences { modeIndex := some 2, windowPoints := some 20 }, .saveDocumentAs "a.py"]
  obtain ⟨w, hw, hused, hfresh⟩ := exists_launch_eq (d := {}) (P := fun w =>
    let used := w.run actions
    (used.text = ("print(1)" : Text) ∧ used.language = .python ∧ used.find ≠ {} ∧
      used.windowPoints = 20 ∧ used.suggestedPath ≠ .ok []) ∧
    w.text = sampleText ∧ w.language = .kotlin ∧ w.find = {} ∧ w.windowPoints = 13)
    (by decide +kernel)
  have hoperated : Operated (w.run actions) := (Operated.launch hw).run actions (by simp [actions])
  refine ⟨w.run actions, hoperated, hused, ?_⟩
  obtain ⟨-, -, hopens⟩ := launch_close_reset hoperated {}
  -- What the settings hold has done its part.
  generalize (((w.run actions).step .reset).1.step .close).1.settings = settings at hopens ⊢
  rcases hopens with ⟨e, -, herror⟩ | ⟨w₀, w₁, h₀, h₁, rfl, -, hsuggested⟩
  · rw [hw] at herror
    cases herror
  · -- Without settings, the window opens that the other one once was.
    obtain rfl := Except.ok.inj (hw.symm.trans h₀)
    exact ⟨_, h₁, hfresh.1, hfresh.2.1, hfresh.2.2.1, hfresh.2.2.2, hsuggested⟩

end Window

end SourceEditor
