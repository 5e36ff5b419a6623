import SourceEditor.Proofs.Editor.Selection
import SourceEditor.Proofs.Settings.SavedValues
import SourceEditor.Proofs.Window.Appearance
import SourceEditor.Proofs.Window.Opened
import SourceEditor.Proofs.Window.Painted
import SourceEditor.Proofs.Window.Rules

/-!
# Closing a window and opening it again

A window that opens on the settings that another one left behind has the document of that window,
its language and its find bar. An empty text is the exception: it is saved, but the sample comes in
its place.

* `Window.Savable`: what every window has that can come about, so that it can be saved as a text.
* `Window.ThemeTrouble`: the only reasons for which no window opens.
* `Window.launch_close`: what opens after a window was closed.
-/

namespace SourceEditor.Window

variable {d : Desktop} {w w' : Window}

/-! ## What can be saved -/

/-- What a window has to save can be told from its name or its text. -/
structure Savable (w : Window) : Prop where
  title : w.title = titleOf w.path
  path : ∀ p, w.path = some p → p.IsNormal
  language : w.language ∈ Language.all

/-- What can be saved has to do with the title, the path and the language alone. -/
theorem Savable.congr (h : Savable w) (htitle : w'.title = w.title) (hpath : w'.path = w.path)
    (hlanguage : w'.language = w.language) : Savable w' where
  title := by rw [htitle, hpath, h.title]
  path := by rw [hpath]; exact h.path
  language := by rw [hlanguage]; exact h.language

/-- Every change leaves something that can be saved. -/
theorem Adjustment.savable (hchange : Adjustment w w') (h : Savable w) : Savable w' := by
  cases hchange with
  | buffer b =>
    obtain ⟨_, _, hset⟩ := w.exists_setBuffer_eq b
    rw [hset]
    exact h.congr rfl rfl rfl
  | timer =>
    obtain ⟨_, _, hset⟩ := w.exists_timer_eq
    rw [hset]
    exact h.congr rfl rfl rfl
  | find q =>
    obtain ⟨_, hset⟩ := w.exists_setFind_eq q
    rw [hset]
    exact h.congr rfl rfl rfl
  | language name =>
    obtain ⟨_, _, _, _, hset⟩ := w.exists_setLanguage_eq name
    rw [hset]
    exact ⟨h.title, h.path, Language.ofName_mem_all name⟩
  | renamed path hpath => exact ⟨rfl, fun p hp => (hpath p hp).elim (h.path p) id, h.language⟩
  | _ => exact h.congr rfl rfl rfl

/-- So does everything that comes from the compiler. -/
theorem Report.savable (hchange : Report w w') (h : Savable w) : Savable w' := by
  cases hchange with
  | call c =>
    obtain ⟨_, _, _, _, _, hheard⟩ := w.exists_followSession_eq (c.respond w.session)
    rw [hheard]
    exact h.congr rfl rfl rfl
  | _ => exact h.congr rfl rfl rfl

/-- So every window that can come about can be saved. -/
theorem Reachable.savable (h : Reachable w) : Savable w :=
  h.induction (fun d themes p => ⟨rfl, by simp [fresh], by simp [fresh, Language.all]⟩)
    (fun _ _ hchange => hchange.savable) fun _ _ hchange => hchange.savable

/-! ## Restoring -/

/-- A text that has a form in UTF-8 is taken. -/
theorem setText_of_isEncodable {t : Text} (h : Utf8.isEncodable t = true) (w : Window) :
    ∃ b : Buffer, b.text = t ∧ w.setText t = (w.setBuffer b, none) := by
  obtain ⟨b, hb, htext⟩ := Buffer.exists_ofText h
  exact ⟨b, htext, by rw [setText, hb, edit]⟩

/-- Another buffer is another text. -/
theorem documentSide_setBuffer (w : Window) (b : Buffer) :
    (w.setBuffer b).documentSide = { w.documentSide with text := b.text } := by
  obtain ⟨_, _, h⟩ := w.exists_setBuffer_eq b
  rw [h, ← w.surface.text_setBuffer b]
  rfl

/-- Another query is another query, and nothing else. -/
theorem documentSide_setFind (w : Window) (q : Query) :
    (w.setFind q).documentSide = { w.documentSide with find := q } := by
  obtain ⟨_, h⟩ := w.exists_setFind_eq q
  rw [h]
  rfl

/-- Choosing a language of the list leads to it, if the list shows the language in use. -/
theorem documentSide_chooseLanguage (hlisted : w.listedName = w.language.name)
    (hw : w.language ∈ Language.all) {l : Language} (hl : l ∈ Language.all) :
    (w.chooseLanguage l.name).documentSide =
      { w.documentSide with language := l, listedName := l.name } := by
  have hsome : (Language.ofName? l.name).isSome = true :=
    List.find?_isSome.mpr ⟨l, hl, by simp⟩
  unfold chooseLanguage
  split
  · unfold setLanguage
    rw [Language.ofName_name hl]
    dsimp only
    split
    · next h => subst h; rfl
    · -- Whether there are rules for it or not, the language is taken.
      obtain ⟨notices, hwarned⟩ := exists_warnOfRules_eq
        { w with language := l, listedName := l.name, rules := w.ruleFiles.rulesOf l }
      rw [hwarned]
      rfl
  · next h =>
    -- The list shows the language that is wanted, and so the window has it.
    have hname : l.name = w.language.name := by
      simp only [hsome, ne_eq, true_and, not_not] at h
      rw [h, hlisted]
    have hsame : l = w.language := by
      rw [← Language.ofName_name hl, hname, Language.ofName_name hw]
    rw [hsame, ← hlisted]
    rfl

/-- The text that is saved of a path is enough to find the path again; a new document has none. -/
theorem documentSide_restorePath (hnew : w.path = none) (htitle : w.title = titleOf none)
    {path : Option Path} (hpath : ∀ p, path = some p → p.IsNormal) :
    (if ((path.map Path.text).getD []).isEmpty then w else
      titled { w with path := some (Path.ofText ((path.map Path.text).getD [])) }
        (Path.ofText ((path.map Path.text).getD []))).documentSide =
      { w.documentSide with path, title := titleOf path } := by
  cases path with
  | none =>
    -- Nothing is saved of a new document, and the window has none anyway.
    show w.documentSide = { w.documentSide with path := none, title := titleOf none }
    rw [← htitle, ← hnew]
    rfl
  | some p =>
    rw [Option.map_some, Option.getD_some, p.isEmpty_text, if_neg Bool.false_ne_true,
      Path.ofText_text (hpath p rfl)]
    rfl

/-- A window without a past restores the session in its settings, but for an empty text. -/
theorem restoreSession_spec {settings : Settings} {shown t : Text} {path : Option Path}
    {language : Language} {find : Query}
    (hside : w.documentSide =
      ⟨settings, shown, none, titleOf none, .kotlin, Language.kotlin.name, {}⟩)
    (hload : SavedSession.load settings = ⟨some t, (path.map Path.text).getD [], language, find⟩)
    (ht : Utf8.isEncodable t = true) (hpath : ∀ p, path = some p → p.IsNormal)
    (hlanguage : language ∈ Language.all) :
    ∃ w', w.restoreSession = (w', none) ∧ w'.documentSide =
      ⟨settings, if t.isEmpty then shown else t, path, titleOf path, language, language.name,
        find⟩ := by
  have hsettings : w.settings = settings := congrArg DocumentSide.settings hside
  have htext : w.text = shown := congrArg DocumentSide.text hside
  -- First comes the text, unless it is empty.
  obtain ⟨u, hset, hu⟩ : ∃ u : Window,
      (if t.isEmpty then (w, none) else w.setText t) = (u, none) ∧
      u.documentSide = { w.documentSide with text := if t.isEmpty then shown else t } := by
    split
    · exact ⟨w, rfl, by rw [← htext]; rfl⟩
    · obtain ⟨b, rfl, hset⟩ := setText_of_isEncodable ht w
      exact ⟨_, hset, w.documentSide_setBuffer b⟩
  rw [hside] at hu
  -- Then come the path and the query.
  have hnamed := documentSide_restorePath (w := u) (congrArg DocumentSide.path hu)
    (congrArg DocumentSide.title hu) hpath
  unfold restoreSession
  rw [hsettings, hload]
  dsimp only
  rw [hset]
  refine ⟨_, rfl, ?_⟩
  generalize (if ((path.map Path.text).getD []).isEmpty then u else _) = v at hnamed ⊢
  have hsought : (v.setFind find).documentSide = _ :=
    (v.documentSide_setFind find).trans (by rw [hnamed, hu])
  -- Up to the choice of the language, the list shows the language in use.
  have hlisted : (v.setFind find).listedName = Language.kotlin.name :=
    congrArg DocumentSide.listedName hsought
  have hkotlin : (v.setFind find).language = .kotlin := congrArg DocumentSide.language hsought
  rw [documentSide_chooseLanguage (by rw [hlisted, hkotlin])
    (by rw [hkotlin]; exact List.mem_cons_self) hlanguage, hsought]

/-! ## Opening again -/

/-- Why no window opens: the theme that every window begins with cannot be loaded, or the one of the
preferences cannot be followed. -/
inductive ThemeTrouble (d : Desktop) : LaunchError → Prop
  | standard {e : ThemeFile.Error}
      (hload : (ThemeFile.load d.files standardThemePath).1 = .error e) : ThemeTrouble d (.theme e)
  | preferred {theme : Theme} {f : Failure}
      (hload : (ThemeFile.load d.files standardThemePath).1 = .ok theme)
      (hfailure : ThemeFailure d.accounts (ThemeFile.load d.files standardThemePath).2
        standardThemePath (Preferences.load d.settings 13 12).themePath f) :
      ThemeTrouble d (.failure f)

/-- What a window without a past shows of its document, over any settings. -/
def withoutPast (settings : Settings) : DocumentSide :=
  ⟨settings, sampleText, none, titleOf none, .kotlin, Language.kotlin.name, {}⟩

/-- A window that opens begins without a past. -/
theorem documentSide_opening (d : Desktop) (theme : Theme) (files : FileSystem) :
    (opening d theme files).documentSide = withoutPast d.settings := by
  have htext : (opening d theme files).text = sampleText := Surface.text_setBuffer {} _
  unfold documentSide
  rw [htext]
  rfl

/-- What a window shows of its document when it comes to restore the session. -/
theorem documentSide_opened (d : Desktop) (theme : Theme) (files : FileSystem) :
    (opening d theme files).applyAppearance.1.showCurrentPalette.documentSide =
      withoutPast d.settings := by
  rw [documentSide_showCurrentPalette, (applyAppearance_spec _).1, documentSide_opening]

/-- The layout has no part in the document. -/
theorem documentSide_restoreLayout (w : Window) :
    w.restoreLayout.documentSide = w.documentSide := by
  have hpart (w : Window) (part : LayoutPart) (value : Json.Value) :
      (w.restorePart part value).documentSide = w.documentSide := by
    unfold restorePart
    split <;> rfl
  exact (hpart _ _ _).trans (hpart _ _ _)

/-- What a window goes through last when it opens. -/
theorem documentSide_settled (w : Window) :
    w.showSession.textChanged.documentSide = w.documentSide := rfl

variable {theme : Theme} {files : FileSystem}

/-- Once the first theme is loaded, the trouble is that of following the preferences. -/
theorem themeTrouble_iff_of_loaded
    (hfile : ThemeFile.load d.files standardThemePath = (.ok theme, files)) {e : LaunchError} :
    ThemeTrouble d e ↔
      ∃ f, e = .failure f ∧ (opening d theme files).applyAppearance.2 = some f := by
  have hfailure := (opening d theme files).applyAppearance_spec.2
  constructor
  · intro h
    cases h with
    | standard hload => simp [hfile] at hload
    | preferred _ hpreferred =>
      rw [hfile] at hpreferred
      exact ⟨_, rfl, (hfailure _).mpr hpreferred⟩
  · rintro ⟨f, rfl, hbroken⟩
    have hload : (ThemeFile.load d.files standardThemePath).1 = .ok theme := by rw [hfile]
    refine .preferred hload ?_
    rw [hfile]
    exact (hfailure f).mp hbroken

/-- A window that opens has restored what the settings hold; nothing but its theme can keep it from
opening. -/
theorem launch_spec {t : Text} {path : Option Path} {language : Language} {find : Query}
    (hload : SavedSession.load d.settings = ⟨some t, (path.map Path.text).getD [], language, find⟩)
    (ht : Utf8.isEncodable t = true) (hpath : ∀ p, path = some p → p.IsNormal)
    (hlanguage : language ∈ Language.all) :
    (∃ e, launch d = .error e ∧ ∀ e', ThemeTrouble d e' ↔ e' = e) ∨
      ∃ w, launch d = .ok w ∧ (∀ e, ¬ ThemeTrouble d e) ∧ w.documentSide =
        ⟨d.settings, if t.isEmpty then sampleText else t, path, titleOf path, language,
          language.name, find⟩ := by
  cases hfile : ThemeFile.load d.files standardThemePath with
  | mk loaded files =>
    cases loaded with
    | error e =>
      -- Without a first theme, the theme of the preferences is not looked at.
      refine .inl ⟨.theme e, launch_of_not_loaded hfile, fun e' => ⟨fun h => ?_, ?_⟩⟩
      · cases h with
        | standard hload => simp_all
        | preferred hload => simp [hfile] at hload
      · rintro rfl
        exact .standard (by rw [hfile])
    | ok theme =>
      rw [launch_of_loaded hfile]
      simp only [themeTrouble_iff_of_loaded hfile]
      have hopened := documentSide_opened d theme files
      cases happeared : (opening d theme files).applyAppearance with
      | mk appeared broken =>
        rw [happeared] at hopened
        cases broken with
        | some f => exact .inl ⟨.failure f, rfl, by simp⟩
        | none =>
          obtain ⟨w, hrestored, hw⟩ := restoreSession_spec hopened hload ht hpath hlanguage
          refine .inr ⟨w.restoreLayout.showSession.textChanged, ?_, by simp, ?_⟩
          · dsimp only [Result.andThen]
            rw [hrestored]
          · exact (documentSide_settled _).trans (w.documentSide_restoreLayout.trans hw)

/-- A layout that was saved is restored by two notices, and nothing else changes. -/
theorem restoreLayout_of_saved (hgeometry : w.settings.get .geometry = savedGeometry)
    (hstate : w.settings.get .windowState = savedArrangement) :
    w.restoreLayout = { w with
      notices := w.notices ++
        [.restored .geometry savedGeometry, .restored .arrangement savedArrangement] } := by
  have hplaced : w.restorePart .geometry (w.settings.get .geometry) =
      w.tell (.restored .geometry savedGeometry) := by
    rw [hgeometry]
    rfl
  unfold restoreLayout
  rw [hplaced]
  show (w.tell _).restorePart .arrangement (w.settings.get .windowState) = _
  rw [hstate]
  show tell (w.tell _) _ = _
  unfold tell
  rw [List.append_assoc]
  rfl

/-- On the settings of a window that was closed, both parts are restored. -/
theorem restorations_close (hsettings : w'.settings = w.close.settings) :
    w'.restoreLayout.restorations = w'.restorations ++
      [(.geometry, savedGeometry), (.arrangement, savedArrangement)] := by
  have hgeometry : w.close.settings.get .geometry = savedGeometry := by
    simp [close, SavedSession.save, SavedSession.draft, SavedSession.Draft.save, savedSession,
      Settings.get_set]
  have hstate : w.close.settings.get .windowState = savedArrangement := by
    simp [close, SavedSession.save, SavedSession.draft, SavedSession.Draft.save, savedSession,
      Settings.get_set]
  rw [← hsettings] at hgeometry hstate
  rw [restoreLayout_of_saved hgeometry hstate]
  exact List.filterMap_append

/-- The settings of a window that was closed hold its session. -/
theorem load_close (h : Savable w) : SavedSession.load w.close.settings = w.savedSession :=
  SavedSession.load_save h.language _

/-- A window that opens on the settings of a window that was closed has the path, the title, the
language and the find bar of that window, and its text too unless that is empty: then the sample
comes in its place. It has the rules that its rule documents give of the language, and so those of
the window that was closed if they are the same documents. Nothing but a theme can keep the window
from opening. -/
theorem launch_close (h : Reachable w) (hd : d.settings = w.close.settings) :
    (∀ e, launch d = .error e ↔ ThemeTrouble d e) ∧
    ((∀ e, ¬ ThemeTrouble d e) → ∃ w', launch d = .ok w' ∧
      w'.text = (if w.text.isEmpty then sampleText else w.text) ∧
      w'.path = w.path ∧ w'.title = w.title ∧
      w'.language = w.language ∧
      w'.surface.highlighter = ⟨d.ruleFiles.rulesOf w.language, w.language.isBuiltin⟩ ∧
      (d.ruleFiles = w.ruleFiles → w'.surface.highlighter = w.surface.highlighter) ∧
      w'.find = w.find) := by
  have hsavable := h.savable
  have hload : SavedSession.load d.settings =
      ⟨some w.text, (w.path.map Path.text).getD [], w.language, w.find⟩ := by
    rw [hd, load_close hsavable]
    rfl
  rcases launch_spec hload w.surface.buffer.isEncodable_text hsavable.path hsavable.language with
    ⟨e, hlaunch, htrouble⟩ | ⟨w', hlaunch, hno, hside⟩
  · -- No window opens, and so there is theme trouble.
    refine ⟨fun e' => ?_, fun hno => absurd ((htrouble e).mpr rfl) (hno e)⟩
    rw [hlaunch, htrouble, Except.error.injEq, eq_comm]
  · refine ⟨fun e' => ?_, fun _ => ⟨w', hlaunch, ?_⟩⟩
    · simp [hlaunch, hno]
    · have hlanguage : w'.language = w.language := congrArg DocumentSide.language hside
      have htitle : w'.title = titleOf w.path := congrArg DocumentSide.title hside
      have hfiles : w'.ruleFiles = d.ruleFiles := congrArg Prod.snd (surroundings_launch hlaunch)
      -- What classifies the text in an editor is always what the documents say of the language.
      have hshown {v : Window} (hv : Reachable v) :
          v.surface.highlighter = ⟨v.ruleFiles.rulesOf v.language, v.language.isBuiltin⟩ :=
        hv.painted.styles.highlighter.trans hv.knowsRules.highlighter_eq
      have hopened := hshown (Reachable.launch hlaunch)
      rw [hfiles, hlanguage] at hopened
      refine ⟨congrArg DocumentSide.text hside, congrArg DocumentSide.path hside, ?_, hlanguage,
        hopened, fun hsame => ?_, congrArg DocumentSide.find hside⟩
      · rw [htitle, hsavable.title]
      · rw [hopened, hshown h, hsame]

/-- A window closed with an empty text, and the window that opens next. -/
theorem launch_close_empty :
    ∃ w, Reachable w ∧ w.text = [] ∧ ∃ w', launch { settings := w.close.settings } = .ok w' ∧
      w'.text = sampleText ∧ w'.find = w.find := by
  obtain ⟨w, hw, hempty, hopens⟩ := exists_launch_eq (d := {}) (P := fun w =>
    let emptied := w.run [.setText []]
    emptied.text = [] ∧ (launch { settings := emptied.close.settings }).isOk = true)
    (by decide +kernel)
  have hreach := (Reachable.launch hw).run [.setText []]
  obtain ⟨herror, hrestored⟩ := launch_close hreach rfl
    (d := { settings := (w.run [.setText []]).close.settings })
  obtain ⟨w', hlaunch, htext, -, -, -, -, -, hfind⟩ := hrestored fun e htrouble => by
    rw [(herror e).mpr htrouble] at hopens
    exact Bool.false_ne_true hopens
  rw [hempty] at htext
  exact ⟨_, hreach, hempty, w', hlaunch, htext, hfind⟩

end SourceEditor.Window
