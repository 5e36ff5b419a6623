import SourceEditor.Proofs.Window.Apart
import SourceEditor.Proofs.Window.Restored

/-!
# The language in the list

The list of languages shows the language in use. A window begins like this, and the list tells of no
name but the one that it shows, so that the two cannot come apart.

* `Window.ShowsLanguage`: the list shows the language in use.
* `Window.Operated`: the windows that come about while the list of languages tells of the names that
  it shows, whatever the user, the compiler and other programs do.
* `Window.Operated.showsLanguage`: in all of these the list shows the language in use.
-/

namespace SourceEditor

namespace Window

variable {w w' : Window}

/-- The language of a window, and the name that the list of languages shows. -/
def languageSide (w : Window) : Language × Text :=
  (w.language, w.listedName)

/-- The list of languages shows the language in use, which is one of the list. -/
structure ShowsLanguage (w : Window) : Prop where
  language : w.language ∈ Language.all
  listedName : w.listedName = w.language.name

/-- What leaves the language and the list alone keeps them in step. -/
theorem ShowsLanguage.congr (h : ShowsLanguage w) (hside : w'.languageSide = w.languageSide) :
    ShowsLanguage w' := by
  obtain ⟨hlanguage, hlisted⟩ := Prod.mk.inj hside
  exact ⟨hlanguage ▸ h.language, by rw [hlisted, hlanguage, h.listedName]⟩

/-- A document has no part in its language. -/
theorem apart_languageSide : Apart languageSide where
  notices _ _ := rfl
  setBuffer w b := by
    obtain ⟨_, _, h⟩ := w.exists_setBuffer_eq b
    rw [h]
    rfl
  setFind w q := by
    obtain ⟨_, h⟩ := w.exists_setFind_eq q
    rw [h]
    rfl
  timer w := by
    obtain ⟨_, _, h⟩ := w.exists_timer_eq
    rw [h]
    rfl
  replacement _ _ := rfl
  named _ _ _ := rfl
  setPath _ _ := rfl
  files _ _ := rfl
  report w w' h := by
    cases h with
    | call c =>
      obtain ⟨_, _, _, _, _, hheard⟩ := w.exists_followSession_eq (c.respond w.session)
      rw [hheard]
      rfl
    | _ => rfl

/-- What leaves everything of the document alone leaves its language alone. -/
theorem languageSide_eq_of_documentSide_eq (h : w'.documentSide = w.documentSide) :
    w'.languageSide = w.languageSide :=
  congrArg (fun side => (side.language, side.listedName)) h

/-- The preferences have no part in the language. -/
theorem languageSide_openPreferences (w : Window) (edits : PreferencesDialog.Edits) :
    (w.openPreferences edits).1.languageSide = w.languageSide := by
  have happlied (w : Window) (settings : Settings) :
      (applyAppearance { w with settings }).1.languageSide = w.languageSide :=
    (languageSide_eq_of_documentSide_eq (applyAppearance_spec { w with settings }).1).trans rfl
  unfold openPreferences
  dsimp only
  split
  · rw [happlied]
    split <;> rfl
  · split <;> rfl

/-- Nor have the colours of the desktop. -/
theorem languageSide_recolour (w : Window) (colour : Rgb) (event : ChangeEvent) :
    (w.recolour colour event).languageSide = w.languageSide := by
  have hannounced : (followThemes { w with colour } (w.themes.refresh colour)).languageSide =
      w.languageSide :=
    (languageSide_eq_of_documentSide_eq (documentSide_followThemes { w with colour } _)).trans rfl
  cases event with
  | other => rfl
  | palette | applicationPalette => exact hannounced

/-! ## Choosing a language -/

/-- The list tells of the name that it shows, and nothing happens. -/
theorem ShowsLanguage.setLanguage_listedName (h : ShowsLanguage w) :
    w.setLanguage w.listedName = w := by
  rw [setLanguage, h.listedName, Language.ofName_name h.language]
  exact if_pos rfl

/-- A choice from the list keeps the list in step. -/
theorem ShowsLanguage.chooseLanguage (h : ShowsLanguage w) (name : Text) :
    ShowsLanguage (w.chooseLanguage name) := by
  unfold Window.chooseLanguage
  split
  · next hlisted =>
    obtain ⟨l, hl⟩ := Option.isSome_iff_exists.mp hlisted.1
    obtain ⟨hmem, hname⟩ := Language.of_ofName?_eq_some hl
    have hlanguage : Language.ofName name = l := by rw [Language.ofName, hl, Option.getD_some]
    obtain ⟨_, _, _, _, hset⟩ := exists_setLanguage_eq { w with listedName := name } name
    rw [hset, hlanguage]
    exact ⟨hmem, hname.symm⟩
  · exact h

/-- It is enough that what goes on shows the language if it goes on from a window that does. -/
theorem ShowsLanguage.andThen {r : Result} {next : Window → Result} (h : ShowsLanguage r.1)
    (hnext : ∀ w', ShowsLanguage w' → ShowsLanguage (next w').1) :
    ShowsLanguage (r.andThen next).1 := by
  obtain ⟨w', _ | e⟩ := r
  · exact hnext w' h
  · exact h

/-- So does restoring a session, which chooses from the list. -/
theorem ShowsLanguage.restoreSession (h : ShowsLanguage w) : ShowsLanguage w.restoreSession.1 := by
  unfold Window.restoreSession
  dsimp only
  -- The text may break it off; the language comes last.
  apply ShowsLanguage.andThen
  · refine h.congr ?_
    split
    · split
      · rfl
      · exact apart_languageSide.edit w _
    · rfl
  · intro w' hw'
    apply ShowsLanguage.chooseLanguage
    refine hw'.congr ?_
    rw [apart_languageSide.setFind]
    split <;> rfl

/-- So does a reset. -/
theorem ShowsLanguage.reset (h : ShowsLanguage w) : ShowsLanguage w.reset.1 := by
  unfold Window.reset
  dsimp only
  generalize w.settings.reset = forgotten
  apply ShowsLanguage.andThen
  · refine h.congr ((apart_languageSide.replaceDocument _ _).trans ?_)
    rfl
  · intro w' hw'
    have hsought : ShowsLanguage (setFind { w' with path := none } {}) :=
      hw'.congr (apart_languageSide.setFind { w' with path := none } {})
    exact (hsought.chooseLanguage Language.kotlin.name).congr rfl

/-- So does every action, unless it takes a language past the list. -/
theorem ShowsLanguage.perform (h : ShowsLanguage w) {a : Action}
    (ha : ∀ name, a = .setLanguage name → name = w.listedName) : ShowsLanguage (w.perform a).1 := by
  cases hdocument : a.isForDocument with
  | true => exact h.congr (apart_languageSide.perform w hdocument)
  | false =>
    cases a with
    | chooseLanguage name => exact h.chooseLanguage name
    | setLanguage name =>
      obtain rfl := ha name rfl
      rw [show (w.perform (.setLanguage w.listedName)).1 = w from h.setLanguage_listedName]
      exact h
    | openPreferences edits => exact h.congr (w.languageSide_openPreferences edits)
    | recolour colour event => exact h.congr (w.languageSide_recolour colour event)
    | reset => exact h.reset
    | close => exact h.congr rfl
    | _ => exact absurd hdocument.symm Bool.false_ne_true

/-! ## All windows -/

/-- A window that opens has restored a session, with nothing of its document in it before. -/
theorem exists_restoreSession_of_launch {d : Desktop} (h : launch d = .ok w) :
    ∃ o w' : Window, o.documentSide = withoutPast d.settings ∧
      o.restoreSession = (w', none) ∧ w = w'.restoreLayout.showSession.textChanged := by
  -- A window that opened has a theme, follows its preferences and has restored its session; where
  -- one of these fails, none opens.
  cases hfile : ThemeFile.load d.files standardThemePath with
  | mk loaded files =>
    cases loaded with
    | error e =>
      rw [launch_of_not_loaded hfile] at h
      cases h
    | ok theme =>
      rw [launch_of_loaded hfile] at h
      have hopened := documentSide_opened d theme files
      cases happeared : (opening d theme files).applyAppearance with
      | mk appeared broken =>
        rw [happeared] at h hopened
        cases broken with
        | some f => simp [Result.andThen] at h
        | none =>
          dsimp only [Result.andThen] at h
          cases hrestored : appeared.showCurrentPalette.restoreSession with
          | mk restored failed =>
            rw [hrestored] at h
            cases failed with
            | some f => simp at h
            | none => exact ⟨_, _, hopened, hrestored, (Except.ok.inj h).symm⟩

/-- The list of a window that opens shows its language. -/
theorem showsLanguage_launch {d : Desktop} (h : launch d = .ok w) : ShowsLanguage w := by
  obtain ⟨o, restored, hopened, hrestored, rfl⟩ := exists_restoreSession_of_launch h
  have ho : ShowsLanguage o := by
    have hlanguage : o.language = .kotlin := congrArg DocumentSide.language hopened
    have hlisted : o.listedName = Language.kotlin.name := congrArg DocumentSide.listedName hopened
    exact ⟨by rw [hlanguage]; exact List.mem_cons_self, by rw [hlisted, hlanguage]⟩
  have hshown := ho.restoreSession
  rw [hrestored] at hshown
  have hsettled : restored.restoreLayout.showSession.textChanged.languageSide =
      restored.languageSide := by
    rw [languageSide_eq_of_documentSide_eq (documentSide_settled _),
      apart_languageSide.restoreLayout]
  exact hshown.congr hsettled

/-- The windows that come about while the list of languages tells of no name but the one that it
shows. Besides the actions, a window may see any edit of its text and its selection, and the session
may get any call, at any time; and other programs may change what the window stands in, the files
and the settings, as they like. -/
inductive Operated : Window → Prop
  | launch {d : Desktop} {w : Window} (h : launch d = .ok w) : Operated w
  | step {w : Window} (h : Operated w) {a : Action}
      (ha : ∀ name, a = .setLanguage name → name = w.listedName) : Operated (w.step a).1
  | edit {w : Window} (h : Operated w) (b : Buffer) : Operated (w.setBuffer b)
  | call {w : Window} (h : Operated w) (c : Session.Call) :
      Operated (w.followSession (c.respond w.session))
  | desktop {w : Window} (h : Operated w) (d : Desktop) : Operated { w with toDesktop := d }

/-- A run of actions in which the list of languages tells of nothing by itself. -/
theorem Operated.run (h : Operated w) (actions : List Action)
    (hactions : ∀ a ∈ actions, ∀ name, a ≠ .setLanguage name) : Operated (w.run actions) :=
  List.foldlRecOn (motive := Operated) actions _ h fun _ h a ha =>
    h.step fun name heq => absurd heq (hactions a ha name)

/-- The list shows the language in use. -/
theorem Operated.showsLanguage (h : Operated w) : ShowsLanguage w := by
  induction h with
  | launch h => exact showsLanguage_launch h
  | @step w _ a ha ih =>
    -- A step begins with forgetting what the window told.
    have hforgot : ShowsLanguage { w with notices := [] } := ih.congr rfl
    exact hforgot.perform ha
  | edit _ b ih => exact ih.congr (apart_languageSide.setBuffer _ b)
  | call _ c ih => exact ih.congr (apart_languageSide.followSession _ c)
  | desktop _ d ih => exact ih.congr rfl

end Window

end SourceEditor
