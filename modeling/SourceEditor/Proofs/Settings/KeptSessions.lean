import SourceEditor.Proofs.Settings.SavedPreferences

/-!
# Sessions in any store

A session that is saved is there when it is loaded again, whatever the settings held before. Only
two things may be different. A language that is not in the list becomes the built-in one, and a
session without a text leaves the text that was there. It makes no difference if the store gives
back the two truth values of a search as words. Sessions and preferences have no key in common, so
that neither is touched when the other is saved; and a reset leaves nothing of either.

* `SavedSession.Entered`: a session with its language by any name.
* `Settings.ComeBackInWords`: what a store may make of the truth values in it.
* `SavedSession.Entered.isKept_save`, `SavedSession.Entered.isKept_of_comeBackInWords`,
  `SavedSession.Entered.IsKept.load_eq`: what the settings hold of a session, and that this is
  enough to load it.
* `SavedSession.load_saved`: all this together.
-/

namespace SourceEditor

/-- A store gives settings back, the truth values of a search perhaps as the words for them. -/
def Settings.ComeBackInWords (s s' : Settings) : Prop :=
  ∀ key : SettingKey, s'.get? key = s.get? key ∨
    (key = .findCase ∨ key = .findWholeWord) ∧ ∃ b, s.get? key = some (.bool b) ∧
      s'.get? key = some (.string (if b then ("true" : Text) else "false"))

/-- The name of a language in the list, or that of the built-in one if there is no such language. -/
def Language.listedName (name : Text) : Text :=
  if ∃ l ∈ all, l.name = name then name else kotlin.name

theorem Language.name_ofName (name : Text) : (ofName name).name = listedName name := by
  unfold listedName ofName
  cases hfound : ofName? name with
  | none =>
    have hunknown : ¬ ∃ l ∈ all, l.name = name := by
      rintro ⟨l, hl, rfl⟩
      exact absurd (List.find?_eq_none.mp hfound l hl) (by simp)
    rw [if_neg hunknown]
    rfl
  | some l =>
    obtain ⟨hmem, hname⟩ := of_ofName?_eq_some hfound
    rw [if_pos ⟨l, hmem, hname⟩]
    exact hname

theorem Settings.truthOf_word (b otherwise : Bool) :
    truthOf (.string (if b then ("true" : Text) else "false")) otherwise = b := by
  revert b otherwise
  decide +kernel

namespace SavedSession

/-- A session as the window hands it on, with its language by any name. -/
structure Entered where
  /-- The text of the editor, if there is one to save. -/
  editorText : Option Text
  /-- The path of the document. -/
  currentPath : Text
  /-- The name of the language. -/
  languageName : Text
  /-- What the find bar asks for. -/
  find : Query

/-- A session, entered as it is. -/
def entered (session : SavedSession) : Entered where
  editorText := session.editorText
  currentPath := session.currentPath
  languageName := session.language.name
  find := session.find

namespace Entered

/-- An entered session as values. -/
def draft (e : Entered) : Draft where
  editorText := (e.editorText.map .string).getD .null
  currentPath := .string e.currentPath
  language := .string e.languageName
  findText := .string e.find.text
  findCase := .bool e.find.caseSensitive
  findWholeWord := .bool e.find.wholeWord

/-- What is loaded of an entered session that was saved over settings with a stored text. -/
def loadedOver (e : Entered) (stored : Option Text) : SavedSession where
  editorText := e.editorText.or stored
  currentPath := e.currentPath
  language := .ofName e.languageName
  find := e.find

/-- Settings keep an entered session: every key has its value, the truth values of the search
perhaps as something that stands for them. Without a text in the session there is a stored one, or
none. -/
structure IsKept (e : Entered) (stored : Option Text) (s : Settings) : Prop where
  editorText : textOf? (s.get .editorText) = e.editorText.or stored
  currentPath : s.get .currentPath = .string e.currentPath
  language : s.get .language = .string (Language.ofName e.languageName).name
  findText : s.get .findText = .string e.find.text
  findCase : Settings.truthOf (s.get .findCase) false = e.find.caseSensitive
  findWholeWord : Settings.truthOf (s.get .findWholeWord) false = e.find.wholeWord

variable {e : Entered} {s s' : Settings} {stored : Option Text}

theorem save_eq (e : Entered) (s : Settings) :
    e.draft.save s = (((((match e.editorText with
      | some t => s.set .editorText (.string t)
      | none => s).set .currentPath (.string e.currentPath)).set .language
      (.string (Language.ofName e.languageName).name)).set .findText (.string e.find.text)).set
      .findCase (.bool e.find.caseSensitive)).set .findWholeWord (.bool e.find.wholeWord) := by
  obtain ⟨editorText, currentPath, languageName, find⟩ := e
  cases editorText <;>
    simp [draft, Draft.save, Json.Value.shownOr_string, textOf?, Json.Value.isPresent]

theorem isKept_save (e : Entered) (s : Settings) :
    e.IsKept (textOf? (s.get .editorText)) (e.draft.save s) := by
  rw [save_eq]
  obtain ⟨editorText, currentPath, languageName, find⟩ := e
  constructor
  · cases editorText <;> simp [Settings.get_set, textOf?]
  all_goals simp [Settings.get_set, Settings.truthOf]

/-- Words for the truth values of the search are as good as the values. -/
theorem isKept_of_comeBackInWords (h : e.IsKept stored s) (hback : s.ComeBackInWords s') :
    e.IsKept stored s' := by
  -- Only the two switches come back as words, and these are read as the same truth.
  have hsame {key : SettingKey} (hcase : key ≠ .findCase) (hword : key ≠ .findWholeWord) :
      s'.get key = s.get key := by
    rcases hback key with hkept | ⟨rfl | rfl, -⟩
    · rw [Settings.get, hkept]
      rfl
    · exact absurd rfl hcase
    · exact absurd rfl hword
  have htruth (key : SettingKey) :
      Settings.truthOf (s'.get key) false = Settings.truthOf (s.get key) false := by
    rcases hback key with hkept | ⟨-, b, hb, hb'⟩
    · rw [Settings.get, hkept]
      rfl
    · rw [Settings.get, Settings.get, hb, hb', Option.getD_some, Option.getD_some,
        Settings.truthOf_word]
      rfl
  exact {
    editorText := by rw [hsame (by decide) (by decide), h.editorText]
    currentPath := by rw [hsame (by decide) (by decide), h.currentPath]
    language := by rw [hsame (by decide) (by decide), h.language]
    findText := by rw [hsame (by decide) (by decide), h.findText]
    findCase := by rw [htruth, h.findCase]
    findWholeWord := by rw [htruth, h.findWholeWord] }

theorem IsKept.load_eq (h : e.IsKept stored s) : load s = e.loadedOver stored := by
  rw [load, h.editorText, h.currentPath, h.language, h.findText, h.findCase, h.findWholeWord]
  simp only [Json.Value.shownOr_string, Language.ofName_name (Language.ofName_mem_all _)]
  rfl

theorem entered_loadedOver (e : Entered) (stored : Option Text) :
    (e.loadedOver stored).entered = { e with
      editorText := e.editorText.or stored
      languageName := Language.listedName e.languageName } := by
  rw [entered, loadedOver, Language.name_ofName]

end Entered

theorem textOf?_get_eq_some_iff {s : Settings} {key : SettingKey} {t : Text} :
    textOf? (s.get key) = some t ↔ s.get? key = some (.string t) := by
  unfold Settings.get
  cases s.get? key with
  | none => simp [textOf?]
  | some value => cases value <;> simp [textOf?]

/-- Saving preferences leaves the session alone, even if it breaks off. -/
theorem load_savePreferences (d : Preferences.Draft) (s : Settings) :
    load (d.save s).1 = load s := by
  have hkept (key : SettingKey) (hkey : key.isPreference = false) :
      (d.save s).1.get key = s.get key :=
    d.get_save hkey s
  simp only [load, hkept .editorText rfl, hkept .currentPath rfl, hkept .language rfl,
    hkept .findText rfl, hkept .findCase rfl, hkept .findWholeWord rfl]

theorem load_reset (s : Settings) : load s.reset = load {} := by
  simp only [load, Settings.get, Settings.get?_reset]
  rfl

/-- Whatever the settings hold, a session that is saved is loaded again, but for a language that is
not in the list, in place of which the built-in one comes, and for the text if the session has none:
then the text that the settings held before is loaded, if they held one. It is the same if the store
gives back the truth values of the search as words. Saving a session never changes which preferences
are loaded, nor saving preferences which session is, whatever values are saved and even if saving
breaks off. And after a reset, both are loaded as from settings that hold nothing. -/
theorem load_saved :
    (∀ (e : Entered) (s : Settings), ∃ stored : Option Text,
      (∀ t, stored = some t ↔ s.get? .editorText = some (.string t)) ∧
      (load (e.draft.save s)).entered = { e with
        editorText := e.editorText.or stored
        languageName := Language.listedName e.languageName } ∧
      ∀ s', (e.draft.save s).ComeBackInWords s' → load s' = load (e.draft.save s)) ∧
    (∀ (d : Draft) (s : Settings), Preferences.load (d.save s) = Preferences.load s) ∧
    (∀ (d : Preferences.Draft) (s : Settings), load (d.save s).1 = load s) ∧
    ∀ s : Settings, Preferences.load s.reset = Preferences.load {} ∧ load s.reset = load {} := by
  refine ⟨fun e s => ?_, Preferences.load_saveDraft, load_savePreferences, fun s => ?_⟩
  · have hkept := e.isKept_save s
    refine ⟨textOf? (s.get .editorText), fun t => textOf?_get_eq_some_iff, ?_, ?_⟩
    · rw [hkept.load_eq, Entered.entered_loadedOver]
    · intro s' hback
      rw [hkept.load_eq, (Entered.isKept_of_comeBackInWords hkept hback).load_eq]
  · exact ⟨Preferences.load_reset_eq s, load_reset s⟩

/-- A session without a text and in a language that nobody knows, saved over settings with a text,
and the words for its truth values. -/
theorem load_saved_words :
    let e : Entered := ⟨none, "Main.kt", "Cobol", ⟨"é", true, false⟩⟩
    let s : Settings := ⟨[("session/editorText", .string "x"), ("session/language", .null)]⟩
    let s' : Settings := ((e.draft.save s).set .findCase (.string "true")).set .findWholeWord
      (.string "false")
    (e.draft.save s).ComeBackInWords s' ∧
      (load s').entered = ⟨some "x", "Main.kt", "Kotlin (built-in)", ⟨"é", true, false⟩⟩ := by
  intro e s s'
  have hback : (e.draft.save s).ComeBackInWords s' := by
    intro key
    simp only [s', Settings.get?_set]
    split
    · next hword =>
      refine .inr ⟨.inr hword, false, ?_, rfl⟩
      simp [hword, Entered.save_eq, Settings.get?_set, e]
    · split
      · next hcase =>
        refine .inr ⟨.inl hcase, true, ?_, rfl⟩
        simp [hcase, Entered.save_eq, Settings.get?_set, e]
      · exact .inl rfl
  refine ⟨hback, ?_⟩
  obtain ⟨stored, hstored, hload, hwords⟩ := load_saved.1 e s
  rw [hwords s' hback, hload, (hstored "x").mpr rfl]
  rfl

end SavedSession

end SourceEditor
