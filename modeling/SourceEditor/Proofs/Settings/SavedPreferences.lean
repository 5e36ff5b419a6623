import SourceEditor.Proofs.Settings.SavedValues
import SourceEditor.Proofs.Text.Trimming
import SourceEditor.Settings.Preferences

/-!
# Preferences in the settings

Preferences that are saved are loaded again, the path of the theme without the blanks around it and
the numbers within their ranges. No default has a part in it, since saving writes every number. No
other key of the settings has a part in it either, and after a reset the defaults are all there is.

* `Preferences.Entered`: preferences as someone may enter them, and those that are meant.
* `Preferences.Entered.isKept_save`, `Preferences.Entered.IsKept.load_eq`: what the settings hold of
  them, and that this is enough to load them.
* `Preferences.load_save`: preferences, saved and loaded.
* `Preferences.load_set`, `Preferences.load_saveDraft`, `Preferences.Draft.valueAt?_save`: the
  preferences and everything else do not mix.
* `Preferences.load_reset_eq`, `Preferences.load_reset`: preferences after a reset.
-/

namespace SourceEditor

namespace Settings

variable (s : Settings) (key other : SettingKey)

/-- A key that is removed has no value, and the others keep theirs. -/
theorem get?_remove :
    (s.remove key).get? other = if other = key then none else s.get? other := by
  unfold get? remove valueAt?
  exact (Json.Entries.get?_erase _ _ _).trans (if_congr SettingKey.name_eq_iff rfl rfl)

/-- Setting a key leaves other names alone. -/
theorem valueAt?_set_of_ne {s : Settings} {name : Text} {key : SettingKey} {value : Json.Value}
    (h : name ≠ key.name) : (s.set key value).valueAt? name = s.valueAt? name :=
  (Json.Entries.get?_insert _ _ _ _).trans (if_neg h)

/-- A reset forgets the value of every key. -/
theorem get?_reset : s.reset.get? key = none := by
  have hremoved (keys : List SettingKey) (s : Settings) :
      (keys.foldl remove s).get? key = if key ∈ keys then none else s.get? key := by
    -- A key that is forgotten stays so, whatever is forgotten after it.
    induction keys generalizing s with
    | nil => simp
    | cons k keys ih =>
      rw [List.foldl_cons, ih, get?_remove]
      by_cases hk : key = k
      · simp [hk]
      · simp [hk]
  rw [reset, hremoved, if_pos (SettingKey.mem_all key)]

end Settings

/-- Whether a key holds one of the preferences. -/
def SettingKey.isPreference : SettingKey → Bool
  | .themeMode | .themePath | .windowPoints | .editorPoints | .healthSeconds | .compileSeconds =>
    true
  | _ => false

/-- A key of the preferences is none of the others. -/
theorem SettingKey.ne_of_isPreference {key other : SettingKey} (h : key.isPreference = false)
    (hother : other.isPreference = true) : key ≠ other := by
  rintro rfl
  rw [h] at hother
  exact Bool.false_ne_true hother

namespace Preferences

/-- A number within a range stays. -/
theorem Range.clamp_clamp (r : Range) (n : Int) : r.clamp (r.clamp n) = r.clamp n := by
  simp only [clamp, Settings.clamp]
  omega

/-- The form that preferences have after they were saved and loaded. -/
def normalized (p : Preferences) : Preferences where
  themeMode := p.themeMode
  themePath := Text.trim p.themePath
  windowPoints := pointRange.clamp p.windowPoints
  editorPoints := pointRange.clamp p.editorPoints
  healthSeconds := healthRange.clamp p.healthSeconds
  compileSeconds := compileRange.clamp p.compileSeconds

/-- The preferences of an editor that was never told of any. -/
def standard : Preferences where
  themeMode := .auto
  themePath := []
  windowPoints := 13
  editorPoints := 12
  healthSeconds := 2
  compileSeconds := 120

/-- A mode is found by its name. -/
theorem ofName_name (m : ThemeMode) : ThemeMode.ofName m.name = m := by
  cases m <;> decide +kernel

/-- A value in the settings counts as the integer that it stands for, whatever the default. -/
theorem number_of_toInt {s : Settings} {key : SettingKey} {v : Json.Value} {n : Int}
    (h : s.get? key = some v) (hv : v.toInt = .ok n) (otherwise : Int) (r : Range) :
    number s key otherwise r = r.clamp n := by
  rw [number, h, Option.getD_some, Settings.clampValue, hv]
  rfl

/-! ## Preferences that are entered -/

/-- Preferences as someone may enter them: the mode by any name, and numbers of any size. -/
structure Entered where
  /-- The name of the mode. -/
  modeName : Text
  /-- The path of the theme file. -/
  themePath : Text
  /-- The font size of the window. -/
  windowPoints : Int
  /-- The font size of the editor. -/
  editorPoints : Int
  /-- The seconds to wait for a health check. -/
  healthSeconds : Int
  /-- The seconds to wait for the compiler. -/
  compileSeconds : Int

/-- Preferences, entered as they are. -/
def entered (p : Preferences) : Entered where
  modeName := p.themeMode.name
  themePath := p.themePath
  windowPoints := p.windowPoints
  editorPoints := p.editorPoints
  healthSeconds := p.healthSeconds
  compileSeconds := p.compileSeconds

namespace Entered

/-- Entered preferences as values. -/
def draft (p : Entered) : Draft where
  themeMode := .string p.modeName
  themePath := .string p.themePath
  windowPoints := .integer p.windowPoints
  editorPoints := .integer p.editorPoints
  healthSeconds := .integer p.healthSeconds
  compileSeconds := .integer p.compileSeconds

/-- The preferences that are meant. -/
def normalized (p : Entered) : Preferences where
  themeMode := .ofName p.modeName
  themePath := Text.trim p.themePath
  windowPoints := pointRange.clamp p.windowPoints
  editorPoints := pointRange.clamp p.editorPoints
  healthSeconds := healthRange.clamp p.healthSeconds
  compileSeconds := compileRange.clamp p.compileSeconds

/-- The name by which the mode is saved; the empty name is replaced. -/
def savedName (p : Entered) : Text :=
  (Json.Value.string p.modeName).shownOr "auto"

/-- The name that is saved is never empty. -/
theorem shownOr_savedName (p : Entered) :
    (Json.Value.string p.savedName).shownOr "auto" = p.savedName := by
  rw [savedName]
  cases p.modeName <;> rfl

/-- It leads to the mode that was meant. -/
theorem ofName_savedName (p : Entered) :
    ThemeMode.ofName p.savedName = ThemeMode.ofName p.modeName := by
  rw [savedName]
  cases p.modeName with
  | nil => decide +kernel
  | cons c t => rfl

/-- All that is entered can be saved. -/
theorem save_eq (p : Entered) (s : Settings) :
    p.draft.save s = ((((((s.set .themeMode (.string p.savedName)).set .themePath
      (.string (Text.trim p.themePath))).set .windowPoints (.integer p.windowPoints)).set
      .editorPoints (.integer p.editorPoints)).set .healthSeconds (.integer p.healthSeconds)).set
      .compileSeconds (.integer p.compileSeconds), none) := by
  simp only [draft, savedName, Draft.save, Json.Value.shownOr_string, saveIntegers,
    Json.Value.toInt]

/-- Settings keep entered preferences: every key has its value, and numbers are kept as values that
stand for them. -/
structure IsKept (p : Entered) (s : Settings) : Prop where
  themeMode : s.get? .themeMode = some (.string p.savedName)
  themePath : s.get? .themePath = some (.string (Text.trim p.themePath))
  windowPoints : ∃ v, s.get? .windowPoints = some v ∧ v.toInt = .ok p.windowPoints
  editorPoints : ∃ v, s.get? .editorPoints = some v ∧ v.toInt = .ok p.editorPoints
  healthSeconds : ∃ v, s.get? .healthSeconds = some v ∧ v.toInt = .ok p.healthSeconds
  compileSeconds : ∃ v, s.get? .compileSeconds = some v ∧ v.toInt = .ok p.compileSeconds

/-- Saving keeps every preference. -/
theorem isKept_save (p : Entered) (s : Settings) : p.IsKept (p.draft.save s).1 := by
  rw [save_eq]
  constructor <;> simp [Settings.get?_set, Json.Value.toInt]

/-- Since every key has its value, no default is asked for when the preferences are loaded. -/
theorem IsKept.load_eq {p : Entered} {s : Settings} (h : p.IsKept s)
    (windowPoints editorPoints : Int) : load s windowPoints editorPoints = p.normalized := by
  have hget {key : SettingKey} {v : Json.Value} (hv : s.get? key = some v) : s.get key = v := by
    rw [Settings.get, hv, Option.getD_some]
  have hnumber {key : SettingKey} {n : Int} (hkept : ∃ v, s.get? key = some v ∧ v.toInt = .ok n)
      (otherwise : Int) (r : Range) : number s key otherwise r = r.clamp n := by
    obtain ⟨v, hv, hn⟩ := hkept
    exact number_of_toInt hv hn otherwise r
  rw [load, hget h.themeMode, hget h.themePath, shownOr_savedName, ofName_savedName,
    Json.Value.shownOr_string, hnumber h.windowPoints, hnumber h.editorPoints,
    hnumber h.healthSeconds, hnumber h.compileSeconds]
  rfl

end Entered

/-- Saving writes every preference, so that they are loaded as they are meant. -/
theorem load_save (p : Preferences) (s : Settings) (windowPoints editorPoints : Int) :
    load (p.save s) windowPoints editorPoints = p.normalized := by
  have hload := (p.entered.isKept_save s).load_eq windowPoints editorPoints
  rw [Entered.normalized, entered, ofName_name] at hload
  exact hload

/-! ## Other keys -/

/-- Only the keys of the preferences count. -/
theorem load_set {key : SettingKey} (h : key.isPreference = false) (s : Settings)
    (value : Json.Value) : load (s.set key value) = load s := by
  have hkept (other : SettingKey) (hother : other.isPreference = true) :
      (s.set key value).get? other = s.get? other := by
    rw [Settings.get?_set, if_neg (SettingKey.ne_of_isPreference h hother).symm]
  funext windowPoints editorPoints
  simp only [load, number, Settings.get, hkept .themeMode rfl, hkept .themePath rfl,
    hkept .windowPoints rfl, hkept .editorPoints rfl, hkept .healthSeconds rfl,
    hkept .compileSeconds rfl]

/-- Saving a session leaves the preferences alone, whatever values it is made of. -/
theorem load_saveDraft (d : SavedSession.Draft) (s : Settings) : load (d.save s) = load s := by
  have hset (key : SettingKey) (hkey : key.isPreference = false) (value : Json.Value)
      (s : Settings) : load (s.set key value) = load s := load_set hkey s value
  -- The keys are taken away in the order opposite to that of writing.
  unfold SavedSession.Draft.save
  dsimp only
  rw [hset .findWholeWord rfl, hset .findCase rfl, hset .findText rfl, hset .language rfl,
    hset .currentPath rfl]
  split
  · rfl
  · exact hset .editorText rfl _ _

/-- Saving a session leaves the preferences alone. -/
theorem load_saveSession (session : SavedSession) (s : Settings) :
    load (session.save s) = load s :=
  load_saveDraft session.draft s

/-- Saving numbers leaves the names of other keys alone. -/
theorem valueAt?_saveIntegers {name : Text} (values : List (SettingKey × Json.Value))
    (h : ∀ entry ∈ values, name ≠ entry.1.name) (s : Settings) :
    (saveIntegers s values).1.valueAt? name = s.valueAt? name := by
  induction values generalizing s with
  | nil => rfl
  | cons entry rest ih =>
    obtain ⟨hne, hrest⟩ := List.forall_mem_cons.mp h
    rw [saveIntegers]
    split
    · rw [ih hrest, Settings.valueAt?_set_of_ne hne]
    · rfl

/-- Saving preferences leaves the values of all other names alone, even if it breaks off. -/
theorem Draft.valueAt?_save {name : Text}
    (h : ∀ key : SettingKey, key.isPreference = true → name ≠ key.name) (d : Draft)
    (s : Settings) : (d.save s).1.valueAt? name = s.valueAt? name := by
  have hintegers : ∀ entry ∈ [(SettingKey.windowPoints, d.windowPoints),
      (.editorPoints, d.editorPoints), (.healthSeconds, d.healthSeconds),
      (.compileSeconds, d.compileSeconds)], name ≠ entry.1.name := by
    simp only [List.forall_mem_cons, List.not_mem_nil, false_implies, implies_true, and_true]
    exact ⟨h _ rfl, h _ rfl, h _ rfl, h _ rfl⟩
  rw [Draft.save, valueAt?_saveIntegers _ hintegers,
    Settings.valueAt?_set_of_ne (h .themePath rfl), Settings.valueAt?_set_of_ne (h .themeMode rfl)]

/-- Saving preferences leaves the values of other keys alone. -/
theorem Draft.get_save {key : SettingKey} (h : key.isPreference = false) (d : Draft)
    (s : Settings) : (d.save s).1.get key = s.get key := by
  have hname (other : SettingKey) (hother : other.isPreference = true) : key.name ≠ other.name :=
    mt SettingKey.name_injective (SettingKey.ne_of_isPreference h hother)
  exact congrArg (Option.getD · .null) (d.valueAt?_save hname s)

/-- Saving preferences leaves other keys alone. -/
theorem get_save {key : SettingKey} (h : key.isPreference = false) (p : Preferences)
    (s : Settings) : (p.save s).get key = s.get key :=
  p.draft.get_save h s

/-- After a reset, the preferences are those of settings that hold nothing. -/
theorem load_reset_eq (s : Settings) : load s.reset = load {} := by
  funext windowPoints editorPoints
  simp only [load, number, Settings.get, Settings.get?_reset]
  rfl

/-- Nothing is left but the defaults, and these lie within their ranges. -/
theorem load_reset (s : Settings) : load s.reset 13 12 = standard := by
  rw [load_reset_eq]
  rfl

end Preferences

end SourceEditor
