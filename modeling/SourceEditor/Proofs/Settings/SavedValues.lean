import SourceEditor.Proofs.Json.Entries
import SourceEditor.Settings.SavedSession
import Mathlib.Data.List.Nodup

/-!
# What settings keep

A value that is put into the settings is there until another one takes its place, and nothing else
changes. So a session that is saved is the session that is loaded.

* `Settings.get?_set`, `Settings.get_set`: the values after one of them was set.
* `SavedSession.load_save`: a session, saved and loaded.
-/

namespace SourceEditor

namespace SettingKey

theorem mem_all (key : SettingKey) : key ∈ all := by
  cases key <;> decide

/-- No two keys have the same name. -/
theorem name_injective {key other : SettingKey} (h : key.name = other.name) : key = other := by
  have hnodup : (all.map name).Nodup := by decide +kernel
  exact List.inj_on_of_nodup_map hnodup (mem_all key) (mem_all other) h

theorem name_eq_iff {key other : SettingKey} : key.name = other.name ↔ key = other :=
  ⟨name_injective, congrArg name⟩

end SettingKey

theorem Settings.get?_set (s : Settings) (key other : SettingKey) (value : Json.Value) :
    (s.set key value).get? other = if other = key then some value else s.get? other := by
  unfold Settings.get? Settings.set Settings.put Settings.valueAt?
  exact (Json.Entries.get?_insert _ _ _ _).trans (if_congr SettingKey.name_eq_iff rfl rfl)

theorem Settings.get_set (s : Settings) (key other : SettingKey) (value : Json.Value) :
    (s.set key value).get other = if other = key then value else s.get other := by
  unfold Settings.get
  rw [get?_set]
  split <;> rfl

theorem Json.Value.shownOr_string (t : Text) : (Json.Value.string t).shownOr [] = t := by
  cases t <;> simp [shownOr, isPresent, shown]

/-- A language that a name leads to is in the list and has that name. -/
theorem Language.of_ofName?_eq_some {name : Text} {l : Language} (h : ofName? name = some l) :
    l ∈ all ∧ l.name = name :=
  ⟨List.mem_of_find?_eq_some h, by simpa using List.find?_some h⟩

theorem Language.ofName_mem_all (name : Text) : ofName name ∈ all := by
  unfold ofName
  cases hname : ofName? name with
  | none => exact List.mem_cons_self
  | some l => exact (of_ofName?_eq_some hname).1

theorem Language.ofName_name {l : Language} (h : l ∈ all) : ofName l.name = l := by
  rcases (by simpa [all] using h : l = kotlin ∨ l = python ∨ l = java) with rfl | rfl | rfl
  all_goals rfl

/-- A session in one of the languages that is saved and loaded is the same; without a text, the text
saved before remains. -/
theorem SavedSession.load_save {session : SavedSession} (h : session.language ∈ Language.all)
    (s : Settings) :
    load (session.save s) = { session with
      editorText := session.editorText.or (textOf? (s.get .editorText)) } := by
  obtain ⟨editorText, currentPath, language, find⟩ := session
  have hlanguage := Language.ofName_name h
  cases editorText <;>
    simp [load, save, draft, Draft.save, Settings.get_set, Json.Value.shownOr_string, textOf?,
      hlanguage, Settings.truthOf, Json.Value.isPresent]

end SourceEditor
