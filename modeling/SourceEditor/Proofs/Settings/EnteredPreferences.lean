import SourceEditor.Proofs.Numeral.Written
import SourceEditor.Proofs.Settings.SavedPreferences

/-!
# Preferences in any store

Whatever the settings hold, the preferences that are loaded lie within their ranges. What someone
enters is brought into its form half when it is saved, which trims the path of the theme, and half
when it is loaded, which looks up the mode and moves the numbers into their ranges; preferences in
that form come back as they are. They do so as well from a store that keeps nothing but texts, and
saving leaves all that is not theirs alone.

* `Preferences.Entered.IsWithin`, `Preferences.Entered.IsNormal`: preferences within their ranges,
  and in the form in which they come back.
* `Settings.ComeBackAs`: what a store may make of the preferences in it.
* `Preferences.isWithin_load`: whatever is loaded lies within the ranges.
* `Preferences.Entered.isNormal_normalized`, `Preferences.Entered.entered_normalized`: the form.
* `Preferences.Entered.isKept_of_comeBackAs`: a store that keeps texts keeps the preferences.
* `Preferences.load_roundtrip`: all this together.
-/

namespace SourceEditor

/-- A store gives a value back as it was, or an integer as its decimal text. -/
inductive Json.Value.ComesBackAs : Value → Value → Prop
  | same (v : Value) : ComesBackAs v v
  | text (n : Int) : ComesBackAs (.integer n) (.string (Numeral.ofInt n))

/-- A store gives the preferences in some settings back. -/
def Settings.ComeBackAs (s s' : Settings) : Prop :=
  ∀ key : SettingKey, key.isPreference = true →
    ∃ v v', s.get? key = some v ∧ s'.get? key = some v' ∧ v.ComesBackAs v'

namespace Preferences

namespace Range

variable {r : Range} {n : Int}

theorem clamp_mem (h : r.low ≤ r.high) (n : Int) : r.low ≤ r.clamp n ∧ r.clamp n ≤ r.high := by
  unfold clamp Settings.clamp
  omega

theorem clamp_of_mem (h : r.low ≤ n ∧ n ≤ r.high) : r.clamp n = n := by
  unfold clamp Settings.clamp
  omega

end Range

namespace Entered

/-- The mode has one of its three names, and the numbers lie within their ranges. -/
structure IsWithin (p : Entered) : Prop where
  modeName : p.modeName ∈ Text.ofStrings ["auto", "dark", "light"]
  windowPoints : 8 ≤ p.windowPoints ∧ p.windowPoints ≤ 28
  editorPoints : 8 ≤ p.editorPoints ∧ p.editorPoints ≤ 28
  healthSeconds : 1 ≤ p.healthSeconds ∧ p.healthSeconds ≤ 30
  compileSeconds : 5 ≤ p.compileSeconds ∧ p.compileSeconds ≤ 600

/-- Besides, no blanks surround the path of the theme. -/
structure IsNormal (p : Entered) : Prop extends IsWithin p where
  themePath : Text.trim p.themePath = p.themePath

variable {p : Entered} {s s' : Settings}

theorem IsWithin.name_ofName (h : p.IsWithin) :
    (ThemeMode.ofName p.modeName).name = p.modeName := by
  have hall : ∀ name ∈ Text.ofStrings ["auto", "dark", "light"],
      (ThemeMode.ofName name).name = name := by decide +kernel
  exact hall _ h.modeName

/-- A number within the ranges has a few digits. -/
theorem toInt_of_comesBackAs {n : Int} {v : Json.Value} (hn : 0 ≤ n ∧ n < 1000)
    (h : (Json.Value.integer n).ComesBackAs v) : v.toInt = .ok n := by
  cases h with
  | same => rfl
  | text =>
    have hlow : n.natAbs < 1000 := by omega
    have hlength : (Nat.toDigits 10 n.natAbs).length ≤ 3 :=
      (Nat.length_toDigits_le_iff (by decide) (by decide)).mpr hlow
    have hread := Numeral.readInt_ofInt (n := n) (Nat.le_trans hlength (by decide))
    rw [Json.Value.toInt, hread]
    rfl

/-- Preferences that come back from a store are kept in what comes back. -/
theorem isKept_of_comeBackAs (hp : p.IsNormal) (h : Settings.ComeBackAs (p.draft.save s).1 s') :
    p.IsKept s' := by
  -- Only integers can come back as anything but what they were.
  have hname {key : SettingKey} {t : Text} (hkey : key.isPreference = true)
      (ht : (p.draft.save s).1.get? key = some (.string t)) : s'.get? key = some (.string t) := by
    obtain ⟨v, v', hv, hv', hback⟩ := h key hkey
    cases ht.symm.trans hv
    cases hback
    exact hv'
  have hnumber {key : SettingKey} {n : Int} (hkey : key.isPreference = true)
      (hrange : 0 ≤ n ∧ n < 1000) (hn : (p.draft.save s).1.get? key = some (.integer n)) :
      ∃ v, s'.get? key = some v ∧ v.toInt = .ok n := by
    obtain ⟨v, v', hv, hv', hback⟩ := h key hkey
    cases hn.symm.trans hv
    exact ⟨v', hv', toInt_of_comesBackAs hrange hback⟩
  have hwindow := hp.windowPoints
  have heditor := hp.editorPoints
  have hhealth := hp.healthSeconds
  have hcompile := hp.compileSeconds
  rw [save_eq] at hname hnumber
  exact {
    themeMode := hname rfl (by simp [Settings.get?_set])
    themePath := hname rfl (by simp [Settings.get?_set])
    windowPoints := hnumber rfl (by omega) (by simp [Settings.get?_set])
    editorPoints := hnumber rfl (by omega) (by simp [Settings.get?_set])
    healthSeconds := hnumber rfl (by omega) (by simp [Settings.get?_set])
    compileSeconds := hnumber rfl (by omega) (by simp [Settings.get?_set]) }

/-- Preferences in normal form are those that are meant. -/
theorem entered_normalized (h : p.IsNormal) : p.normalized.entered = p := by
  obtain ⟨modeName, themePath, windowPoints, editorPoints, healthSeconds, compileSeconds⟩ := p
  rw [entered, normalized, h.name_ofName, h.themePath]
  dsimp only
  rw [Range.clamp_of_mem h.windowPoints, Range.clamp_of_mem h.editorPoints,
    Range.clamp_of_mem h.healthSeconds, Range.clamp_of_mem h.compileSeconds]

end Entered

theorem mem_names (m : ThemeMode) : m.name ∈ Text.ofStrings ["auto", "dark", "light"] := by
  cases m <;> decide

/-- Whatever the settings hold, what is loaded lies within the ranges. -/
theorem isWithin_load (s : Settings) (windowPoints editorPoints : Int) :
    (load s windowPoints editorPoints).entered.IsWithin where
  modeName := mem_names _
  windowPoints := Range.clamp_mem (r := pointRange) (by decide) _
  editorPoints := Range.clamp_mem (r := pointRange) (by decide) _
  healthSeconds := Range.clamp_mem (r := healthRange) (by decide) _
  compileSeconds := Range.clamp_mem (r := compileRange) (by decide) _

/-- An integer that may be a number of seconds is a real number as well. -/
theorem toReal_seconds {n : Int} (hlow : 1 ≤ n) (hhigh : n ≤ 600) :
    (Json.Value.integer n).toReal = .ok (.ofInt n) := by
  have hfinite : ∀ k < 601, ∀ negative, Binary64.ofInt (k : Nat) ≠ .infinite negative := by
    decide +kernel
  obtain ⟨k, rfl⟩ := Int.eq_ofNat_of_zero_le (Int.le_trans (by decide) hlow)
  rw [Json.Value.toReal]
  split
  · next negative hinfinite => exact absurd hinfinite (hfinite k (by omega) negative)
  · rfl

/-- So the timeouts of any settings can be waited for. -/
theorem toReal_timeouts (s : Settings) (windowPoints editorPoints : Int) :
    let p := load s windowPoints editorPoints
    (Json.Value.integer p.healthSeconds).toReal = .ok (.ofInt p.healthSeconds) ∧
      (Json.Value.integer p.compileSeconds).toReal = .ok (.ofInt p.compileSeconds) := by
  intro p
  have hwithin := isWithin_load s windowPoints editorPoints
  obtain ⟨hlow, hhigh⟩ := hwithin.healthSeconds
  obtain ⟨hlow', hhigh'⟩ := hwithin.compileSeconds
  exact ⟨toReal_seconds hlow (Int.le_trans hhigh (by decide)),
    toReal_seconds (Int.le_trans (by decide) hlow') hhigh'⟩

/-- The preferences that are meant are in normal form. -/
theorem Entered.isNormal_normalized (p : Entered) : p.normalized.entered.IsNormal where
  modeName := mem_names _
  themePath := Text.trim_trim _
  windowPoints := Range.clamp_mem (r := pointRange) (by decide) _
  editorPoints := Range.clamp_mem (r := pointRange) (by decide) _
  healthSeconds := Range.clamp_mem (r := healthRange) (by decide) _
  compileSeconds := Range.clamp_mem (r := compileRange) (by decide) _

theorem Entered.normalized_normalized (p : Entered) : p.normalized.normalized = p.normalized := by
  simp only [Preferences.normalized, Entered.normalized, Text.trim_trim, Range.clamp_clamp]

/-- Loading comes to preferences within their ranges, whatever the settings hold and whatever the
defaults are. What is entered can be saved, and what is meant by it is loaded, which is in normal
form and stays the same when it is saved and loaded again. What is in normal form is what it means,
and is loaded also if the store gives back integers as texts. And saving, even of values that are no
preferences at all, leaves the values of all names alone but those of the six preferences. -/
theorem load_roundtrip (windowPoints editorPoints : Int) :
    (∀ s, (load s windowPoints editorPoints).entered.IsWithin) ∧
    (∀ (p : Entered) (s : Settings), (p.draft.save s).2 = none ∧
      load (p.draft.save s).1 windowPoints editorPoints = p.normalized ∧
      p.normalized.entered.IsNormal ∧
      load (p.normalized.save (p.draft.save s).1) windowPoints editorPoints = p.normalized ∧
      (p.IsNormal → p.normalized.entered = p ∧
        ∀ s', Settings.ComeBackAs (p.draft.save s).1 s' →
          load s' windowPoints editorPoints = p.normalized)) ∧
    ∀ (d : Draft) (s : Settings) (name : Text),
      (∀ key : SettingKey, key.isPreference = true → name ≠ key.name) →
        (d.save s).1.valueAt? name = s.valueAt? name := by
  refine ⟨fun s => isWithin_load s _ _, fun p s => ⟨?_, (p.isKept_save s).load_eq _ _,
    p.isNormal_normalized, ?_, fun hp => ⟨Entered.entered_normalized hp, fun s' hback => ?_⟩⟩,
    fun d s name hname => d.valueAt?_save hname s⟩
  · rw [Entered.save_eq]
  · rw [load_save, Entered.normalized_normalized]
  · exact (Entered.isKept_of_comeBackAs hp hback).load_eq _ _

/-- Preferences at the ends of their ranges, from a store that made texts of all their numbers but
one. -/
theorem load_roundtrip_texts :
    let p : Entered := ⟨"dark", "my theme.json", 28, 8, 1, 600⟩
    let s : Settings := ⟨[("appearance/themeMode", .string "dark"),
      ("appearance/themePath", .string "my theme.json"), ("appearance/uiFontPt", .string "28"),
      ("appearance/editorFontPt", .integer 8), ("bridge/healthTimeoutS", .string "1"),
      ("bridge/compileTimeoutS", .string "600"), ("other", .null)]⟩
    p.IsNormal ∧ Settings.ComeBackAs (p.draft.save {}).1 s ∧ (load s 13 12).entered = p := by
  intro p s
  have hnormal : p.IsNormal := ⟨⟨by decide, by decide, by decide, by decide, by decide⟩, by decide⟩
  have hback : Settings.ComeBackAs (p.draft.save {}).1 s := by
    intro key hkey
    cases key with
    | themeMode => exact ⟨_, _, rfl, rfl, .same _⟩
    | themePath => exact ⟨_, _, rfl, rfl, .same _⟩
    | windowPoints => exact ⟨_, _, rfl, rfl, .text 28⟩
    | editorPoints => exact ⟨_, _, rfl, rfl, .same _⟩
    | healthSeconds => exact ⟨_, _, rfl, rfl, .text 1⟩
    | compileSeconds => exact ⟨_, _, rfl, rfl, .text 600⟩
    | _ => cases hkey
  obtain ⟨hform, hload⟩ := ((load_roundtrip 13 12).2.1 p {}).2.2.2.2 hnormal
  exact ⟨hnormal, hback, (congrArg entered (hload s hback)).trans hform⟩

end Preferences

end SourceEditor
