import SourceEditor.Proofs.Language.RuleDocument
import SourceEditor.Proofs.Settings.SavedValues
import SourceEditor.Proofs.Window.Changes

/-!
# The rules of a window

A window reads the rules of a language when it takes the language, and never again. Its rule
documents stay the same all its life, so that the rules that it has are those that it would read.

* `Window.KnowsRules`: the rules of a window are what its rule documents say of its language.
* `Window.Reachable.knowsRules`: so it is with every window that can come about.
* `Window.notices_setLanguage`: a language without rules is taken all the same, with a message.
-/

namespace SourceEditor

/-- The rules that an editor knows of a language are those in its rule documents. -/
theorem RuleFiles.rulesIn_eq (r : RuleFiles) {l : Language} (hl : l ∈ Language.all) :
    l.rulesIn r.files r.directory = .ok (r.rulesOf l) :=
  Language.rulesIn_eq_ok_iff.mpr (.inl (r.loads l hl))

/-- The language that is built in needs no document. -/
theorem RuleFiles.rulesOf_kotlin (r : RuleFiles) : r.rulesOf .kotlin = some kotlinRules :=
  (Except.ok.inj (r.loads .kotlin List.mem_cons_self)).symm

namespace Window

variable {w w' : Window}

/-! ## What never changes -/

/-- What a window stands in all its life: the accounts of the machine and the rule documents. -/
def surroundings (w : Window) : Accounts × RuleFiles :=
  (w.accounts, w.ruleFiles)

/-- No change in which the compiler has no part touches the surroundings of a window. -/
theorem Adjustment.surroundings_eq (h : Adjustment w w') : w'.surroundings = w.surroundings := by
  cases h with
  | buffer b =>
    obtain ⟨_, _, hset⟩ := w.exists_setBuffer_eq b
    rw [hset]
    rfl
  | timer =>
    obtain ⟨_, _, hset⟩ := w.exists_timer_eq
    rw [hset]
    rfl
  | find q =>
    obtain ⟨_, hset⟩ := w.exists_setFind_eq q
    rw [hset]
    rfl
  | language name =>
    obtain ⟨_, _, _, _, hset⟩ := w.exists_setLanguage_eq name
    rw [hset]
    rfl
  | _ => rfl

/-- No number of such changes touches the surroundings. -/
theorem Adjustments.surroundings_eq (h : Adjustments w w') : w'.surroundings = w.surroundings := by
  induction h with
  | refl => rfl
  | tail _ hlast ih => exact hlast.surroundings_eq.trans ih

/-- A window that opens stands where it was opened. -/
theorem surroundings_launch {d : Desktop} (h : launch d = .ok w) :
    w.surroundings = (d.accounts, d.ruleFiles) := by
  obtain ⟨files, themes, p, w', hadjusted, rfl⟩ := adjustments_launch h
  exact hadjusted.surroundings_eq

/-! ## Rules -/

/-- A window has a language of the list, and knows the rules of it that its documents give. -/
structure KnowsRules (w : Window) : Prop where
  language : w.language ∈ Language.all
  rules : w.rules = w.ruleFiles.rulesOf w.language

/-- What has to do with neither the language nor the rule documents leaves the rules known. -/
theorem KnowsRules.congr (h : KnowsRules w) (hlanguage : w'.language = w.language)
    (hrules : w'.rules = w.rules) (hfiles : w'.ruleFiles = w.ruleFiles) : KnowsRules w' where
  language := by rw [hlanguage]; exact h.language
  rules := by rw [hrules, hfiles, hlanguage, h.rules]

/-- A fresh window has the language that is built in. -/
theorem knowsRules_fresh (d : Desktop) (themes : ThemeManager) (p : Preferences) :
    KnowsRules (fresh d themes p) :=
  ⟨List.mem_cons_self, d.ruleFiles.rulesOf_kotlin.symm⟩

/-- Taking a language brings its rules along. -/
theorem KnowsRules.setLanguage (h : KnowsRules w) (name : Text) :
    KnowsRules (w.setLanguage name) := by
  obtain ⟨_, _, _, _, hset⟩ := w.exists_setLanguage_eq name
  have hfiles : (w.setLanguage name).ruleFiles = w.ruleFiles := by rw [hset]
  rcases w.rules_setLanguage_cases name with hsame | hrules
  · rwa [hsame]
  · refine ⟨?_, by rw [hrules, hfiles]⟩
    rw [hset]
    exact Language.ofName_mem_all name

/-- Every change in which the compiler has no part leaves the rules known. -/
theorem Adjustment.knowsRules (hchange : Adjustment w w') (h : KnowsRules w) : KnowsRules w' := by
  cases hchange with
  | buffer b =>
    obtain ⟨_, _, hset⟩ := w.exists_setBuffer_eq b
    rw [hset]
    exact h.congr rfl rfl rfl
  | timer =>
    obtain ⟨_, _, hset⟩ := w.exists_timer_eq
    rw [hset]
    exact h.congr rfl rfl rfl
  | find q =>
    obtain ⟨_, hset⟩ := w.exists_setFind_eq q
    rw [hset]
    exact h.congr rfl rfl rfl
  | language name => exact h.setLanguage name
  | _ => exact h.congr rfl rfl rfl

/-- Every change that comes from the compiler leaves the rules known. -/
theorem Report.knowsRules (hchange : Report w w') (h : KnowsRules w) : KnowsRules w' := by
  cases hchange with
  | call c =>
    obtain ⟨_, _, _, _, _, hheard⟩ := w.exists_followSession_eq (c.respond w.session)
    rw [hheard]
    exact h.congr rfl rfl rfl
  | _ => exact h.congr rfl rfl rfl

/-- Every window that can come about has the rules that its documents give of its language. -/
theorem Reachable.knowsRules (h : Reachable w) : KnowsRules w :=
  h.induction knowsRules_fresh (fun _ _ hchange => hchange.knowsRules)
    fun _ _ hchange => hchange.knowsRules

/-- What classifies the document of such a window is what its documents say of its language. -/
theorem KnowsRules.highlighter_eq (h : KnowsRules w) :
    w.highlighter = ⟨w.ruleFiles.rulesOf w.language, w.language.isBuiltin⟩ := by
  rw [highlighter, h.rules]

/-- Another language is taken whether or not there are rules for it. If its document gives none, the
window says so, and otherwise it says nothing. -/
theorem notices_setLanguage {name : Text} (hother : Language.ofName name ≠ w.language) :
    (w.setLanguage name).language = Language.ofName name ∧
      (w.setLanguage name).notices = w.notices ++
        if w.ruleFiles.rulesOf (.ofName name) = none then
          [.message (("No highlighting rules for " : Text) ++ (Language.ofName name).name ++
            "; showing plain text")]
        else [] := by
  -- The language that is built in always has rules, so that the window never warns of it.
  have hbuiltin (hnone : w.ruleFiles.rulesOf (.ofName name) = none) :
      (Language.ofName name).isBuiltin = false := by
    have hmem := Language.ofName_mem_all name
    have hkotlin := w.ruleFiles.rulesOf_kotlin
    generalize Language.ofName name = language at hnone hmem
    simp only [Language.all, List.mem_cons, List.not_mem_nil, or_false] at hmem
    obtain rfl | rfl | rfl := hmem
    · rw [hkotlin] at hnone
      cases hnone
    · rfl
    · rfl
  unfold setLanguage warnOfRules
  dsimp only
  rw [if_neg hother]
  by_cases hnone : w.ruleFiles.rulesOf (.ofName name) = none
  · rw [if_pos hnone, if_pos (by rw [hnone, hbuiltin hnone]; rfl)]
    exact ⟨rfl, rfl⟩
  · have hsome : (w.ruleFiles.rulesOf (.ofName name)).isNone = false :=
      Bool.eq_false_iff.mpr (mt Option.isNone_iff_eq_none.mp hnone)
    rw [if_neg hnone, if_neg (by simp [hsome]), List.append_nil]
    exact ⟨rfl, rfl⟩

end Window

end SourceEditor
