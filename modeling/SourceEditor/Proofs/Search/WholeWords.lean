import SourceEditor.Proofs.Character.LetterCase
import SourceEditor.Proofs.Highlight.Overlays
import SourceEditor.Proofs.Highlight.RulePasses
import SourceEditor.Proofs.Search.Replacement
import SourceEditor.Proofs.Search.WordRuns

/-!
# Searching for whole words

A word that is searched for as a whole is found wherever a word of the text agrees with it, and
nowhere else: the matches that get highlighted and replaced are maximal runs of word characters.

* `Query.StandsFor`: a character of a query stands for one of the text.
* `Query.isWord_of_standsFor`: only word characters do that for the characters of a word.
* `Query.wholeWords_found`: which words of a text are found, highlighted and replaced.
-/

namespace SourceEditor

/-- A word has a character that is not blank. -/
theorem Text.IsWord.isBlank_eq_false {w : Text} (hw : w.IsWord) : Text.isBlank w = false := by
  rw [Text.isBlank, List.all_eq_false]
  obtain ⟨c, hc⟩ := List.exists_mem_of_ne_nil w hw.1
  refine ⟨c, hc, fun hblank => ?_⟩
  have hword := hw.2 c hc
  rw [Character.isWord_of_isBlank hblank] at hword
  exact Bool.false_ne_true hword

namespace Query

variable {q : Query} {a b : Character}

/-- A character of a query stands for a character of a text: it is the same one, or one that is
equal to it up to case, as far as case does not count. -/
def StandsFor (q : Query) (a b : Character) : Prop :=
  a = b ∨ q.caseSensitive = false ∧ Character.alike a b = true

instance : DecidableRel q.StandsFor := fun a b =>
  inferInstanceAs (Decidable (a = b ∨ q.caseSensitive = false ∧ Character.alike a b = true))

theorem same_eq_true_iff {p : Pattern} (hp : q.pattern? = some p) :
    p.same a b = true ↔ q.StandsFor a b := by
  rw [Pattern.same, StandsFor, (eq_of_pattern?_eq_some hp).2.1]
  cases q.caseSensitive with
  | true => simp
  | false =>
    have hself : a = b → Character.alike a b = true := by
      rintro rfl
      simp [Character.alike]
    simpa using hself

/-- Without an iota, only word characters agree with a word. -/
theorem isWord_of_standsFor (hword : q.text.IsWord)
    (hiota : q.caseSensitive = false → ∀ c ∈ q.text, c ∉ Character.iotas) (ha : a ∈ q.text)
    (h : q.StandsFor a b) : Character.isWord b = true := by
  rcases h with rfl | ⟨hcase, halike⟩
  · exact hword.2 a ha
  · exact Character.isWord_of_alike halike (hword.2 a ha) (hiota hcase a ha)

/-- A search for a whole word finds the words that agree with it, all of them, and nothing else. The
matches lie in order and apart from each other; each of them is a maximal run of word characters
that the query stands for character by character, and every such run is a match. These matches are
what the search adds to a styled text, and what gets replaced when all matches are. Where case does
not count there must be no iota in the query, since a combining mark is equal to it up to case. -/
theorem wholeWords_found (q : Query) (hword : q.text.IsWord) (hwhole : q.wholeWord = true)
    (hiota : q.caseSensitive = false → ∀ c ∈ q.text, c ∉ Character.iotas) (t : Text) :
    ∃ p found, q.pattern? = some p ∧
      found.Pairwise (fun m n => m.2 ≤ n.1) ∧
      (∀ m, m ∈ found ↔ ∃ i, m = (i, i + q.text.length) ∧ t.IsWordRun i q.text.length ∧
        List.Forall₂ q.StandsFor q.text ((t.drop i).take q.text.length)) ∧
      (∀ s : StyledText, (s.overlaySearch t q.text q.caseSensitive q.wholeWord).layers =
        s.layers ++ RulePass.spansOf .searchMatch found) ∧
      ∀ replacement, p.replaceAll t replacement = (t.replaced replacement found, found.length) := by
  obtain ⟨p, hp, -⟩ := q.exists_pattern?_eq_some hword.isBlank_eq_false
  obtain ⟨hquery, -, hwhole'⟩ := eq_of_pattern?_eq_some hp
  have hfound := p.leftmostMatches_allIn t
  have hsame : (fun a b => p.same a b = true) = q.StandsFor := by
    ext a b
    exact same_eq_true_iff hp
  -- What agrees with a character of a word belongs to a word itself; the iotas, for which this
  -- would fail, are left out.
  have hwords : ∀ a ∈ p.query, ∀ b, p.same a b = true → Character.isWord b = true := by
    intro a ha b hab
    rw [hquery] at ha
    exact isWord_of_standsFor hword hiota ha ((same_eq_true_iff hp).mp hab)
  have hmem (i n : Nat) : (i, i + n) ∈ p.allIn t ↔ t.IsWordRun i n ∧
      List.Forall₂ q.StandsFor q.text ((t.drop i).take n) := by
    rw [Pattern.mem_allIn_iff_isWordRun (hwhole'.trans hwhole) hwords, hsame, hquery]
  refine ⟨p, p.allIn t, hp, hfound.pairwise, fun m => ⟨fun hm => ?_, ?_⟩,
    fun s => s.layers_overlaySearch hp hword.isBlank_eq_false hfound,
    Pattern.replaceAll_eq hfound⟩
  · obtain ⟨i, n, rfl, hn⟩ := hfound.exists_of_mem hm
    obtain rfl : n = q.text.length := hquery ▸ hn.1
    exact ⟨i, rfl, (hmem i _).mp hm⟩
  · rintro ⟨i, rfl, h⟩
    exact (hmem i _).mpr h

/-- The Kelvin sign is a word of its own, and equal to a letter up to case. A longer word is no
match, whatever it begins or ends with. -/
theorem wholeWords_found_kelvin :
    let q : Query := { text := "k", wholeWord := true }
    let t : Text := "K kk \u212A k_"
    (q.text.IsWord ∧ q.wholeWord = true ∧
      (q.caseSensitive = false → ∀ c ∈ q.text, c ∉ Character.iotas)) ∧
      ∃ found : List Match,
        ((0, 1) ∈ found ∧ (2, 3) ∉ found ∧ (3, 4) ∉ found ∧ (5, 6) ∈ found ∧ (7, 8) ∉ found) ∧
        ∀ s : StyledText, (s.overlaySearch t q.text q.caseSensitive q.wholeWord).layers =
          s.layers ++ RulePass.spansOf .searchMatch found := by
  intro q t
  have hword : q.text.IsWord := by decide +kernel
  have hiota : q.caseSensitive = false → ∀ c ∈ q.text, c ∉ Character.iotas := by decide +kernel
  refine ⟨⟨hword, rfl, hiota⟩, ?_⟩
  obtain ⟨-, found, -, -, hmem, hpainted, -⟩ := wholeWords_found q hword rfl hiota t
  have hin (i : Nat) (hrun : t.IsWordRun i 1)
      (hagrees : List.Forall₂ q.StandsFor q.text ((t.drop i).take 1)) : (i, i + 1) ∈ found :=
    (hmem _).mpr ⟨i, rfl, hrun, hagrees⟩
  have hout (i : Nat) (hrun : ¬ t.IsWordRun i 1) : (i, i + 1) ∉ found := by
    intro h
    obtain ⟨j, heq, hj, -⟩ := (hmem _).mp h
    obtain ⟨rfl, -⟩ := Prod.mk.inj heq
    exact hrun hj
  exact ⟨found, ⟨hin 0 (by decide +kernel) (by decide +kernel), hout 2 (by decide +kernel),
    hout 3 (by decide +kernel), hin 5 (by decide +kernel) (by decide +kernel),
    hout 7 (by decide +kernel)⟩, hpainted⟩

end Query

end SourceEditor
