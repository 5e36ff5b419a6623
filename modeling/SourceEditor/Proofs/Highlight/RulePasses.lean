import SourceEditor.Language.Builtin
import SourceEditor.Proofs.Highlight.Overlays
import SourceEditor.Proofs.Order.Sorted
import SourceEditor.Proofs.Search.WordRuns

/-!
# Rule passes, character by character

A text that is painted by rule passes, one for each word and each mark of a rule set, read at one
character: the passes for words come to looking up the word that the character lies in, and each of
the others leaves its category or not.

* `Matcher.Covers`: an offset lies in a match.
* `StyledText.categoriesAt_foldl_paint`: each pass adds its category where it covers a character.
* `Text.LiesInWord`: the word that an offset lies in is one of some words.
* `RuleSet.paint_categories`: the categories of a character, and the one that shows.
-/

namespace SourceEditor

/-! ## What a pass covers -/

namespace Matcher

variable {m : Matcher} {t : Text} {o : Nat}

/-- An offset of a text lies in one of the leftmost matches that do not overlap. -/
def Covers (m : Matcher) (t : Text) (o : Nat) : Prop :=
  ∃ found, LeftmostMatches (m.MatchesAt t) 0 found ∧ ∃ x ∈ found, x.1 ≤ o ∧ o < x.2

/-- The matches that a matcher finds are the leftmost ones, of which there are no others. -/
theorem covers_iff : m.Covers t o ↔ ∃ x ∈ m.all t, x.1 ≤ o ∧ o < x.2 := by
  constructor
  · rintro ⟨found, hfound, hx⟩
    rwa [← hfound.unique (fun _ _ _ ha hb => ha.unique hb) (m.leftmostMatches_all t)]
  · intro hx
    exact ⟨m.all t, m.leftmostMatches_all t, hx⟩

instance (m : Matcher) (t : Text) (o : Nat) : Decidable (m.Covers t o) :=
  decidable_of_iff _ covers_iff.symm

end Matcher

namespace RulePass

variable {source : Text} {category : Category} {pass : RulePass}

/-- A written pattern is refused exactly if one of its characters has a meaning of its own. -/
theorem ofSource?_eq_none_iff :
    ofSource? source category = none ↔ ∃ c ∈ source, c ∈ patternCharacters := by
  simp [ofSource?, List.any_eq_true]

/-- Any other pattern paints what a search for it finds: the leftmost places at which it stands,
case included, whether or not it is a whole word there. -/
theorem spans_of_ofSource? (h : ofSource? source category = some pass) (hne : source ≠ [])
    (t : Text) : ∃ found, LeftmostMatches (Pattern.Occurs ⟨source, true, false, hne⟩ t) 0 found ∧
      pass.spans t = spansOf category found := by
  rw [ofSource?] at h
  split at h
  · cases h
  · obtain rfl := Option.some.inj h
    exact ⟨_, Pattern.leftmostMatches_allIn ⟨source, true, false, hne⟩ t, rfl⟩

end RulePass

namespace StyledText

/-- One pass adds its category to the characters that it covers, once. -/
theorem categoriesAt_paint_spans (s : StyledText) (pass : RulePass) (t : Text) (o : Nat) :
    (s.paint (pass.spans t)).categoriesAt o =
      s.categoriesAt o ++ if pass.matcher.Covers t o then [pass.category] else [] := by
  -- The matches lie apart, so that at most one of them covers the character.
  have hdisjoint := (pass.matcher.leftmostMatches_all t).pairwise
  rw [RulePass.spans, categoriesAt_paint, filter_covers_spansOf hdisjoint]
  exact congrArg _ (if_congr Matcher.covers_iff.symm rfl rfl)

/-- Passes add their categories one after the other. -/
theorem categoriesAt_foldl_paint (s : StyledText) (passes : List RulePass) (t : Text) (o : Nat) :
    (passes.foldl (fun styled pass => styled.paint (pass.spans t)) s).categoriesAt o =
      s.categoriesAt o ++
        passes.flatMap fun pass => if pass.matcher.Covers t o then [pass.category] else [] := by
  induction passes generalizing s with
  | nil => exact (List.append_nil _).symm
  | cons pass passes ih =>
    rw [List.foldl_cons, ih, categoriesAt_paint_spans, List.flatMap_cons, List.append_assoc]

/-- A plain text has one category at each character. -/
theorem categoriesAt_plain {t : Text} {o : Nat} (ho : o < t.length) :
    (plain t).categoriesAt o = [.plain] := by
  have hne : t.isEmpty = false := List.isEmpty_eq_false_iff_exists_mem.mpr
    ⟨_, List.getElem_mem ho⟩
  have hcovers : (⟨0, t.length, .plain⟩ : Span).covers o = true :=
    Span.covers_iff.mpr (by simp [ho])
  rw [(wellFormed_plain t).categoriesAt_eq]
  simp [plain, hne, hcovers]

end StyledText

/-- A lexical category that is painted last is the one that shows. -/
theorem topLexical_append_ite {c : Category} (hc : c.isOverlay = false) (l : List Category)
    (p : Prop) [Decidable p] :
    topLexical (l ++ if p then [c] else []) = if p then c else topLexical l := by
  split
  · simp [topLexical, hc]
  · rw [List.append_nil]

/-! ## Words -/

/-- The maximal run of word characters that an offset lies in is one of some words. -/
def Text.LiesInWord (t : Text) (words : List Text) (o : Nat) : Prop :=
  ∃ i n, t.IsWordRun i n ∧ i ≤ o ∧ o < i + n ∧ (t.drop i).take n ∈ words

namespace Text

variable {t : Text} {o : Nat}

instance (t : Text) (words : List Text) (o : Nat) : Decidable (t.LiesInWord words o) :=
  decidable_of_iff (∃ i < o + 1, ∃ n < t.length + 1, t.IsWordRun i n ∧ i ≤ o ∧ o < i + n ∧
      (t.drop i).take n ∈ words) <| by
    constructor
    · rintro ⟨i, -, n, -, h⟩
      exact ⟨i, n, h⟩
    · rintro ⟨i, n, h⟩
      have := h.1.add_length_le
      exact ⟨i, by omega, n, by omega, h⟩

/-- Only the run that an offset lies in counts. -/
theorem liesInWord_iff_of_isWordRun {i n : Nat} (hrun : t.IsWordRun i n) (hi : i ≤ o)
    (ho : o < i + n) {words : List Text} : t.LiesInWord words o ↔ (t.drop i).take n ∈ words := by
  constructor
  · rintro ⟨j, m, hrun', hj, ho', hmem⟩
    obtain ⟨rfl, rfl⟩ := hrun.unique hrun' hi ho hj ho'
    exact hmem
  · intro hmem
    exact ⟨i, n, hrun, hi, ho, hmem⟩

theorem liesInWord_cons {w : Text} {words : List Text} :
    t.LiesInWord (w :: words) o ↔ t.LiesInWord [w] o ∨ t.LiesInWord words o := by
  simp only [LiesInWord, List.mem_cons, List.not_mem_nil, or_false, and_or_left, exists_or]

/-- An offset lies in one word only. -/
theorem LiesInWord.not_of_notMem {w : Text} {words : List Text} (h : t.LiesInWord [w] o)
    (hw : w ∉ words) : ¬ t.LiesInWord words o := by
  obtain ⟨i, n, hrun, hi, ho, hmem⟩ := h
  rw [liesInWord_iff_of_isWordRun hrun hi ho, List.mem_singleton.mp hmem]
  exact hw

end Text

/-- A text is a word: it is not empty, and all its characters belong to words. -/
def Text.IsWord (w : Text) : Prop :=
  w ≠ [] ∧ ∀ c ∈ w, Character.isWord c = true

instance (w : Text) : Decidable w.IsWord := by
  unfold Text.IsWord
  infer_instance

namespace RulePass

variable {t : Text} {o : Nat}

/-- The pass of a word covers the words that are equal to it. -/
theorem covers_word_iff {w : Text} (hw : w.IsWord) :
    (word w).Covers t o ↔ t.LiesInWord [w] o := by
  -- The pass searches for the whole word, case included.
  let p : Pattern := ⟨w, true, true, hw.1⟩
  have hsame {l : Text} : List.Forall₂ (fun q c => p.same q c = true) p.query l ↔ w = l := by
    have heq : (fun q c => p.same q c = true) = (Eq : Character → Character → Prop) := by
      ext q c
      exact beq_iff_eq
    rw [heq, List.forall₂_eq_eq_eq]
  have hword : ∀ q ∈ p.query, ∀ c, p.same q c = true → Character.isWord c = true := by
    intro q hq c hc
    obtain rfl : q = c := beq_iff_eq.mp hc
    exact hw.2 q hq
  have hmem {i n : Nat} : (i, i + n) ∈ (word w).all t ↔ t.IsWordRun i n ∧ w = (t.drop i).take n :=
    (p.mem_allIn_iff_isWordRun rfl hword).trans (and_congr_right fun _ => hsame)
  rw [Matcher.covers_iff]
  constructor
  · rintro ⟨x, hx, hlow, hhigh⟩
    obtain ⟨i, n, rfl, -⟩ := ((word w).leftmostMatches_all t).exists_of_mem hx
    obtain ⟨hrun, heq⟩ := hmem.mp hx
    exact ⟨i, n, hrun, hlow, hhigh, List.mem_singleton.mpr heq.symm⟩
  · rintro ⟨i, n, hrun, hlow, hhigh, heq⟩
    exact ⟨_, hmem.mpr ⟨hrun, (List.mem_singleton.mp heq).symm⟩, hlow, hhigh⟩

/-- The passes of some words, each of them there once, come to looking up the word that an offset
lies in. -/
theorem flatMap_words {words : List Text} (hnodup : words.Nodup) (hwords : ∀ w ∈ words, w.IsWord)
    (category : Category) :
    ((words.map fun w => (⟨word w, category⟩ : RulePass)).flatMap fun pass =>
      if pass.matcher.Covers t o then [pass.category] else []) =
      if t.LiesInWord words o then [category] else [] := by
  induction words with
  | nil => exact (if_neg (by simp [Text.LiesInWord])).symm
  | cons w words ih =>
    obtain ⟨hnot, hrest⟩ := List.nodup_cons.mp hnodup
    rw [List.map_cons, List.flatMap_cons, ih hrest fun w' hw' => hwords w' (.tail w hw')]
    simp only [covers_word_iff (hwords w List.mem_cons_self), @Text.liesInWord_cons t o w words]
    -- Where the first word covers, none of the others does, so that there is one category.
    by_cases hw : t.LiesInWord [w] o
    · simp [hw, hw.not_of_notMem hnot]
    · simp [hw]

/-- The pass of a mark, if there is one, leaves its category on the characters that it covers. -/
theorem flatMap_mark {α : Type} (mark? : Option α) (matcher : α → Matcher) (category : Category) :
    ((mark?.toList.map fun mark => (⟨matcher mark, category⟩ : RulePass)).flatMap fun pass =>
      if pass.matcher.Covers t o then [pass.category] else []) =
      if ∃ mark ∈ mark?, (matcher mark).Covers t o then [category] else [] := by
  cases mark? with
  | none => simp
  | some mark => simp

end RulePass

/-! ## Rule sets -/

namespace RuleSet

variable {r : RuleSet} {t : Text} {o : Nat}

/-- The keywords and the types of a rule set are words, and each is there once, as it is in a
set. -/
structure HasWords (r : RuleSet) : Prop where
  /-- No keyword comes twice. -/
  keywords_nodup : r.keywords.Nodup
  /-- No type comes twice. -/
  types_nodup : r.types.Nodup
  /-- The keywords are words. -/
  isWord_keywords : ∀ w ∈ r.keywords, w.IsWord
  /-- The types are words. -/
  isWord_types : ∀ w ∈ r.types, w.IsWord

/-- A match of the line comments lies over an offset. -/
def LineCommentAt (r : RuleSet) (t : Text) (o : Nat) : Prop :=
  ∃ mark ∈ r.lineMark?, (Matcher.toLineEnd mark).Covers t o

/-- A match of the block comments lies over an offset. -/
def BlockCommentAt (r : RuleSet) (t : Text) (o : Nat) : Prop :=
  ∃ marks ∈ r.blockMarks?, (Matcher.region true marks.1 marks.2).Covers t o

/-- A match of the strings lies over an offset. -/
def StringAt (r : RuleSet) (t : Text) (o : Nat) : Prop :=
  ∃ quote ∈ r.quoteMark?, (Matcher.region false quote quote).Covers t o

instance (r : RuleSet) (t : Text) (o : Nat) : Decidable (r.LineCommentAt t o) := by
  unfold LineCommentAt
  infer_instance

instance (r : RuleSet) (t : Text) (o : Nat) : Decidable (r.BlockCommentAt t o) := by
  unfold BlockCommentAt
  infer_instance

instance (r : RuleSet) (t : Text) (o : Nat) : Decidable (r.StringAt t o) := by
  unfold StringAt
  infer_instance

/-- The categories of a character, pass after pass. -/
theorem categoriesAt_paint (h : r.HasWords) (ho : o < t.length) :
    (r.paint t).categoriesAt o =
      [.plain] ++ (if t.LiesInWord r.keywords o then [.keyword] else [])
        ++ (if t.LiesInWord r.types o then [.type] else [])
        ++ (if r.LineCommentAt t o then [.comment] else [])
        ++ (if r.BlockCommentAt t o then [.comment] else [])
        ++ (if r.StringAt t o then [.string] else []) := by
  rw [paint, StyledText.categoriesAt_foldl_paint, StyledText.categoriesAt_plain ho, passes]
  simp only [List.flatMap_append, RulePass.flatMap_words h.keywords_nodup h.isWord_keywords,
    RulePass.flatMap_words h.types_nodup h.isWord_types, RulePass.flatMap_mark, LineCommentAt,
    BlockCommentAt, StringAt, List.append_assoc]

/-- The categories of a character of a painted text: plain, a keyword or a type if the run of word
characters around it is one, a comment for each of the two passes of comments that covers it, and a
string if the pass of strings covers it. The last of them shows. A run of word characters gets its
category as a whole, so a word within a longer one has none. -/
theorem paint_categories (h : r.HasWords) (ho : o < t.length) :
    (r.paint t).categoriesAt o =
        [.plain] ++ (if t.LiesInWord r.keywords o then [.keyword] else [])
          ++ (if t.LiesInWord r.types o then [.type] else [])
          ++ (if r.LineCommentAt t o then [.comment] else [])
          ++ (if r.BlockCommentAt t o then [.comment] else [])
          ++ (if r.StringAt t o then [.string] else []) ∧
      topLexical ((r.paint t).categoriesAt o) =
        (if r.StringAt t o then .string
          else if r.LineCommentAt t o ∨ r.BlockCommentAt t o then .comment
          else if t.LiesInWord r.types o then .type
          else if t.LiesInWord r.keywords o then .keyword else .plain) ∧
      ∀ i n, t.IsWordRun i n → i ≤ o → o < i + n →
        (.keyword ∈ (r.paint t).categoriesAt o ↔ (t.drop i).take n ∈ r.keywords) ∧
          (.type ∈ (r.paint t).categoriesAt o ↔ (t.drop i).take n ∈ r.types) := by
  have hcategories := categoriesAt_paint h ho
  refine ⟨hcategories, ?_, ?_⟩
  · -- Taken from the last pass to the first: what is painted later hides what is painted before.
    rw [hcategories, topLexical_append_ite, topLexical_append_ite, topLexical_append_ite,
      topLexical_append_ite, topLexical_append_ite]
    · by_cases hline : r.LineCommentAt t o <;> by_cases hblock : r.BlockCommentAt t o <;>
        simp [hline, hblock, topLexical]
    all_goals rfl
  · intro i n hrun hi hlt
    rw [hcategories, ← Text.liesInWord_iff_of_isWordRun hrun hi hlt,
      ← Text.liesInWord_iff_of_isWordRun hrun hi hlt]
    constructor <;> simp

/-- A keyword in a string behind the mark of a comment is shown as a string, and the same word at
the beginning of a longer one is none. -/
theorem paint_categories_nested :
    let t : Text := "\"a // if\" iffy"
    kotlinRules.HasWords ∧ (kotlinRules.paint t).categoriesAt 6 =
        [.plain, .keyword, .comment, .string] ∧
      topLexical ((kotlinRules.paint t).categoriesAt 6) = .string ∧
      (kotlinRules.paint t).categoriesAt 10 = [.plain, .comment] ∧
      .keyword ∉ (kotlinRules.paint t).categoriesAt 10 := by
  intro t
  have h : kotlinRules.HasWords :=
    ⟨by decide +kernel, by decide +kernel, by decide +kernel, by decide +kernel⟩
  obtain ⟨hkeyword, hshown, -⟩ := paint_categories (t := t) (o := 6) h (by decide)
  obtain ⟨hlonger, -, hwhole⟩ := paint_categories (t := t) (o := 10) h (by decide)
  obtain ⟨hmem, -⟩ := hwhole 10 4 (by decide +kernel) (by decide) (by decide)
  exact ⟨h, hkeyword.trans (by decide +kernel), hshown.trans (by decide +kernel),
    hlonger.trans (by decide +kernel), fun hk => absurd (hmem.mp hk) (by decide +kernel)⟩

end RuleSet

end SourceEditor
