import SourceEditor.Proofs.Highlight.Flattening
import SourceEditor.Proofs.Search.Leftmost
import Mathlib.Data.List.Sort

/-!
# Overlays

What the search and the compile errors add to the categories of a character, and that they add
nothing else.

* `Text.lineNumberAt`: the line of an offset, by the line breaks before it.
* `exists_lineRange?_iff`: the range of a line covers just the offsets in that line.
* `Highlighter.isOverlay_base`: a classification holds no overlay.
* `Query.Hits`: an offset lies in one of the leftmost matches of a query.
* `StyledText.layers_overlaySearch`: what the search paints over a text.
* `Highlighter.compose_additive`: the categories of a character are those of its classification,
  then one for the search and one for an error, where they apply.
-/

namespace SourceEditor

/-! ## Lines -/

/-- The number of the line that an offset of a text lies in, counted from 1. -/
def Text.lineNumberAt (t : Text) (o : Nat) : Nat :=
  1 + (t.take o).count ('\n' : Character)

/-- A line behind another one begins behind its offset. -/
theorem lt_of_mem_lineStartsFrom {t : Text} {offset start : Nat}
    (h : start ∈ lineStartsFrom offset t) : offset < start := by
  induction t generalizing offset with
  | nil => simp [lineStartsFrom] at h
  | cons c t ih =>
    unfold lineStartsFrom at h
    split at h
    · rcases List.mem_cons.mp h with rfl | h
      · exact Nat.lt_succ_self offset
      · exact Nat.lt_of_succ_lt (ih h)
    · exact Nat.lt_of_succ_lt (ih h)

/-- Lines begin one behind the other. -/
theorem pairwise_lineStartsFrom (offset : Nat) (t : Text) :
    (lineStartsFrom offset t).Pairwise (· < ·) := by
  induction t generalizing offset with
  | nil => exact .nil
  | cons c t ih =>
    unfold lineStartsFrom
    split
    · exact List.pairwise_cons.mpr ⟨fun _ => lt_of_mem_lineStartsFrom, ih _⟩
    · exact ih _

/-- The lines of a text begin at increasing offsets. -/
theorem pairwise_lineStarts (t : Text) : (lineStarts t).Pairwise (· < ·) :=
  List.pairwise_cons.mpr ⟨fun _ => lt_of_mem_lineStartsFrom, pairwise_lineStartsFrom 0 t⟩

/-- A text has one line more than line breaks. -/
theorem length_lineStarts (t : Text) :
    (lineStarts t).length = 1 + t.count ('\n' : Character) := by
  have h (offset : Nat) : (lineStartsFrom offset t).length = t.count ('\n' : Character) := by
    induction t generalizing offset with
    | nil => rfl
    | cons c t ih =>
      unfold lineStartsFrom
      split
      · next hc => simp [hc, ih]
      · next hc => simp [hc, ih]
  rw [lineStarts, List.length_cons, h, Nat.add_comm]

/-- As many lines have begun at an offset as the number of its line says. -/
theorem countP_lineStarts (t : Text) (o : Nat) :
    (lineStarts t).countP (· ≤ o) = t.lineNumberAt o := by
  have h (offset o : Nat) : (lineStartsFrom offset t).countP (· ≤ offset + o) =
      (t.take o).count ('\n' : Character) := by
    induction t generalizing offset o with
    | nil => simp [lineStartsFrom]
    | cons c t ih =>
      cases o with
      | zero =>
        -- All these lines begin behind the offset.
        simp only [Nat.add_zero, List.take_zero, List.count_nil, List.countP_eq_zero,
          decide_eq_true_eq, Nat.not_le]
        exact fun _ => lt_of_mem_lineStartsFrom
      | succ o =>
        have hrest := ih (offset + 1) o
        rw [Nat.add_right_comm, Nat.add_assoc] at hrest
        unfold lineStartsFrom
        split
        · next hc => simp [hc, hrest]
        · next hc => simp [hc, hrest]
  have hzero := h 0 o
  rw [Nat.zero_add] at hzero
  simp [lineStarts, Text.lineNumberAt, hzero, Nat.add_comm]

/-- A line goes from where it begins to where the next one does. -/
theorem lineRange?_eq_some_iff {starts : List Nat} {length : Nat} {n : Int} {m : Match} :
    lineRange? starts.toArray length n = some m ↔
      ∃ (i : Nat) (h : i < starts.length),
        n = i + 1 ∧ m = (starts[i], starts[i + 1]?.getD length) := by
  unfold lineRange?
  split
  · simp only [reduceCtorEq, false_iff, not_exists]
    omega
  · constructor
    · intro h
      obtain ⟨start, hstart, rfl⟩ := Option.map_eq_some_iff.mp h
      rw [List.getElem?_toArray] at hstart ⊢
      obtain ⟨hi, rfl⟩ := List.getElem?_eq_some_iff.mp hstart
      exact ⟨(n - 1).toNat, hi, by omega, rfl⟩
    · rintro ⟨i, hi, rfl, rfl⟩
      simp [hi]

/-- The range of a line covers an offset of the text just if the offset lies in that line. -/
theorem exists_lineRange?_iff {t : Text} {o : Nat} (ho : o < t.length) {n : Int} :
    (∃ m, lineRange? (lineStarts t).toArray t.length n = some m ∧ m.1 ≤ o ∧ o < m.2) ↔
      n = t.lineNumberAt o := by
  have hsorted := pairwise_lineStarts t
  have hcount := countP_lineStarts t o
  have hle : (lineStarts t).countP (· ≤ o) ≤ (lineStarts t).length := List.countP_le_length
  have hpos : 0 < t.lineNumberAt o := by unfold Text.lineNumberAt; omega
  have hbegun {i : Nat} (hi : i < (lineStarts t).length) :
      (lineStarts t)[i] ≤ o ↔ i < t.lineNumberAt o := by
    rw [Order.getElem_le_iff_lt_countP hsorted hi, hcount]
  -- The next line has not begun: either it begins behind the offset, or there is none.
  have hnext {i : Nat} (hi : i < (lineStarts t).length) :
      o < (lineStarts t)[i + 1]?.getD t.length ↔ t.lineNumberAt o ≤ i + 1 := by
    by_cases hi' : i + 1 < (lineStarts t).length
    · rw [List.getElem?_eq_getElem hi', Option.getD_some, ← Nat.not_le, hbegun hi', Nat.not_lt]
    · rw [List.getElem?_eq_none (by omega), Option.getD_none]
      omega
  constructor
  · rintro ⟨m, hm, hstart, hstop⟩
    obtain ⟨i, hi, rfl, rfl⟩ := lineRange?_eq_some_iff.mp hm
    have := (hbegun hi).mp hstart
    have := (hnext hi).mp hstop
    omega
  · rintro rfl
    have hi : t.lineNumberAt o - 1 < (lineStarts t).length := by omega
    refine ⟨_, lineRange?_eq_some_iff.mpr ⟨_, hi, by omega, rfl⟩, ?_, ?_⟩
    · exact (hbegun hi).mpr (by omega)
    · exact (hnext hi).mpr (by omega)

/-! ## Sorted line numbers -/

/-- The sorted lines are the lines, each of them once. -/
theorem sortedLines_eq (lines : List Int) : sortedLines lines = lines.mergeSort.dedup :=
  Order.foldr_eq_dedup (List.pairwise_mergeSort' (· ≤ ·) lines)

/-- Sorting keeps the lines. -/
theorem mem_sortedLines {lines : List Int} {n : Int} : n ∈ sortedLines lines ↔ n ∈ lines := by
  rw [sortedLines_eq, List.mem_dedup, List.mem_mergeSort]

/-- Sorted lines are strictly increasing. -/
theorem pairwise_sortedLines (lines : List Int) : (sortedLines lines).Pairwise (· < ·) := by
  rw [sortedLines_eq]
  exact Order.pairwise_dedup (List.pairwise_mergeSort' (· ≤ ·) lines)

/-- Every line of a text ends before the later ones begin. -/
theorem pairwise_lineRanges (t : Text) (lines : List Int) :
    ((sortedLines lines).filterMap (lineRange? (lineStarts t).toArray t.length)).Pairwise
      fun a b => a.2 ≤ b.1 := by
  refine (pairwise_sortedLines lines).filterMap _ ?_
  intro n n' hn m hm m' hm'
  obtain ⟨i, hi, rfl, rfl⟩ := lineRange?_eq_some_iff.mp hm
  obtain ⟨j, hj, rfl, rfl⟩ := lineRange?_eq_some_iff.mp hm'
  have hi' : i + 1 < (lineStarts t).length := by omega
  rw [List.getElem?_eq_getElem hi', Option.getD_some]
  rcases Nat.lt_or_eq_of_le (show i + 1 ≤ j by omega) with hij | rfl
  · exact Nat.le_of_lt (List.pairwise_iff_getElem.mp (pairwise_lineStarts t) _ _ hi' hj hij)
  · exact Nat.le_refl _

/-- Lines outside the text, and repetitions, make no difference to the ranges of lines. -/
theorem filterMap_lineRange?_congr {t : Text} {lines lines' : List Int}
    (h : ∀ n : Int, 1 ≤ n → n ≤ 1 + t.count ('\n' : Character) → (n ∈ lines ↔ n ∈ lines')) :
    (sortedLines lines).filterMap (lineRange? (lineStarts t).toArray t.length) =
      (sortedLines lines').filterMap (lineRange? (lineStarts t).toArray t.length) := by
  let inside (n : Int) : Bool := (lineRange? (lineStarts t).toArray t.length n).isSome
  have hinside {n : Int} (hn : inside n = true) : 1 ≤ n ∧ n ≤ 1 + t.count ('\n' : Character) := by
    obtain ⟨m, hm⟩ := Option.isSome_iff_exists.mp hn
    obtain ⟨i, hi, rfl, -⟩ := lineRange?_eq_some_iff.mp hm
    rw [length_lineStarts] at hi
    omega
  have hfilter (lines : List Int) :
      (sortedLines lines).filterMap (lineRange? (lineStarts t).toArray t.length) =
        ((sortedLines lines).filter inside).filterMap
          (lineRange? (lineStarts t).toArray t.length) := by
    rw [List.filterMap_filter]
    refine List.filterMap_congr fun n _ => ?_
    cases hn : lineRange? (lineStarts t).toArray t.length n <;> simp [inside, hn]
  -- Two increasing lists with the same members are equal.
  rw [hfilter lines, hfilter lines']
  congr 1
  refine ((pairwise_sortedLines lines).filter _).eq_of_mem_iff
    ((pairwise_sortedLines lines').filter _) fun n => ?_
  simp only [List.mem_filter, mem_sortedLines]
  exact and_congr_left fun hn => h n (hinside hn).1 (hinside hn).2

/-! ## Lexical categories -/

/-- No token is an overlay. -/
theorem Token.IsFirst.isOverlay_category {r : RuleSet} {s : Text} {token : Token}
    (h : IsFirst r s token) : token.category.isOverlay = false := by
  cases h with
  | word =>
    dsimp only
    split
    · rfl
    · split <;> rfl
  | _ => rfl

/-- So none of the list is. -/
theorem Token.isOverlay_of_mem_list {r : RuleSet} {t : Text} {token : Token}
    (h : token ∈ list r t) : token.category.isOverlay = false := by
  induction t using tokenwise_induction r with
  | nil => simp [list, listFrom] at h
  | step c t ih =>
    rw [list_cons] at h
    rcases List.mem_cons.mp h with rfl | h
    · exact (isFirst_first r c t).isOverlay_category
    · exact ih h

/-- A joined token has the category of one of the tokens. -/
theorem Token.exists_mem_of_mem_joinPlain {tokens : List Token} {token : Token}
    (h : token ∈ joinPlain tokens) : ∃ one ∈ tokens, one.category = token.category := by
  obtain ⟨x, y, hxy⟩ := List.append_of_mem h
  obtain ⟨a, b, rfl, -, hb⟩ := exists_append_of_joinPlain hxy
  cases b with
  | nil => simp [joinPlain] at hb
  | cons one b =>
    obtain ⟨n, more, hmore⟩ := exists_joinPlain_cons one b
    obtain ⟨rfl, -⟩ := List.cons.inj (hmore.symm.trans hb)
    exact ⟨one, by simp, rfl⟩

/-- Passes are layers, which leave the base alone. -/
theorem RuleSet.base_paint (r : RuleSet) (t : Text) :
    (r.paint t).base = (StyledText.plain t).base := by
  unfold RuleSet.paint
  exact List.foldlRecOn (motive := fun s : StyledText => s.base = (StyledText.plain t).base) _ _ rfl
    fun s hs pass _ => hs

/-- A plain text holds no overlay. -/
theorem StyledText.isOverlay_base_plain (t : Text) :
    ∀ span ∈ (plain t).base, span.category.isOverlay = false := by
  cases t <;> simp [plain, Category.isOverlay]

/-- The base spans of a classification are lexical, so that overlays are found in layers alone. -/
theorem Highlighter.isOverlay_base (h : Highlighter) (t : Text) :
    ∀ span ∈ (h.base t).base, span.category.isOverlay = false := by
  unfold Highlighter.base
  split
  · intro span hspan
    obtain ⟨a, token, b, htokens, rfl⟩ := Token.exists_append_of_mem_spansFrom hspan
    have hmem : token ∈ Token.scan (h.rules.getD kotlinRules) t := by simp [htokens]
    obtain ⟨one, hone, hcategory⟩ := Token.exists_mem_of_mem_joinPlain hmem
    rw [← hcategory]
    exact Token.isOverlay_of_mem_list hone
  · split
    · rw [RuleSet.base_paint]
      exact StyledText.isOverlay_base_plain t
    · exact StyledText.isOverlay_base_plain t

/-! ## Painting over a character -/

namespace StyledText

/-- Painting adds the categories of the spans over a character behind those that it has. -/
theorem categoriesAt_paint (s : StyledText) (spans : List Span) (offset : Int) :
    (s.paint spans).categoriesAt offset =
      s.categoriesAt offset ++ (spans.filter (·.covers offset)).map Span.category := by
  have hfilter : (spans.filter fun span => span.start < span.stop).filter (·.covers offset) =
      spans.filter (·.covers offset) := by
    rw [List.filter_filter]
    refine List.filter_congr fun span _ => ?_
    cases hc : span.covers offset with
    | false => rfl
    | true =>
      rw [Span.covers_iff] at hc
      simpa using (by omega : span.start < span.stop)
  show _ ++ ((s.layers ++ _).filter _).map _ = _ ++ (s.layers.filter _).map _ ++ _
  rw [List.filter_append, hfilter, List.map_append, List.append_assoc]
  rfl

/-- Of matches that do not overlap, at most one covers a character. -/
theorem filter_covers_spansOf {found : List Match} (h : found.Pairwise fun a b => a.2 ≤ b.1)
    (c : Category) (o : Nat) :
    ((RulePass.spansOf c found).filter (·.covers o)).map Span.category =
      if ∃ m ∈ found, m.1 ≤ o ∧ o < m.2 then [c] else [] := by
  induction found with
  | nil => rfl
  | cons m found ih =>
    obtain ⟨hm, hfound⟩ := List.pairwise_cons.mp h
    have hrest := ih hfound
    simp only [RulePass.spansOf, List.map_cons, List.filter_cons, Span.covers_iff,
      List.exists_mem_cons_iff, Int.ofNat_le, Int.ofNat_lt] at hrest ⊢
    by_cases hc : m.1 ≤ o ∧ o < m.2
    · -- The later matches begin behind this one.
      have hnone : ¬ ∃ x ∈ found, x.1 ≤ o ∧ o < x.2 := by
        rintro ⟨x, hx, hxo, -⟩
        have := hm x hx
        omega
      rw [if_neg hnone] at hrest
      rw [if_pos hc, List.map_cons, hrest, if_pos (Or.inl hc)]
    · rw [if_neg hc, hrest]
      simp only [hc, false_or]

/-- Error lines add their category to the characters of the lines with errors. -/
theorem categoriesAt_overlayErrors (s : StyledText) {t : Text} (lines : List Int) {o : Nat}
    (ho : o < t.length) :
    (s.overlayErrors t lines).categoriesAt o =
      s.categoriesAt o ++ if (t.lineNumberAt o : Int) ∈ lines then [.errorLine] else [] := by
  rw [overlayErrors, categoriesAt_paint, filter_covers_spansOf (pairwise_lineRanges t lines)]
  congr 1
  refine if_congr ?_ rfl rfl
  simp only [List.mem_filterMap, mem_sortedLines]
  constructor
  · rintro ⟨m, ⟨n, hn, hm⟩, ho'⟩
    obtain rfl := (exists_lineRange?_iff ho).mp ⟨m, hm, ho'⟩
    exact hn
  · intro hn
    obtain ⟨m, hm, ho'⟩ := (exists_lineRange?_iff ho).mpr rfl
    exact ⟨m, ⟨_, hn, hm⟩, ho'⟩

end StyledText

/-- The pattern of a query has what the query asks for. -/
theorem Query.eq_of_pattern?_eq_some {q : Query} {p : Pattern} (hp : q.pattern? = some p) :
    p.query = q.text ∧ p.caseSensitive = q.caseSensitive ∧ p.wholeWord = q.wholeWord := by
  rw [Query.pattern?, Pattern.ofQuery?] at hp
  obtain ⟨_, heq⟩ := Option.dite_none_right_eq_some.mp hp
  obtain rfl := Option.some.inj heq
  exact ⟨rfl, rfl, rfl⟩

/-- A query that is not blank can be searched for, as it stands. -/
theorem Query.exists_pattern?_eq_some (q : Query) (hblank : Text.isBlank q.text = false) :
    ∃ p, q.pattern? = some p ∧ p.query = q.text := by
  have hne : q.text ≠ [] := by
    intro hnil
    rw [hnil] at hblank
    exact absurd hblank (by decide)
  refine ⟨⟨q.text, q.caseSensitive, q.wholeWord, hne⟩, ?_, rfl⟩
  rw [Query.pattern?, Pattern.ofQuery?, dif_pos hne]

/-- An offset of a text lies in one of the leftmost matches of a query that do not overlap. -/
def Query.Hits (q : Query) (t : Text) (o : Nat) : Prop :=
  ∃ p, q.pattern? = some p ∧
    ∃ found, LeftmostMatches (p.Occurs t) 0 found ∧ ∃ m ∈ found, m.1 ≤ o ∧ o < m.2

/-- The matches that a pattern finds are the leftmost ones, of which there are no others. -/
theorem Query.hits_iff {q : Query} {t : Text} {o : Nat} :
    q.Hits t o ↔ ∃ p ∈ q.pattern?, ∃ m ∈ p.allIn t, m.1 ≤ o ∧ o < m.2 := by
  constructor
  · rintro ⟨p, hp, found, hfound, hm⟩
    obtain rfl := hfound.unique (fun _ _ _ hm hn => hm.1.trans hn.1.symm)
      (p.leftmostMatches_allIn t)
    exact ⟨p, hp, hm⟩
  · rintro ⟨p, hp, hm⟩
    exact ⟨p, hp, p.allIn t, p.leftmostMatches_allIn t, hm⟩

instance (q : Query) (t : Text) (o : Nat) : Decidable (q.Hits t o) :=
  decidable_of_iff _ Query.hits_iff.symm

/-- A search adds its category to the characters in its matches. -/
theorem StyledText.categoriesAt_overlaySearch (s : StyledText) (t : Text) (q : Query) (o : Nat) :
    (s.overlaySearch t q.text q.caseSensitive q.wholeWord).categoriesAt o =
      s.categoriesAt o ++
        if Text.isBlank q.text = false ∧ q.Hits t o then [.searchMatch] else [] := by
  unfold overlaySearch
  split
  · next hblank => simp [hblank]
  · next hblank =>
    rw [Bool.not_eq_true] at hblank
    simp only [hblank, true_and, Query.hits_iff]
    split
    · next p hp =>
      have hpattern : q.pattern? = some p := hp
      have hdisjoint := (p.leftmostMatches_allIn t).pairwise
      rw [categoriesAt_paint, filter_covers_spansOf hdisjoint]
      refine congrArg _ (if_congr ?_ rfl rfl)
      simp [hpattern]
    · next hp =>
      have hpattern : q.pattern? = none := hp
      simp [hpattern]

/-- The search adds the matches of a query that is not blank, one span for each, and nothing
else. -/
theorem StyledText.layers_overlaySearch (s : StyledText) {t : Text} {q : Query} {p : Pattern}
    {found : List Match} (hp : q.pattern? = some p) (hblank : Text.isBlank q.text = false)
    (hfound : LeftmostMatches (p.Occurs t) 0 found) :
    (s.overlaySearch t q.text q.caseSensitive q.wholeWord).layers =
      s.layers ++ RulePass.spansOf .searchMatch found := by
  have hall := (p.leftmostMatches_allIn t).unique (fun _ _ _ hm hn => hm.1.trans hn.1.symm) hfound
  have hpattern : Pattern.ofQuery? q.text q.caseSensitive q.wholeWord = some p := hp
  -- No match is empty, so that none of the spans is left out.
  have hkept : (RulePass.spansOf .searchMatch found).filter (fun span => span.start < span.stop) =
      RulePass.spansOf .searchMatch found := by
    apply List.filter_eq_self.mpr
    intro span hspan
    obtain ⟨m, hm, rfl⟩ := List.mem_map.mp hspan
    obtain ⟨i, n, rfl, hn⟩ := hfound.exists_of_mem hm
    have hpos := List.length_pos_iff.mpr p.query_ne_nil
    have : n = p.query.length := hn.1
    have hlt : (i : Int) < (i + n : Nat) := by omega
    exact decide_eq_true hlt
  rw [overlaySearch, hblank, if_neg Bool.false_ne_true, hpattern]
  show s.layers ++ _ = _
  rw [hall, hkept]

namespace Highlighter

/-- Overlays leave the base alone. -/
theorem base_compose (h : Highlighter) (t : Text) (q : Query) (lines : List Int) :
    (h.compose t q lines).base = (h.base t).base := by
  show (StyledText.overlaySearch _ _ _ _ _).base = _
  unfold StyledText.overlaySearch
  split
  · rfl
  · split <;> rfl

/-- The full styling of a document adds to its classification and changes nothing of it: to the
categories of a character it adds the one of search matches, once, just where a match of a query
that is not blank covers the character, and then the one of error lines, once, just where the line
of the character is asked for. Only the set of the numbers asked for counts, and of these only those
that the text has lines for. -/
theorem compose_additive (h : Highlighter) (t : Text) (q : Query) (lines : List Int) :
    (h.compose t q lines).base = (h.base t).base ∧
    (∀ o < t.length, (h.compose t q lines).categoriesAt o =
      (h.base t).categoriesAt o
        ++ (if Text.isBlank q.text = false ∧ q.Hits t o then [.searchMatch] else [])
        ++ (if (t.lineNumberAt o : Int) ∈ lines then [.errorLine] else [])) ∧
    ∀ lines' : List Int,
      (∀ n : Int, 1 ≤ n → n ≤ 1 + t.count ('\n' : Character) → (n ∈ lines' ↔ n ∈ lines)) →
        h.compose t q lines' = h.compose t q lines := by
  refine ⟨h.base_compose t q lines, fun o ho => ?_, fun lines' hlines => ?_⟩
  · unfold compose
    rw [StyledText.categoriesAt_overlayErrors _ _ ho, StyledText.categoriesAt_overlaySearch]
  · unfold compose StyledText.overlayErrors
    simp only [filterMap_lineRange?_congr hlines]

/-- A keyword in the last line, which is asked for twice, beside lines that the text does not
have. -/
theorem compose_additive_last_line :
    let h : Highlighter := ⟨none, true⟩
    let t : Text := "a\nIF if"
    let q : Query := { text := "if" }
    5 < t.length ∧ Text.isBlank q.text = false ∧ q.Hits t 5 ∧
      (h.compose t q [2, 0, 9, -1, 2]).categoriesAt 5 =
        (h.base t).categoriesAt 5 ++ [.searchMatch] ++ [.errorLine] ∧
      h.compose t q [2, 0, 9, -1, 2] = h.compose t q [2] := by
  intro h t q
  have hlength : 5 < t.length := by decide
  have hblank : Text.isBlank q.text = false := by decide
  have hhits : q.Hits t 5 := by decide
  refine ⟨hlength, hblank, hhits, ?_, (h.compose_additive t q [2]).2.2 _ fun n hn hle => ?_⟩
  · have hat := (h.compose_additive t q [2, 0, 9, -1, 2]).2.1 5 hlength
    rwa [if_pos ⟨hblank, hhits⟩, if_pos (by decide)] at hat
  · have : n ≤ 2 := hle
    simp only [List.mem_cons, List.not_mem_nil, or_false]
    omega

end Highlighter

end SourceEditor
