import SourceEditor.Proofs.Search.Cycle

/-!
# Replacing a selection

A selection is judged as if the text ended where the selection ends, while the character before it
stays in view. This tells a match from something else as long as no whole words are asked for. For
whole words the right end makes a difference in both directions: a word that goes on behind the
selection is taken for a whole one, and a match that ends with a mark is refused.

* `Text.isWordBefore`, `Text.isWordAt`: what stands on either side of an offset. A word boundary
  is where they differ (`Text.isWordBoundary_iff`).
* `Pattern.replaceSelection_eq_some_iff`: a selection is replaced if the query occurs there in the
  text up to its right end.
* `Pattern.replaceSelection_occurs`: when a selection that is replaced is a match of the whole text.
* `Pattern.replaceSelection_findNext`: when a match that was found can be replaced.
-/

namespace SourceEditor

namespace Text

variable {t : Text} {i stop : Nat}

/-- Whether the character before an offset of a text belongs to words. -/
def isWordBefore (t : Text) (i : Nat) : Bool :=
  (t.take i).getLast?.any Character.isWord

/-- Whether the character at an offset of a text belongs to words. -/
def isWordAt (t : Text) (i : Nat) : Bool :=
  t[i]?.any Character.isWord

theorem isWordBoundary_iff : t.IsWordBoundary i ↔ t.isWordBefore i ≠ t.isWordAt i := by
  simp [IsWordBoundary, Matcher.isWordBoundary, isWordBefore, isWordAt]

/-- Nothing stands at the end of a text that is cut off there. -/
theorem isWordBoundary_take_self : IsWordBoundary (t.take i) i ↔ t.isWordBefore i = true := by
  have hbefore : isWordBefore (t.take i) i = t.isWordBefore i := by
    rw [isWordBefore, List.take_take, Nat.min_self]
    rfl
  have hat : isWordAt (t.take i) i = false := by simp [isWordAt]
  rw [isWordBoundary_iff, hbefore, hat, ne_eq, Bool.not_eq_false]

/-- Before the end, cutting off a text changes no word boundary. -/
theorem isWordBoundary_take_of_lt (h : i < stop) :
    IsWordBoundary (t.take stop) i ↔ t.IsWordBoundary i := by
  rw [IsWordBoundary, List.take_take, Nat.min_eq_left (Nat.le_of_lt h), List.getElem?_take_of_lt h]
  rfl

end Text

namespace Pattern

variable {p : Pattern} {t : Text} {low high n : Nat}

/-! ## A query in a text that is cut off -/

/-- In a text that is cut off behind the query, the boundary at the right end is all that may be
different: it is there if the query ends with a character of a word. -/
theorem standsAt_take_iff :
    p.StandsAt (t.take (low + p.query.length)) low ↔
      List.Forall₂ (fun q c => p.same q c = true) p.query ((t.drop low).take p.query.length) ∧
        (p.wholeWord = true →
          t.IsWordBoundary low ∧ t.isWordBefore (low + p.query.length) = true) := by
  have hpos := List.length_pos_iff.mpr p.query_ne_nil
  have hselected : ((t.take (low + p.query.length)).drop low).take p.query.length =
      (t.drop low).take p.query.length := by
    rw [List.drop_take, Nat.add_sub_cancel_left, List.take_take, Nat.min_self]
  rw [StandsAt, hselected, Text.isWordBoundary_take_self,
    Text.isWordBoundary_take_of_lt (Nat.lt_add_of_pos_right hpos)]

/-- A query that occurs at the end of a text that is cut off there occurs in the whole text, unless
whole words are asked for and the word goes on. -/
theorem occurs_iff_of_occurs_take (h : p.Occurs (t.take high) low (high - low)) :
    p.Occurs t low (high - low) ↔ (p.wholeWord = true → t.isWordAt high = false) := by
  obtain ⟨hlength, hstands⟩ := h
  have hpos := List.length_pos_iff.mpr p.query_ne_nil
  obtain rfl : high = low + p.query.length := by omega
  obtain ⟨hagrees, hword⟩ := standsAt_take_iff.mp hstands
  simp only [Occurs, StandsAt, hlength, hagrees, true_and]
  constructor
  · intro hwhole hw
    have hboundary := Text.isWordBoundary_iff.mp (hwhole hw).2
    rw [(hword hw).2] at hboundary
    exact Bool.not_eq_true _ ▸ hboundary.symm
  · intro hnext hw
    refine ⟨(hword hw).1, Text.isWordBoundary_iff.mpr ?_⟩
    rw [(hword hw).2, hnext hw]
    exact Bool.false_ne_true.symm

/-- A query that occurs in a text occurs also if the text is cut off behind it, unless whole words
are asked for and the last character of the match belongs to none. -/
theorem occurs_take_iff_of_occurs (h : p.Occurs t low n) :
    p.Occurs (t.take (low + n)) low n ↔
      (p.wholeWord = true → t.isWordBefore (low + n) = true) := by
  obtain ⟨rfl, hagrees, hword⟩ := h
  rw [Occurs, standsAt_take_iff]
  constructor
  · intro hcut hw
    exact (hcut.2.2 hw).2
  · intro hlast
    exact ⟨rfl, hagrees, fun hw => ⟨(hword hw).1, hlast hw⟩⟩

/-! ## Replacing -/

/-- The matcher sees of a selection what it would see of it in the text up to its right end. -/
theorem matcher_selection_iff (hlt : low < high) (hle : high ≤ t.length) :
    p.matcher (t.take low).getLast? ((t.drop low).take (high - low)) = some (high - low) ↔
      p.Occurs (t.take high) low (high - low) := by
  have hbefore : (t.take high).take low = t.take low := by
    rw [List.take_take, Nat.min_eq_left (Nat.le_of_lt hlt)]
  have hlength : low < (t.take high).length := by
    rw [List.length_take, Nat.min_eq_left hle]
    exact hlt
  rw [← matchesAt_matcher, Matcher.MatchesAt, hbefore, List.drop_take]
  constructor
  · intro hmatch
    exact ⟨hlength, Nat.sub_pos_of_lt hlt, hmatch⟩
  · intro hmatch
    exact hmatch.2.2

/-- A selection is replaced exactly if the query occurs there in the text up to its right end, and
nothing but the selection is. -/
theorem replaceSelection_eq_some_iff {a b : Int} {r : Text} {out : Text × Nat × Nat} :
    p.replaceSelection t a b r = some out ↔
      ∃ low high : Nat, (low : Int) = min a b ∧ (high : Int) = max a b ∧
        p.Occurs (t.take high) low (high - low) ∧
        out = (t.take low ++ r ++ t.drop high, low, low + r.length) := by
  constructor
  · intro h
    simp only [replaceSelection, Option.ite_none_left_eq_some, Option.ite_none_right_eq_some,
      Option.some.injEq] at h
    obtain ⟨hwithin, hmatch, rfl⟩ := h
    rw [not_or, not_or] at hwithin
    refine ⟨(min a b).toNat, (max a b).toNat, by omega, by omega, ?_, rfl⟩
    exact (matcher_selection_iff (by omega) (by omega)).mp hmatch
  · rintro ⟨low, high, hlow, hhigh, hoccurs, rfl⟩
    -- The query is not empty, and it stands before the right end.
    have hpos := List.length_pos_iff.mpr p.query_ne_nil
    have hend := hoccurs.2.add_length_le
    have hlength := hoccurs.1
    rw [List.length_take] at hend
    have hmatch := (matcher_selection_iff (by omega) (by omega)).mpr hoccurs
    have hwithin : ¬ ((low : Int) = high ∨ (low : Int) < 0 ∨ (t.length : Int) < high) := by omega
    simp only [replaceSelection, ← hlow, ← hhigh, if_neg hwithin, Int.toNat_natCast, if_pos hmatch]

/-- A replacement takes the place of one selection, and of nothing else. It does so exactly if the
query occurs there in the text up to the right end of the selection; and then it occurs there in the
whole text, unless whole words are asked for and a character of a word follows the selection. -/
theorem replaceSelection_occurs {a b : Int} {r : Text} {out : Text × Nat × Nat} :
    p.replaceSelection t a b r = some out ↔
      ∃ low high : Nat, (low : Int) = min a b ∧ (high : Int) = max a b ∧
        out = (t.take low ++ r ++ t.drop high, low, low + r.length) ∧
        p.Occurs (t.take high) low (high - low) ∧
        (p.Occurs t low (high - low) ↔ (p.wholeWord = true → t.isWordAt high = false)) := by
  rw [replaceSelection_eq_some_iff]
  constructor
  · rintro ⟨low, high, hlow, hhigh, hoccurs, hout⟩
    exact ⟨low, high, hlow, hhigh, hout, hoccurs, occurs_iff_of_occurs_take hoccurs⟩
  · rintro ⟨low, high, hlow, hhigh, hout, hoccurs, -⟩
    exact ⟨low, high, hlow, hhigh, hoccurs, hout⟩

/-- The beginning of a longer word is replaced although whole words are asked for. -/
theorem replaceSelection_occurs_within_word :
    let p : Pattern := ⟨"val", false, true, by decide⟩
    p.replaceSelection "value" 0 3 "var" = some (("varue" : Text), 0, 3) ∧
      ¬ p.Occurs "value" 0 3 := by
  intro p
  have hreplaced : p.replaceSelection "value" 0 3 "var" = some (("varue" : Text), 0, 3) := by
    decide +kernel
  obtain ⟨low, high, hlow, hhigh, -, -, hwhole⟩ := replaceSelection_occurs.mp hreplaced
  obtain rfl : low = 0 := by omega
  obtain rfl : high = 3 := by omega
  refine ⟨hreplaced, fun hoccurs => ?_⟩
  have hnext : Text.isWordAt "value" 3 = false := hwhole.mp hoccurs rfl
  exact absurd hnext (by decide +kernel)

/-! ## Replacing what was found -/

/-- What is found occurs in the text, wherever the search began. -/
theorem occurs_of_findNext {start : Int} {m : Match} (h : p.findNext t start = some m) :
    ∃ i n, m = (i, i + n) ∧ p.Occurs t i n := by
  -- The search goes on from its start first, and then from the beginning of the text.
  have hfirst {i : Nat} (hi : i ≤ t.length) (hm : p.matcher.first? t i = some m) :
      ∃ i n, m = (i, i + n) ∧ p.Occurs t i n := by
    have hfound := p.matcher.leftmostMatches_allFrom (t.take i) (t.drop i) 0
    rw [List.take_append_drop, List.length_take, Nat.min_eq_left hi, Nat.add_zero] at hfound
    rw [Matcher.first?_eq_head? hi hfound] at hm
    rw [matchesAt_eq_occurs] at hfound
    exact hfound.exists_of_mem (List.mem_of_head? hm)
  rw [findNext, Option.or_eq_some_iff] at h
  rcases h with hm | ⟨-, hm⟩
  · exact hfirst (by omega) hm
  · exact hfirst (Nat.zero_le _) hm

/-- A match that was found occurs in the text. It is replaced, and nothing but it, unless whole
words are asked for and the last character of the match belongs to none: then it is refused. -/
theorem replaceSelection_findNext {start : Int} {low high : Nat}
    (h : p.findNext t start = some (low, high)) (r : Text) :
    p.Occurs t low (high - low) ∧
      p.replaceSelection t low high r =
        if p.wholeWord && !t.isWordBefore high then none
        else some (t.take low ++ r ++ t.drop high, low, low + r.length) := by
  obtain ⟨i, n, hm, hoccurs⟩ := occurs_of_findNext h
  obtain ⟨rfl, rfl⟩ := Prod.mk.inj hm
  rw [Nat.add_sub_cancel_left]
  refine ⟨hoccurs, ?_⟩
  -- The two ends are in order already, so that the selection is the match.
  have hiff {out : Text × Nat × Nat} :
      p.replaceSelection t low ((low + n : Nat) : Int) r = some out ↔
        (p.wholeWord = true → t.isWordBefore (low + n) = true) ∧
          out = (t.take low ++ r ++ t.drop (low + n), low, low + r.length) := by
    rw [replaceSelection_eq_some_iff, ← occurs_take_iff_of_occurs hoccurs]
    constructor
    · rintro ⟨i, j, hi, hj, hcut, rfl⟩
      obtain rfl : i = low := by omega
      obtain rfl : j = i + n := by omega
      rw [Nat.add_sub_cancel_left] at hcut
      exact ⟨hcut, rfl⟩
    · rintro ⟨hcut, rfl⟩
      refine ⟨low, low + n, by omega, by omega, ?_, rfl⟩
      rw [Nat.add_sub_cancel_left]
      exact hcut
  split
  · next hrefused =>
    rw [Bool.and_eq_true, Bool.not_eq_true'] at hrefused
    rw [Option.eq_none_iff_forall_ne_some]
    intro out hout
    have hlast := (hiff.mp hout).1 hrefused.1
    rw [hrefused.2] at hlast
    exact Bool.false_ne_true hlast
  · next haccepted =>
    refine hiff.mpr ⟨fun hw => ?_, rfl⟩
    rw [hw, Bool.true_and, Bool.not_eq_true', Bool.not_eq_false] at haccepted
    exact haccepted

/-- A whole word is found and replaced; a match that ends with a mark is found and refused. -/
theorem replaceSelection_findNext_mark :
    let word : Pattern := ⟨"val", false, true, by decide⟩
    let mark : Pattern := ⟨"a-", false, true, by decide⟩
    word.findNext "let val" 5 = some (4, 7) ∧
      word.replaceSelection "let val" 4 7 "var" = some (("let var" : Text), 4, 7) ∧
      mark.findNext "a-b" 0 = some (0, 2) ∧ mark.Occurs "a-b" 0 2 ∧
      mark.replaceSelection "a-b" 0 2 "x" = none := by
  intro word mark
  have hword : word.findNext "let val" 5 = some (4, 7) := by decide +kernel
  have hmark : mark.findNext "a-b" 0 = some (0, 2) := by decide +kernel
  obtain ⟨-, hreplaced⟩ := replaceSelection_findNext hword "var"
  obtain ⟨hoccurs, hrefused⟩ := replaceSelection_findNext hmark "x"
  exact ⟨hword, hreplaced.trans (by decide +kernel), hmark, hoccurs,
    hrefused.trans (by decide +kernel)⟩

end Pattern

end SourceEditor
