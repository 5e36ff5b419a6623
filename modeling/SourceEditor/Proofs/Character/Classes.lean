import SourceEditor.Character.Blank
import SourceEditor.Character.Word
import Mathlib.Data.List.Chain

/-!
# Classes of characters

A class of characters that is given by ranges of code points holds what lies in one of the ranges,
and a class of few characters can be looked through.

* `CodeRanges.contains_iff`: the ranges may be searched in their order, up to the first one that
  begins too late.
* `wordRanges`, `isWord_iff`: the word characters as one list of ranges.
* `blankCodes`, `eq_false_of_isBlank`: the blanks as a list, so that what holds of each of them
  holds of all; `isWord_of_isBlank`: no blank is a word character.
-/

namespace SourceEditor.Character

/-- A code point is the one of its character. -/
theorem toNat_ofNat {n : Nat} (h : n < 0x110000) : (ofNat n).toNat = n := by
  unfold ofNat
  split
  · next hsurrogate =>
    show 0xD800 + (n - 0xD800) = n
    omega
  · next houtside =>
    have hvalid : n.isValidChar := by
      unfold Nat.isValidChar
      omega
    show (Char.ofNat n).toNat = n
    rw [Char.ofNat, dif_pos hvalid]
    rfl

namespace CodeRanges

/-- A code point lies in one of some ranges. -/
def Holds (ranges : CodeRanges) (n : Nat) : Prop :=
  ∃ r ∈ ranges, r.1 ≤ n ∧ n ≤ r.2

instance (ranges : CodeRanges) : DecidablePred ranges.Holds := fun n =>
  inferInstanceAs (Decidable (∃ r ∈ ranges, r.1 ≤ n ∧ n ≤ r.2))

variable {ranges others : CodeRanges} {n : Nat}

theorem holds_nil : ¬ Holds [] n := by
  simp [Holds]

theorem holds_cons {first last : Nat} :
    Holds ((first, last) :: ranges) n ↔ first ≤ n ∧ n ≤ last ∨ ranges.Holds n := by
  simp [Holds]

theorem holds_append : Holds (ranges ++ others) n ↔ ranges.Holds n ∨ others.Holds n := by
  simp [Holds, or_and_right, exists_or]

/-- The search for a range may stop at the first one that begins beyond the code point, if their
beginnings increase. -/
theorem contains_iff (h : (ranges.map Prod.fst).IsChain (· ≤ ·)) :
    ranges.contains n = true ↔ ranges.Holds n := by
  rw [List.isChain_iff_pairwise] at h
  induction ranges with
  | nil => simp [CodeRanges.contains, holds_nil]
  | cons range ranges ih =>
    obtain ⟨first, last⟩ := range
    obtain ⟨hfirst, hrest⟩ := List.pairwise_cons.mp h
    rw [CodeRanges.contains, holds_cons]
    split
    · next hlt =>
      -- All ranges that follow begin even later.
      have hnone : ¬ CodeRanges.Holds ranges n := by
        rintro ⟨r, hr, hle, -⟩
        have := hfirst r.1 (List.mem_map_of_mem hr)
        omega
      simp [hnone, Nat.not_le_of_lt hlt]
    · next hle => simp [ih hrest, Nat.le_of_not_lt hle]

end CodeRanges

/-! ## Words -/

/-- The code points of the word characters of ASCII. -/
def asciiWordRanges : CodeRanges :=
  [(48, 57), (65, 90), (95, 95), (97, 122)]

/-- The code points of all word characters. -/
def wordRanges : CodeRanges :=
  asciiWordRanges ++ (letterRanges ++ numericRanges)

/-- A word character is one whose code point lies in the ranges of letters and numbers, or the
underscore. -/
theorem isWord_iff {c : Character} : isWord c = true ↔ wordRanges.Holds c.toNat := by
  -- The tables are in order, so that searching them finds what they hold, and all that they hold
  -- lies beyond ASCII.
  have hletters : (letterRanges.map Prod.fst).IsChain (· ≤ ·) := by decide +kernel
  have hnumerics : (numericRanges.map Prod.fst).IsChain (· ≤ ·) := by decide +kernel
  have hbeyond : ∀ r ∈ letterRanges ++ numericRanges, 128 ≤ r.1 := by decide +kernel
  have hunderscore : c = ('_' : Char) ↔ c.toNat = 95 := by
    refine ⟨fun h => h ▸ rfl, fun h => toNat_injective h⟩
  rw [wordRanges, CodeRanges.holds_append]
  unfold isWord isAlphanumeric isLetter isNumeric
  dsimp only
  -- An ASCII character is decided without the tables, and any other one by them.
  split
  · next hascii =>
    have hnone : ¬ CodeRanges.Holds (letterRanges ++ numericRanges) c.toNat := by
      rintro ⟨r, hr, hle, -⟩
      have := hbeyond r hr
      omega
    simp only [hnone, or_false, asciiWordRanges, CodeRanges.holds_cons, CodeRanges.holds_nil,
      isAsciiLetter, isAsciiDigit, Bool.or_eq_true, Bool.and_eq_true, decide_eq_true_eq,
      beq_iff_eq, hunderscore]
    omega
  · next hbig =>
    have hnone : ¬ asciiWordRanges.Holds c.toNat := by
      simp only [asciiWordRanges, CodeRanges.holds_cons, CodeRanges.holds_nil, or_false]
      omega
    have hother : c.toNat ≠ 95 := by omega
    simp only [hnone, false_or, CodeRanges.holds_append, Bool.or_eq_true, beq_iff_eq, hunderscore,
      hother, or_false, CodeRanges.contains_iff hletters, CodeRanges.contains_iff hnumerics]

/-! ## Blanks -/

/-- The code points of the blanks. -/
def blankCodes : List Nat :=
  List.range' 9 5 ++ List.range' 28 5 ++ List.range' 0x2000 11 ++
    [0x85, 0xA0, 0x1680, 0x2028, 0x2029, 0x202F, 0x205F, 0x3000]

theorem toNat_mem_blankCodes {c : Character} (h : isBlank c = true) : c.toNat ∈ blankCodes := by
  simp only [isBlank, Bool.or_eq_true, Bool.and_eq_true, decide_eq_true_eq, beq_iff_eq] at h
  simp only [blankCodes, List.mem_append, List.mem_range'_1, List.mem_cons, List.not_mem_nil,
    or_false]
  omega

/-- What holds of the few blanks there are holds of every blank. -/
theorem eq_false_of_isBlank {p : Character → Bool}
    (hall : ∀ n ∈ blankCodes, p (ofNat n) = false) {c : Character} (h : isBlank c = true) :
    p c = false := by
  rw [← ofNat_toNat c]
  exact hall _ (toNat_mem_blankCodes h)

theorem isWord_of_isBlank {c : Character} (h : isBlank c = true) : isWord c = false :=
  eq_false_of_isBlank (by decide +kernel) h

end SourceEditor.Character
