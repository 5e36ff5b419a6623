import SourceEditor.Order.UpperBound
import SourceEditor.Text.Basic
import Mathlib.Data.List.Destutter
import Mathlib.Order.Defs.LinearOrder

/-!
# Sorted lists

What halving finds in a sorted array, and what remains of a sorted list without repetitions.

* `upperBound_bracket`: the upper bound of a number cuts a sorted array into the entries that are at
  most the number and those that are greater.
* `lowerBound_le_iff`: the lower bound is the place of the first entry that is not smaller.
* `foldr_eq_dedup`: dropping the repetitions of a sorted list leaves each of its members once.
* `getElem_le_iff_lt_countP`: counting the entries up to a number says which they are.
* `Text.mem_sortedUnique`, `Text.isTable_sortedUnique`: a sorted table holds each of its texts once.
* `Text.IsTable.eq_of_mem_iff`: nothing but its texts makes a table.
-/

namespace SourceEditor.Order

/-! ## Upper bounds -/

/-- The entries before `low` are at most `x`, and those from `high` on are greater. -/
structure Bracket (entries : Array Int) (x : Int) (low high : Nat) : Prop where
  /-- The ends are in order. -/
  low_le_high : low ≤ high
  /-- Both ends lie within the array. -/
  high_le_size : high ≤ entries.size
  /-- What lies before the bracket is at most `x`. -/
  le_of_lt_low : ∀ i (_ : i < entries.size), i < low → entries[i] ≤ x
  /-- What lies behind the bracket is greater than `x`. -/
  lt_of_high_le : ∀ i (_ : i < entries.size), high ≤ i → x < entries[i]

/-- The entries of a sorted array grow with their places. -/
theorem getElem_le_getElem {entries : Array Int} (hs : entries.toList.Pairwise (· ≤ ·)) {i j : Nat}
    (hij : i ≤ j) (hj : j < entries.size) : entries[i] ≤ entries[j] := by
  rcases Nat.lt_or_eq_of_le hij with h | rfl
  · have hlt := List.pairwise_iff_getElem.mp hs i j (Nat.lt_trans h hj) hj h
    rwa [Array.getElem_toList, Array.getElem_toList] at hlt
  · exact Int.le_refl _

/-- Halving closes a bracket around a sorted array. -/
theorem bracket_upperBoundBetween {entries : Array Int} (hs : entries.toList.Pairwise (· ≤ ·))
    {x : Int} {low high : Nat} (h : Bracket entries x low high) :
    Bracket entries x (upperBoundBetween entries x low high)
      (upperBoundBetween entries x low high) := by
  obtain ⟨hle, hsize, hbelow, habove⟩ := h
  -- Each half that is left is a bracket again, since the middle entry decides for its whole side.
  fun_induction upperBoundBetween entries x low high with
  | case1 low high hlt middle hx ih =>
    have hm : middle < entries.size := by omega
    rw [Array.getD_eq_getD_getElem?, Array.getElem?_eq_getElem hm, Option.getD_some] at hx
    refine ih (by omega) (by omega) hbelow fun i hi hmi => ?_
    exact Int.lt_of_lt_of_le hx (getElem_le_getElem hs hmi hi)
  | case2 low high hlt middle hx ih =>
    have hm : middle < entries.size := by omega
    rw [Array.getD_eq_getD_getElem?, Array.getElem?_eq_getElem hm, Option.getD_some] at hx
    refine ih (by omega) hsize (fun i hi him => ?_) habove
    exact Int.le_trans (getElem_le_getElem hs (by omega) hm) (Int.not_lt.mp hx)
  | case3 low high hlt =>
    obtain rfl : low = high := by omega
    exact ⟨Nat.le_refl _, hsize, hbelow, habove⟩

/-- The upper bound of a number cuts a sorted array into the entries that are at most the number and
those that are greater. -/
theorem upperBound_bracket {entries : Array Int} (hs : entries.toList.Pairwise (· ≤ ·)) (x : Int) :
    Bracket entries x (upperBound entries x) (upperBound entries x) := by
  refine bracket_upperBoundBetween hs ⟨Nat.zero_le _, Nat.le_refl _, ?_, ?_⟩
  · exact fun i _ h => absurd h (Nat.not_lt_zero i)
  · exact fun i hi h => absurd hi (Nat.not_lt.mpr h)

/-- The lower bound of a number comes no later than an entry exactly if that entry is not
smaller. -/
theorem lowerBound_le_iff {entries : Array Int} (hs : entries.toList.Pairwise (· ≤ ·)) {x : Int}
    {i : Nat} (hi : i < entries.size) : lowerBound entries x ≤ i ↔ x ≤ entries[i] := by
  obtain ⟨-, -, hbelow, habove⟩ := upperBound_bracket hs (x - 1)
  constructor
  · intro h
    have := habove i hi h
    omega
  · intro hx
    by_contra h
    have := hbelow i hi (Nat.lt_of_not_le h)
    omega

/-! ## Repetitions -/

section Repetitions

variable {α : Type*} [DecidableEq α]

/-- What is left of a list that begins with `a` begins with `a`. -/
theorem head?_destutter' (l : List α) (a : α) : (l.destutter' (· ≠ ·) a).head? = some a := by
  induction l generalizing a with
  | nil => rfl
  | cons b l ih =>
    by_cases hab : a ≠ b
    · rw [List.destutter'_cons_pos l hab, List.head?_cons]
    · rw [List.destutter'_cons_neg l hab, ih]

/-- Leaving out every entry that the next one repeats leaves the entries that differ from the one
before. -/
theorem foldr_eq_destutter (l : List α) :
    l.foldr (fun a acc => if acc.head? = some a then acc else a :: acc) [] =
      l.destutter (· ≠ ·) := by
  induction l with
  | nil => rfl
  | cons a l ih =>
    rw [List.foldr_cons, ih]
    cases l with
    | nil => rfl
    | cons b l =>
      rw [List.destutter_cons_cons, List.destutter_cons', head?_destutter']
      by_cases hab : a = b
      · rw [if_pos (congrArg some hab.symm), if_neg (not_not_intro hab), hab]
      · rw [if_neg fun h => hab (Option.some.inj h).symm, if_pos hab]

/-- A sorted list without its repetitions holds each of its members once. -/
theorem foldr_eq_dedup {r : α → α → Prop} [Std.Antisymm r] {l : List α} (h : l.Pairwise r) :
    l.foldr (fun a acc => if acc.head? = some a then acc else a :: acc) [] = l.dedup :=
  (foldr_eq_destutter l).trans h.destutter_eq_dedup

/-- A sorted list without its repetitions is strictly increasing. -/
theorem pairwise_dedup [PartialOrder α] {l : List α} (h : l.Pairwise (· ≤ ·)) :
    l.dedup.Pairwise (· < ·) :=
  ((h.sublist l.dedup_sublist).and l.nodup_dedup).imp fun hab => lt_of_le_of_ne hab.1 hab.2

end Repetitions

/-! ## Counting -/

/-- In an increasing list, the entries up to a number are the first ones. -/
theorem getElem_le_iff_lt_countP {l : List Nat} (h : l.Pairwise (· < ·)) {i x : Nat}
    (hi : i < l.length) : l[i] ≤ x ↔ i < l.countP (· ≤ x) := by
  induction l generalizing i with
  | nil => simp at hi
  | cons a l ih =>
    obtain ⟨ha, hl⟩ := List.pairwise_cons.mp h
    by_cases hax : a ≤ x
    · cases i with
      | zero => simp [hax]
      | succ i => simpa [hax] using ih hl (by simpa using hi)
    · -- The first entry is greater than the number, and so are all the others.
      have hnone : (a :: l).countP (· ≤ x) = 0 := by
        refine List.countP_eq_zero.mpr fun b hb => ?_
        rcases List.mem_cons.mp hb with rfl | hb
        · simpa using hax
        · have := ha b hb
          simpa using (by omega : x < b)
      rw [hnone]
      cases i with
      | zero => simpa using hax
      | succ i =>
        have hi' : i < l.length := by simpa using hi
        have := ha l[i] (List.getElem_mem hi')
        simpa using (by omega : x < l[i])

end SourceEditor.Order

/-! ## Texts -/

namespace SourceEditor.Text

/-- Texts in the order of code points. -/
abbrev codePointOrder : PartialOrder Text where
  le s t := s.le t = true
  le_refl s := by
    induction s with
    | nil => rfl
    | cons a s ih => simp [le, ih]
  le_trans s t u hst htu := by
    induction s generalizing t u with
    | nil => rfl
    | cons a s ih =>
      cases t with
      | nil => cases hst
      | cons b t =>
        cases u with
        | nil => cases htu
        | cons c u => grind [le]
  le_antisymm s t hst hts := by
    induction s generalizing t with
    | nil => cases t with
      | nil => rfl
      | cons => cases hts
    | cons a s ih =>
      cases t with
      | nil => cases hst
      | cons b t => grind [le]

/-- Any two texts are in order. -/
theorem le_total (s t : Text) : s.le t || t.le s := by
  induction s generalizing t with
  | nil => rfl
  | cons a s ih =>
    cases t with
    | nil => rfl
    | cons b t =>
      have := @Character.toNat_injective a b
      grind [le]

/-- A text that is put into a table joins the texts that are there. -/
theorem mem_insertText {s t : Text} {l : List Text} : s ∈ insertText t l ↔ s = t ∨ s ∈ l := by
  fun_induction insertText t l with
  | case1 => simp
  | case2 rest => simp
  | case3 u rest hne hle => simp
  | case4 u rest hne hle ih => simp only [List.mem_cons, ih]; exact or_left_comm

/-- A sorted table holds the texts that it was made of. -/
theorem mem_sortedUnique {l : List Text} {t : Text} : t ∈ sortedUnique l ↔ t ∈ l := by
  induction l with
  | nil => rfl
  | cons s l ih => exact mem_insertText.trans (by rw [List.mem_cons, ← ih]; rfl)

/-- Texts in increasing order of code points, each of them once. -/
def IsTable (l : List Text) : Prop :=
  l.Pairwise fun s t => s.le t = true ∧ s ≠ t

/-- A text that is put into a table leaves it in increasing order. -/
theorem isTable_insertText {t : Text} {l : List Text} (h : IsTable l) :
    IsTable (insertText t l) := by
  fun_induction insertText t l with
  | case1 => exact List.pairwise_singleton _ _
  | case2 => exact h
  | case3 u rest hne hle =>
    refine List.pairwise_cons.mpr ⟨fun s hs => ?_, h⟩
    -- Whatever stands behind the text is at least the first text of the old table.
    have hfirst : u.le s := by
      rcases List.mem_cons.mp hs with rfl | hs
      · exact codePointOrder.le_refl s
      · exact (List.rel_of_pairwise_cons h hs).1
    refine ⟨codePointOrder.le_trans _ _ _ hle hfirst, ?_⟩
    rintro rfl
    exact hne (codePointOrder.le_antisymm _ _ hle hfirst)
  | case4 u rest hne hle ih =>
    obtain ⟨hu, hrest⟩ := List.pairwise_cons.mp h
    refine List.pairwise_cons.mpr ⟨fun s hs => ?_, ih hrest⟩
    rcases mem_insertText.mp hs with rfl | hs
    · exact ⟨(Bool.or_eq_true_iff.mp (le_total u s)).resolve_right hle, Ne.symm hne⟩
    · exact hu s hs

/-- A sorted table is in increasing order. -/
theorem isTable_sortedUnique (l : List Text) : IsTable (sortedUnique l) := by
  induction l with
  | nil => exact List.Pairwise.nil
  | cons t l ih => exact isTable_insertText ih

/-- A table holds no text twice. -/
theorem IsTable.nodup {l : List Text} (h : IsTable l) : l.Nodup :=
  h.imp And.right

/-- Two tables of the same texts are the same. -/
theorem IsTable.eq_of_mem_iff {l m : List Text} (hl : IsTable l) (hm : IsTable m)
    (h : ∀ t, t ∈ l ↔ t ∈ m) : l = m := by
  have hperm : l.Perm m := (List.perm_ext_iff_of_nodup hl.nodup hm.nodup).mpr fun t => h t
  exact hperm.eq_of_pairwise (fun s t _ _ hst hts => codePointOrder.le_antisymm s t hst.1 hts.1)
    hl hm

end SourceEditor.Text
