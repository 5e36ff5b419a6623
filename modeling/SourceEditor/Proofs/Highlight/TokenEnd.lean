import SourceEditor.Highlight.Token
import Mathlib.Order.Bounds.Basic
import Mathlib.Data.Nat.Order.Lemmas
import Mathlib.Data.List.TakeWhile

/-!
# Where tokens end

The ends of comments, strings, numbers and words, each as a leftmost place or a longest run, without
a word on how it is found.

* `Token.ClosedAfter`: up to the leftmost closing mark, or to the end of the text.
* `Token.IsRead`: the offsets at which a closing quote may stand.
* `Token.IsLineEnd`, `Token.IsRun`: up to the leftmost line break; the longest run of a class.

Each end is unique, lies within the text, and is the one that the scanner finds.
-/

namespace SourceEditor.Token

/-! ## Ends of tokens -/

/-- The first `n` characters of a text go through the leftmost closing mark among the offsets that
are read, or are the whole text if the mark stands at none of them. -/
def ClosedAfter (read : Nat → Prop) (mark s : Text) (n : Nat) : Prop :=
  (∃ k, IsLeast {k | read k ∧ mark <+: s.drop k} k ∧ n = k + mark.length) ∨
    (∀ k, read k → ¬ mark <+: s.drop k) ∧ n = s.length

/-- The offsets that are read in what follows an opening quote: each one after the other, except
that a backslash that begins no quote hides the character after it. -/
inductive IsRead (quote : Text) : Text → Nat → Prop
  /-- Reading begins with the first character. -/
  | first (s : Text) : IsRead quote s 0
  /-- Reading goes on behind a character that hides nothing. -/
  | next {c : Character} {s : Text} {k : Nat} (hc : c ≠ '\\' ∨ quote <+: c :: s)
      (h : IsRead quote s k) : IsRead quote (c :: s) (k + 1)
  /-- Reading goes on behind the character that a backslash hides. -/
  | escape {d : Character} {s : Text} {k : Nat} (hq : ¬ quote <+: '\\' :: d :: s)
      (h : IsRead quote s k) : IsRead quote ('\\' :: d :: s) (k + 2)

/-- The leftmost line break of a text stands at `k`, or the text has none and `k` characters. -/
def IsLineEnd (s : Text) (k : Nat) : Prop :=
  IsLeast {k | s[k]? = some ('\n' : Character)} k ∨ ('\n' : Character) ∉ s ∧ k = s.length

/-- The longest run of characters of a class at the beginning of a text has `n` characters. -/
def IsRun (p : Character → Bool) (s : Text) (n : Nat) : Prop :=
  IsGreatest {n | n ≤ s.length ∧ ∀ c ∈ s.take n, p c = true} n

/-! ## Each end is unique -/

/-- Something ends at one place only. -/
theorem ClosedAfter.unique {read : Nat → Prop} {mark s : Text} {m n : Nat}
    (hm : ClosedAfter read mark s m) (hn : ClosedAfter read mark s n) : m = n := by
  -- There is a closing mark for both or for neither.
  rcases hm with ⟨j, hj, rfl⟩ | ⟨hnone, rfl⟩
  · rcases hn with ⟨k, hk, rfl⟩ | ⟨hnone, -⟩
    · rw [hj.unique hk]
    · exact absurd hj.1.2 (hnone j hj.1.1)
  · rcases hn with ⟨k, hk, -⟩ | ⟨-, rfl⟩
    · exact absurd hk.1.2 (hnone k hk.1.1)
    · rfl

/-- A line ends at one place only. -/
theorem IsLineEnd.unique {s : Text} {j k : Nat} (hj : IsLineEnd s j) (hk : IsLineEnd s k) :
    j = k := by
  rcases hj with hj | ⟨hnone, rfl⟩
  · rcases hk with hk | ⟨hnone, -⟩
    · exact hj.unique hk
    · exact absurd (List.mem_of_getElem? hj.1) hnone
  · rcases hk with hk | ⟨-, rfl⟩
    · exact absurd (List.mem_of_getElem? hk.1) hnone
    · rfl

/-- A run ends at one place only. -/
theorem IsRun.unique {p : Character → Bool} {s : Text} {m n : Nat} (hm : IsRun p s m)
    (hn : IsRun p s n) : m = n :=
  IsGreatest.unique hm hn

/-! ## The scanner finds the ends -/

/-- The least offset with a property is one more in a text with one more character in front, which
has not got it. -/
theorem isLeast_succ {P : Nat → Prop} (h0 : ¬ P 0) {n : Nat} (h : IsLeast {k | P (k + 1)} n) :
    IsLeast {k | P k} (n + 1) := by
  refine ⟨h.1, fun k hk => ?_⟩
  cases k with
  | zero => exact absurd hk h0
  | succ k => exact Nat.succ_le_succ (h.2 hk)

/-- Nothing is less than nothing. -/
theorem isLeast_zero {P : Nat → Prop} (h0 : P 0) : IsLeast {k | P k} 0 :=
  ⟨h0, fun _ _ => Nat.zero_le _⟩

/-- A mark does not stand in an empty text. -/
theorem not_prefix_drop_nil {mark : Text} (hm : mark ≠ []) (k : Nat) :
    ¬ mark <+: ([] : Text).drop k := by
  rw [List.drop_nil]
  exact fun h => hm (List.prefix_nil.mp h)

/-- The first place of a mark is the leftmost offset at which it stands. -/
theorem indexOf?_spec {mark : Text} (hm : mark ≠ []) (s : Text) :
    match Text.indexOf? mark s with
    | some n => IsLeast {k | True ∧ mark <+: s.drop k} n
    | none => ∀ k, ¬ mark <+: s.drop k := by
  induction s with
  | nil =>
    rw [Text.indexOf?, if_neg (by simpa using hm)]
    exact not_prefix_drop_nil hm
  | cons c s ih =>
    rw [Text.indexOf?]
    by_cases hc : mark.isPrefixOf (c :: s)
    · rw [if_pos hc]
      exact isLeast_zero ⟨trivial, List.isPrefixOf_iff_prefix.mp hc⟩
    · rw [if_neg hc]
      have hnot : ¬ mark <+: c :: s := fun h => hc (List.isPrefixOf_iff_prefix.mpr h)
      cases hi : Text.indexOf? mark s with
      | none =>
        rw [hi] at ih
        intro k
        cases k with
        | zero => exact hnot
        | succ k => exact ih k
      | some n =>
        -- The mark does not stand at the first character, so its place is one behind that in the
        -- rest.
        rw [hi] at ih
        exact isLeast_succ (fun h => hnot h.2) ih

/-- The length through a mark is where what it closes ends. -/
theorem closedAfter_lengthThrough {mark : Text} (hm : mark ≠ []) (s : Text) :
    ClosedAfter (fun _ => True) mark s (lengthThrough mark s) := by
  have h := indexOf?_spec hm s
  rw [lengthThrough]
  cases hi : Text.indexOf? mark s with
  | none => rw [hi] at h; exact Or.inr ⟨fun k _ => h k, rfl⟩
  | some n => rw [hi] at h; exact Or.inl ⟨n, h, rfl⟩

/-- Behind a character that is no backslash, reading goes on with the rest. -/
theorem isRead_succ_iff {quote s : Text} {c : Character} (hc : c ≠ '\\') {k : Nat} :
    IsRead quote (c :: s) (k + 1) ↔ IsRead quote s k := by
  refine ⟨fun h => ?_, fun h => .next (Or.inl hc) h⟩
  cases h with
  | next _ h => exact h
  | escape _ _ => exact absurd rfl hc

/-- Behind a backslash that begins no quote, reading goes on with the rest but for one character. -/
theorem isRead_escape_iff {quote s : Text} {d : Character} (hq : ¬ quote <+: '\\' :: d :: s)
    {k : Nat} : IsRead quote ('\\' :: d :: s) (k + 2) ↔ IsRead quote s k := by
  refine ⟨fun h => ?_, fun h => .escape hq h⟩
  cases h with
  | next hc _ => exact absurd hc (by simp [hq])
  | escape _ h => exact h

/-- A character behind a backslash that begins no quote is not read. -/
theorem not_isRead_one {quote s : Text} (hq : ¬ quote <+: '\\' :: s) :
    ¬ IsRead quote ('\\' :: s) 1 := by
  intro h
  cases h with
  | next hc _ => exact absurd hc (by simp [hq])

/-- The closing quote stands at the leftmost offset that is read and at which a quote stands. -/
theorem closingQuote?_spec {quote : Text} (hq : quote ≠ []) (s : Text) :
    match closingQuote? quote s with
    | some n => IsLeast {k | IsRead quote s k ∧ quote <+: s.drop k} n
    | none => ∀ k, IsRead quote s k → ¬ quote <+: s.drop k := by
  -- Where no quote stands, reading goes on behind one character, or behind two after a backslash.
  fun_induction closingQuote? quote s with
  | case1 => exact fun k _ => not_prefix_drop_nil hq k
  | case2 c hc => exact isLeast_zero ⟨.first _, List.isPrefixOf_iff_prefix.mp hc⟩
  | case3 c hc =>
    intro k _
    cases k with
    | zero => exact fun h => hc (List.isPrefixOf_iff_prefix.mpr h)
    | succ k => exact not_prefix_drop_nil hq k
  | case4 c d s hc => exact isLeast_zero ⟨.first _, List.isPrefixOf_iff_prefix.mp hc⟩
  | case5 d s hc ih =>
    -- The hidden character at offset 1 is not read, so the places in the rest move by two.
    have hnot : ¬ quote <+: '\\' :: d :: s := fun h => hc (List.isPrefixOf_iff_prefix.mpr h)
    cases hi : closingQuote? quote s with
    | none =>
      rw [hi] at ih
      intro k hk
      match k with
      | 0 => exact hnot
      | 1 => exact absurd hk (not_isRead_one hnot)
      | k + 2 => exact ih k ((isRead_escape_iff hnot).mp hk)
    | some n =>
      rw [hi] at ih
      refine isLeast_succ (fun h => hnot h.2) (isLeast_succ (fun h => not_isRead_one hnot h.1) ?_)
      simpa only [isRead_escape_iff hnot, List.drop_succ_cons] using ih
  | case6 c d s hc hesc ih =>
    have hnot : ¬ quote <+: c :: d :: s := fun h => hc (List.isPrefixOf_iff_prefix.mpr h)
    cases hi : closingQuote? quote (d :: s) with
    | none =>
      rw [hi] at ih
      intro k hk
      cases k with
      | zero => exact hnot
      | succ k => exact ih k ((isRead_succ_iff hesc).mp hk)
    | some n =>
      rw [hi] at ih
      refine isLeast_succ (fun h => hnot h.2) ?_
      simpa only [isRead_succ_iff hesc, List.drop_succ_cons] using ih

/-- The tail of a string is where its closing quote ends. -/
theorem closedAfter_stringTail {quote : Text} (hq : quote ≠ []) (s : Text) :
    ClosedAfter (IsRead quote s) quote s (stringTail quote s) := by
  have h := closingQuote?_spec hq s
  rw [stringTail]
  cases hi : closingQuote? quote s with
  | none => rw [hi] at h; exact Or.inr ⟨h, rfl⟩
  | some n => rw [hi] at h; exact Or.inl ⟨n, h, rfl⟩

/-- A line is taken up to where it ends. -/
theorem isLineEnd_takeWhile (s : Text) :
    IsLineEnd s (s.takeWhile fun (c : Character) => c != '\n').length := by
  induction s with
  | nil => exact Or.inr ⟨List.not_mem_nil, rfl⟩
  | cons c s ih =>
    by_cases hc : c = '\n'
    · rw [List.takeWhile_cons_of_neg (by simp [hc])]
      exact Or.inl (isLeast_zero (by simp [hc]))
    · rw [List.takeWhile_cons_of_pos (by simp [hc]), List.length_cons]
      rcases ih with h | ⟨hnone, hlen⟩
      · exact Or.inl (isLeast_succ (by simp [hc]) h)
      · exact Or.inr ⟨by simp [Ne.symm hc, hnone], by rw [hlen, List.length_cons]⟩

/-- So is a run. -/
theorem isRun_takeWhile (p : Character → Bool) (s : Text) : IsRun p s (s.takeWhile p).length := by
  refine ⟨⟨(List.takeWhile_prefix p).length_le, ?_⟩, fun n hn => ?_⟩
  · rw [← List.prefix_iff_eq_take.mp (List.takeWhile_prefix p)]
    exact fun c hc => List.mem_takeWhile_imp hc
  · -- A longer run would be taken as well, being a prefix whose characters all belong to the class.
    have hsplit : (s.take n ++ s.drop n).takeWhile p = s.take n ++ (s.drop n).takeWhile p :=
      List.takeWhile_append_of_pos hn.2
    rw [List.take_append_drop] at hsplit
    rw [hsplit, List.length_append, List.length_take_of_le hn.1]
    exact Nat.le_add_right n _

/-! ## Ends lie within the text -/

/-- A mark that stands at an offset ends with the text at the latest. -/
theorem add_length_le_of_prefix_drop {mark s : Text} (hm : mark ≠ []) {k : Nat}
    (h : mark <+: s.drop k) : k + mark.length ≤ s.length := by
  have hpos : 0 < mark.length := List.length_pos_iff.mpr hm
  have hle := h.length_le
  rw [List.length_drop] at hle
  omega

/-- What is closed ends within the text. -/
theorem ClosedAfter.le_length {read : Nat → Prop} {mark s : Text} {n : Nat} (hm : mark ≠ [])
    (h : ClosedAfter read mark s n) : n ≤ s.length := by
  rcases h with ⟨k, hk, rfl⟩ | ⟨-, rfl⟩
  · exact add_length_le_of_prefix_drop hm hk.1.2
  · exact Nat.le_refl _

/-- So does a line. -/
theorem IsLineEnd.le_length {s : Text} {k : Nat} (h : IsLineEnd s k) : k ≤ s.length := by
  rcases h with h | ⟨-, rfl⟩
  · exact Nat.le_of_lt (List.getElem?_eq_some_iff.mp h.1).1
  · exact Nat.le_refl _

/-- A run is not empty if the first character belongs to it. -/
theorem IsRun.pos {p : Character → Bool} {c : Character} {s : Text} {n : Nat}
    (h : IsRun p (c :: s) n) (hc : p c = true) : 0 < n :=
  h.2 ⟨by simp, by simpa using hc⟩

end SourceEditor.Token
