import SourceEditor.Editor.Buffer
import Mathlib.Order.Monotone.Basic

/-!
# Byte offsets

Where the characters of a text lie among its bytes.

* `Utf8.byteOffset`: the number of bytes before a character.
* `Utf8.offsets_eq_map`: the table of offsets holds these numbers for every boundary of the text.
* `Utf8.exists_isByteOf_iff`: the bytes between two boundaries are those of the characters
  between them.
-/

namespace SourceEditor.Utf8

/-- The number of bytes before the character at an offset of a text. -/
def byteOffset (t : Text) (i : Nat) : Nat :=
  (encode (t.take i)).length

/-- A byte of a text is one of those of the character at an offset. -/
def IsByteOf (t : Text) (i b : Nat) : Prop :=
  i < t.length ∧ byteOffset t i ≤ b ∧ b < byteOffset t (i + 1)

/-- A character has as many bytes as its code point asks for. -/
theorem length_encodeCharacter (c : Character) : (encodeCharacter c).length = width c.toNat := by
  cases c with
  | scalar c =>
    have hval : c.val.toNat = c.toNat := rfl
    simp only [encodeCharacter, String.length_utf8EncodeChar, Char.utf8Size, Character.toNat, width,
      UInt32.le_iff_toNat_le, hval]
    grind
  | surrogate index =>
    have h := index.isLt
    simp only [encodeCharacter, List.length_cons, List.length_nil, Character.toNat, width]
    grind

@[simp]
theorem byteOffset_zero (t : Text) : byteOffset t 0 = 0 := rfl

theorem byteOffset_cons_succ (c : Character) (t : Text) (i : Nat) :
    byteOffset (c :: t) (i + 1) = width c.toNat + byteOffset t i := by
  simp [byteOffset, encode, length_encodeCharacter]

theorem byteOffset_length (t : Text) : byteOffset t t.length = (encode t).length := by
  rw [byteOffset, List.take_length]

theorem encode_append (s t : Text) : encode (s ++ t) = encode s ++ encode t :=
  List.flatMap_append

theorem byteOffset_mono (t : Text) : Monotone (byteOffset t) := by
  refine monotone_nat_of_le_succ fun i => ?_
  rw [byteOffset, byteOffset, List.take_add_one, encode_append, List.length_append]
  exact Nat.le_add_right _ _

theorem offsetsFrom_eq_map (offset : Nat) (t : Text) :
    offsetsFrom offset (t.map Character.toNat) =
      (List.range (t.length + 1)).map fun i => offset + byteOffset t i := by
  induction t generalizing offset with
  | nil => rfl
  | cons c t ih =>
    rw [List.map_cons, offsetsFrom, ih, List.length_cons,
      List.range_succ_eq_map (n := t.length + 1)]
    simp [byteOffset_cons_succ, Nat.add_assoc]

/-- The table of offsets holds the number of bytes before every boundary between characters. -/
theorem offsets_eq_map (t : Text) :
    offsets t = (List.range (t.length + 1)).map (byteOffset t) := by
  rw [offsets, offsetsOf, offsetsFrom_eq_map]
  simp

theorem length_offsets (t : Text) : (offsets t).length = t.length + 1 := by
  simp [offsets_eq_map]

/-- Reading the table at a boundary of the text gives the bytes before it. -/
theorem getElem?_offsets {t : Text} {i : Nat} (hi : i ≤ t.length) :
    (offsets t)[i]? = some (byteOffset t i) := by
  rw [offsets_eq_map, List.getElem?_map, List.getElem?_range (Nat.lt_succ_of_le hi),
    Option.map_some]

theorem getElem?_offsets_eq_some_iff {t : Text} {i x : Nat} :
    (offsets t)[i]? = some x ↔ i ≤ t.length ∧ byteOffset t i = x := by
  constructor
  · intro h
    obtain ⟨hlt, -⟩ := List.getElem?_eq_some_iff.mp h
    rw [length_offsets] at hlt
    have hi := Nat.le_of_lt_succ hlt
    exact ⟨hi, Option.some.inj ((getElem?_offsets hi).symm.trans h)⟩
  · rintro ⟨hi, rfl⟩
    exact getElem?_offsets hi

theorem getD_offsets {t : Text} {i : Nat} (hi : i ≤ t.length) :
    (offsets t).toArray.getD i 0 = byteOffset t i := by
  rw [Array.getD_eq_getD_getElem?, List.getElem?_toArray, getElem?_offsets hi, Option.getD_some]

/-- The bytes between two boundaries of a text are those of the characters between them. -/
theorem exists_isByteOf_iff {t : Text} {low high b : Nat} (hhigh : high ≤ t.length) :
    (byteOffset t low ≤ b ∧ b < byteOffset t high) ↔
      ∃ i, low ≤ i ∧ i < high ∧ IsByteOf t i b := by
  constructor
  · rintro ⟨hlow, hb⟩
    -- The character is the last one before which the byte does not lie.
    induction high with
    | zero => simp at hb
    | succ high ih =>
      by_cases h : b < byteOffset t high
      · obtain ⟨i, hi, hlt, hbyte⟩ := ih (by omega) h
        exact ⟨i, hi, by omega, hbyte⟩
      · refine ⟨high, ?_, Nat.lt_succ_self high, hhigh, Nat.le_of_not_lt h, hb⟩
        by_contra hlt
        have := byteOffset_mono t (show high + 1 ≤ low by omega)
        omega
  · rintro ⟨i, hlow, hlt, -, hle, hb⟩
    exact ⟨Nat.le_trans (byteOffset_mono t hlow) hle,
      Nat.lt_of_lt_of_le hb (byteOffset_mono t hlt)⟩

end SourceEditor.Utf8
