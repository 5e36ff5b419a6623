import SourceEditor.Proofs.Order.Sorted
import SourceEditor.Proofs.Text.ByteOffsets
import Mathlib.Data.List.Range

/-!
# Selections in characters

A buffer keeps its selection in bytes and is asked for it in characters. What is selected by
characters is found again, however many bytes the characters take.

* `Buffer.boundaryAt_le_iff`: the boundary of a byte is the first one that does not lie before it.
* `Buffer.boundaryAt_eq_succ`: a byte inside a character leads to the end of the character.
* `Buffer.selection_selectRange`: the selection after selecting a range of characters.
* `Buffer.exists_ofText`, `Buffer.exists_replaceSelection`: which texts an editor takes, and what is
  left of its text behind an edit of the selection.
-/

namespace SourceEditor

namespace Utf8

theorem width_pos (codePoint : Nat) : 0 < width codePoint := by
  unfold width
  split
  · exact Nat.one_pos
  · split
    · exact Nat.two_pos
    · split
      · exact Nat.succ_pos 2
      · exact Nat.succ_pos 3

/-- Every character has bytes, so that the offsets of different boundaries are different. -/
theorem byteOffset_lt {t : Text} {i j : Nat} (hij : i < j) (hj : j ≤ t.length) :
    byteOffset t i < byteOffset t j := by
  have hi : i < t.length := Nat.lt_of_lt_of_le hij hj
  have hnext : byteOffset t i < byteOffset t (i + 1) := by
    rw [byteOffset, byteOffset, List.take_succ_eq_append_getElem hi, encode_append,
      List.length_append]
    simpa [encode, length_encodeCharacter] using width_pos _
  exact Nat.lt_of_lt_of_le hnext (byteOffset_mono t hij)

theorem pairwise_offsets (t : Text) : (offsets t).Pairwise (· < ·) := by
  rw [offsets_eq_map, List.pairwise_map]
  refine List.pairwise_lt_range.imp_of_mem fun _ hj hij => ?_
  exact byteOffset_lt hij (Nat.le_of_lt_succ (List.mem_range.mp hj))

end Utf8

namespace Buffer

open Utf8 (byteOffset)

variable (b : Buffer)

/-- The boundary of a byte comes no later than another one exactly if the byte does not lie behind
that one. -/
theorem boundaryAt_le_iff {i byte : Nat} (hi : i ≤ b.text.length) :
    b.boundaryAt byte ≤ i ↔ byte ≤ byteOffset b.text i := by
  have hsorted : ((Utf8.offsets b.text).map Int.ofNat).Pairwise (· ≤ ·) := by
    rw [List.pairwise_map]
    exact (Utf8.pairwise_offsets b.text).imp fun h => Int.ofNat_le.mpr (Nat.le_of_lt h)
  have hlt : i < ((Utf8.offsets b.text).map Int.ofNat).length := by
    rw [List.length_map, Utf8.length_offsets]
    omega
  rw [boundaryAt, Order.lowerBound_le_iff hsorted hlt]
  simp [Utf8.offsets_eq_map]

theorem lt_boundaryAt_iff {i byte : Nat} (hi : i ≤ b.text.length) :
    i < b.boundaryAt byte ↔ byteOffset b.text i < byte := by
  rw [← Nat.not_le, b.boundaryAt_le_iff hi, Nat.not_le]

/-- A byte behind the beginning of a character, and not behind its end, leads to the end. -/
theorem boundaryAt_eq_succ {i byte : Nat} (hi : i < b.text.length)
    (hlow : byteOffset b.text i < byte) (hhigh : byte ≤ byteOffset b.text (i + 1)) :
    b.boundaryAt byte = i + 1 := by
  apply Nat.le_antisymm
  · exact (b.boundaryAt_le_iff hi).mpr hhigh
  · exact (b.lt_boundaryAt_iff (Nat.le_of_lt hi)).mpr hlow

/-- The first byte of a character leads back to the character. -/
theorem boundaryAt_byteOffset {i : Nat} (hi : i ≤ b.text.length) :
    b.boundaryAt (byteOffset b.text i) = i := by
  cases i with
  | zero => exact Nat.le_zero.mp ((b.boundaryAt_le_iff hi).mpr (Nat.le_refl _))
  | succ i =>
    exact b.boundaryAt_eq_succ hi (Utf8.byteOffset_lt (Nat.lt_succ_self i) hi) (Nat.le_refl _)

theorem byteOf?_natCast (i : Nat) :
    b.byteOf? i = some (byteOffset b.text (min i b.text.length)) := by
  have hmin : min (i : Int) b.text.length = (min i b.text.length : Nat) := by omega
  unfold byteOf?
  simp only [hmin]
  rw [if_neg (Int.not_lt.mpr (Int.natCast_nonneg _)),
    if_neg (Int.not_lt.mpr (Int.natCast_nonneg _)), Int.toNat_natCast,
    Utf8.getElem?_offsets (Nat.min_le_right i b.text.length)]

theorem selectRange_eq (i j : Nat) :
    b.selectRange i j = b.selectBytes (byteOffset b.text (min i b.text.length))
      (byteOffset b.text (min j b.text.length)) := by
  simp [selectRange, selectChars?, byteOf?_natCast]

@[simp]
theorem text_selectRange (i j : Nat) : (b.selectRange i j).text = b.text := by
  rw [selectRange_eq]
  rfl

/-- A range of characters that was selected is the selection, as far as the text reaches. -/
theorem selection_selectRange {i j : Nat} (hij : i ≤ j) :
    (b.selectRange i j).selection = (min i b.text.length, min j b.text.length) := by
  have hmono : byteOffset b.text (min i b.text.length) ≤ byteOffset b.text (min j b.text.length) :=
    Utf8.byteOffset_mono _ (by omega)
  have hboundary (k : Nat) :
      (b.selectRange i j).boundaryAt (byteOffset b.text (min k b.text.length)) =
        min k b.text.length := by
    rw [selectRange_eq]
    exact boundaryAt_byteOffset _ (Nat.min_le_right k b.text.length)
  rw [← hboundary i, ← hboundary j, selection, selectRange_eq]
  simp [selectBytes, Nat.min_eq_left hmono, Nat.max_eq_right hmono]

/-! ## The whole text -/

theorem sizeOf_eq_length_encode (t : Text) : sizeOf t = (Utf8.encode t).length := by
  induction t with
  | nil => rfl
  | cons c t ih =>
    have hcons : sizeOf (c :: t) = Utf8.width c.toNat + sizeOf t := rfl
    rw [hcons, ih]
    simp [Utf8.encode, Utf8.length_encodeCharacter]

theorem selection_selectAll : b.selectAll.selection = (0, b.text.length) := by
  have hsize : b.size = byteOffset b.text b.text.length := by
    rw [Utf8.byteOffset_length, size, sizeOf_eq_length_encode]
  have hstart : b.selectAll.boundaryAt 0 = 0 :=
    boundaryAt_byteOffset b.selectAll (Nat.zero_le _)
  have hstop : b.selectAll.boundaryAt b.size = b.text.length := by
    rw [hsize]
    exact boundaryAt_byteOffset b.selectAll (Nat.le_refl _)
  have hends : b.selectAll.selection =
      (b.selectAll.boundaryAt (min 0 b.size), b.selectAll.boundaryAt (max 0 b.size)) := rfl
  rw [hends, Nat.zero_min, Nat.zero_max, hstart, hstop]

/-! ## Edits -/

/-- A text that has a form in UTF-8 can be put into an editor. -/
theorem exists_ofText {t : Text} (ht : Utf8.isEncodable t = true) :
    ∃ b, ofText t = .ok b ∧ b.text = t := by
  have hnone : Utf8.refusal? t = none := Utf8.refusalFrom?_eq_none_iff.mpr ht
  unfold ofText
  split
  · exact ⟨_, rfl, rfl⟩
  · next hsome => simp [hnone] at hsome

/-- It can be put in the place of the selection too, and the rest of the text stays as it is. -/
theorem exists_replaceSelection {t : Text} (ht : Utf8.isEncodable t = true) :
    ∃ b', b.replaceSelection t = .ok b' ∧
      b'.text = b.text.take b.selection.1 ++ t ++ b.text.drop b.selection.2 := by
  have hnone : Utf8.refusal? t = none := Utf8.refusalFrom?_eq_none_iff.mpr ht
  unfold replaceSelection
  split
  · exact ⟨_, rfl, rfl⟩
  · next hsome => simp [hnone] at hsome

/-- A text that has none cannot be put anywhere. -/
theorem exists_ofText_eq_error {t : Text} (ht : Utf8.isEncodable t = false) :
    ∃ e, ofText t = .error e := by
  unfold ofText
  split
  · next hnone => simp [Utf8.isEncodable_of_refusal?_eq_none hnone] at ht
  · next e _ => exact ⟨e, rfl⟩

theorem exists_replaceSelection_eq_error {t : Text} (ht : Utf8.isEncodable t = false) :
    ∃ e, b.replaceSelection t = .error e := by
  unfold replaceSelection
  split
  · next hnone => simp [Utf8.isEncodable_of_refusal?_eq_none hnone] at ht
  · next e _ => exact ⟨e, rfl⟩

end Buffer

end SourceEditor
