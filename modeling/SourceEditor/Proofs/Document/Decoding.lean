import SourceEditor.Document.Decoding
import SourceEditor.Proofs.Text.Decoding

/-!
# Documents in UTF-8

The document that well-formed bytes hold. It is the text that they are the bytes of, whatever its
line ends are, except that a byte order mark at the beginning is left out.

* `Utf8.IsWellFormed`: bytes that are those of some scalar values.
* `Text.withoutMark`: what is left of a text without a mark.
* `Document.decode?_encode`: the document in the bytes of a text.
-/

namespace SourceEditor

/-- Bytes are well-formed UTF-8: they are the bytes of scalar values. -/
def Utf8.IsWellFormed (bs : Bytes) : Prop :=
  ∃ cs : List Char, bs = cs.flatMap String.utf8EncodeChar

/-- A text without the byte order mark at its beginning, if there is one. A second mark stays. -/
def Text.withoutMark (t : Text) : Text :=
  if t.head? = some '\uFEFF' then t.tail else t

example : Text.withoutMark "\uFEFF\uFEFFa" = ("\uFEFFa" : Text) := by decide

theorem Utf8.isWellFormed_iff {bs : Bytes} :
    IsWellFormed bs ↔ ∃ t, isEncodable t = true ∧ encode t = bs := by
  constructor
  · rintro ⟨cs, rfl⟩
    exact ⟨.ofChars cs, isEncodable_iff.mpr ⟨cs, rfl⟩, encode_ofChars cs⟩
  · rintro ⟨t, ht, rfl⟩
    obtain ⟨cs, rfl⟩ := isEncodable_iff.mp ht
    exact ⟨cs, encode_ofChars cs⟩

theorem Utf8.isEncodable_withoutMark {t : Text} (ht : isEncodable t = true) :
    isEncodable t.withoutMark = true := by
  unfold Text.withoutMark
  split
  · rw [← List.drop_one]
    exact isEncodable_drop ht 1
  · exact ht

/-- No other character has a zero byte. -/
theorem Utf8.zero_mem_utf8EncodeChar_iff {c : Char} :
    0 ∈ String.utf8EncodeChar c ↔ c = '\x00' := by
  constructor
  · intro hzero
    obtain ⟨b, hc⟩ | ⟨b, x, hc⟩ | ⟨b, x, y, hc⟩ | ⟨b, x, y, z, hc⟩ := utf8EncodeChar_cases c
    · rw [hc, List.mem_singleton] at hzero
      have hb := utf8EncodeChar_eq_one_iff.mp hc
      rw [← Char.toNat_inj, hb.2, ← hzero]
      rfl
    · have hb := utf8EncodeChar_eq_two_iff.mp hc
      simp [hc, ← UInt8.toNat_inj] at hzero
      omega
    · have hb := utf8EncodeChar_eq_three_iff.mp hc
      simp [hc, ← UInt8.toNat_inj] at hzero
      omega
    · have hb := utf8EncodeChar_eq_four_iff.mp hc
      simp [hc, ← UInt8.toNat_inj] at hzero
      omega
  · rintro rfl
    decide

/-- The bytes of a text hold a zero byte only if the text holds the character of zero. -/
theorem Utf8.zero_mem_encode_iff {t : Text} (ht : isEncodable t = true) :
    0 ∈ encode t ↔ Character.scalar '\x00' ∈ t := by
  obtain ⟨cs, rfl⟩ := isEncodable_iff.mp ht
  rw [encode_ofChars, List.mem_flatMap]
  simp [zero_mem_utf8EncodeChar_iff, Text.ofChars]

namespace Document

open Utf8 (byteOrderMark encode isEncodable)

/-- The bytes of a text begin with a mark only if the text does. -/
theorem isPrefixOf_encode_iff {t : Text} (ht : isEncodable t = true) :
    byteOrderMark.isPrefixOf (encode t) = true ↔ t.head? = some '\uFEFF' := by
  obtain ⟨cs, rfl⟩ := Utf8.isEncodable_iff.mp ht
  have hmark : byteOrderMark = String.utf8EncodeChar '\uFEFF' := by decide
  rw [List.isPrefixOf_iff_prefix, Utf8.encode_ofChars, hmark]
  cases cs with
  | nil => decide
  | cons c cs =>
    rw [List.flatMap_cons]
    constructor
    · rintro ⟨rest, hrest⟩
      -- The decoder cannot read two different characters there.
      have hread := Utf8.piecesFrom_utf8EncodeChar_append c (cs.flatMap String.utf8EncodeChar)
      rw [← hrest, Utf8.piecesFrom_utf8EncodeChar_append] at hread
      rw [List.cons.injEq, Utf8.Piece.char.injEq] at hread
      rw [← hread.1]
      rfl
    · intro hhead
      cases hhead
      exact ⟨_, rfl⟩

/-- The bytes of a text without the mark are the bytes of the text without it. -/
theorem withoutMark_encode {t : Text} (ht : isEncodable t = true) :
    withoutMark (encode t) = encode t.withoutMark := by
  have hbegins := isPrefixOf_encode_iff ht
  by_cases hmark : t.head? = some '\uFEFF'
  · rw [withoutMark, if_pos (hbegins.mpr hmark), Text.withoutMark, if_pos hmark]
    obtain ⟨rest, rfl⟩ := List.head?_eq_some_iff.mp hmark
    rfl
  · rw [withoutMark, if_neg (hbegins.not.mpr hmark), Text.withoutMark, if_neg hmark]

/-- The document in the bytes of a text is the text without the mark. -/
theorem decode?_encode {t : Text} (ht : isEncodable t = true)
    (hzero : Character.scalar '\x00' ∉ t) :
    decode? (encode t) = some (t.withoutMark, .exact) := by
  have hbytes : (encode t).contains 0 = false := by
    rw [Bool.eq_false_iff, ne_eq, List.contains_iff_mem]
    exact (Utf8.zero_mem_encode_iff ht).not.mpr hzero
  have hdecode : Utf8.decode (encode t.withoutMark) = .ok t.withoutMark :=
    Utf8.decode_eq_ok_iff.mpr ⟨Utf8.isEncodable_withoutMark ht, rfl⟩
  rw [decode?, hbytes, if_neg Bool.false_ne_true, withoutMark_encode ht, Utf8.decode?, hdecode]
  rfl

end Document

end SourceEditor
