import SourceEditor.Proofs.Document.Decoding

/-!
# Byte order marks before documents

A byte order mark before a document is left out only where the rest is well-formed UTF-8. Where a
single byte of the rest is not, the document is read with replacements, and the mark is read as the
first character of it.

* `Document.decode?_of_isWellFormed`, `Document.decode?_of_not_isWellFormed`: the document in any
  bytes without a zero byte.
* `Document.decode?_mark_append`: what a mark makes of the document behind it.
-/

namespace SourceEditor.Document

open Utf8 (byteOrderMark encode isEncodable decodeLossy IsWellFormed)

variable {bytes : Bytes}

theorem withoutMark_append (bytes : Bytes) : withoutMark (byteOrderMark ++ bytes) = bytes := by
  rw [withoutMark, if_pos (List.isPrefixOf_iff_prefix.mpr (List.prefix_append _ _)),
    List.drop_left]

theorem withoutMark_of_not_isPrefix (h : ¬ byteOrderMark <+: bytes) : withoutMark bytes = bytes :=
  if_neg (List.isPrefixOf_iff_prefix.not.mpr h)

/-- A reader with replacements shows the mark as the character that it encodes. -/
theorem decodeLossy_mark_append (bytes : Bytes) :
    decodeLossy (byteOrderMark ++ bytes) = ('\uFEFF' :: decodeLossy bytes : Text) := by
  have hmark : byteOrderMark = String.utf8EncodeChar '\uFEFF' := by decide
  rw [decodeLossy, Utf8.pieces, hmark, Utf8.piecesFrom_utf8EncodeChar_append]
  rfl

theorem decode?_of_isWellFormed (hzero : 0 ∉ bytes) (h : IsWellFormed (withoutMark bytes)) :
    ∃ t, isEncodable t = true ∧ encode t = withoutMark bytes ∧
      decode? bytes = some (t, .exact) := by
  obtain ⟨t, ht, hbytes⟩ := Utf8.isWellFormed_iff.mp h
  refine ⟨t, ht, hbytes, ?_⟩
  have hdecode := Utf8.decode_eq_ok_iff.mpr ⟨ht, hbytes⟩
  rw [decode?, if_neg (by simpa using hzero), Utf8.decode?, hdecode]
  rfl

theorem decode?_of_not_isWellFormed (hzero : 0 ∉ bytes) (h : ¬ IsWellFormed (withoutMark bytes)) :
    decode? bytes = some (decodeLossy bytes, .replaced) := by
  rw [decode?, if_neg (by simpa using hzero), Utf8.decode?]
  cases hdecode : Utf8.decode (withoutMark bytes) with
  | ok t => exact absurd (Utf8.isWellFormed_iff.mpr ⟨t, Utf8.decode_eq_ok_iff.mp hdecode⟩) h
  | error e => rfl

/-- A mark before bytes that do not begin with one themselves. If the bytes are well-formed, the
document is the text that they encode, with the mark or without it. If they are not, the document
with the mark begins with the character of the mark, which the document without it does not have. -/
theorem decode?_mark_append (hzero : 0 ∉ bytes) (hmark : ¬ byteOrderMark <+: bytes) :
    (IsWellFormed bytes → ∃ t, isEncodable t = true ∧ encode t = bytes ∧
      decode? bytes = some (t, .exact) ∧ decode? (byteOrderMark ++ bytes) = some (t, .exact)) ∧
    (¬ IsWellFormed bytes → ∃ t, decode? bytes = some (t, .replaced) ∧
      decode? (byteOrderMark ++ bytes) = some (('\uFEFF' :: t : Text), .replaced)) := by
  have hzero' : 0 ∉ byteOrderMark ++ bytes := by
    rw [List.mem_append]
    rintro (h | h)
    · exact absurd h (by decide)
    · exact hzero h
  have hsame := withoutMark_of_not_isPrefix hmark
  have hsame' := withoutMark_append bytes
  refine ⟨fun h => ?_, fun h => ⟨decodeLossy bytes, ?_, ?_⟩⟩
  · obtain ⟨t, ht, hbytes, hdecode⟩ := decode?_of_isWellFormed hzero (hsame.symm ▸ h)
    obtain ⟨t', ht', hbytes', hdecode'⟩ := decode?_of_isWellFormed hzero' (hsame'.symm ▸ h)
    rw [hsame] at hbytes
    rw [hsame'] at hbytes'
    -- Only one text has these bytes.
    obtain rfl : t = t' := Except.ok.inj ((Utf8.decode_eq_ok_iff.mpr ⟨ht, hbytes⟩).symm.trans
      (Utf8.decode_eq_ok_iff.mpr ⟨ht', hbytes'⟩))
    exact ⟨t, ht, hbytes, hdecode, hdecode'⟩
  · exact decode?_of_not_isWellFormed hzero (hsame.symm ▸ h)
  · rw [decode?_of_not_isWellFormed hzero' (hsame'.symm ▸ h), decodeLossy_mark_append]

/-- A mark before a byte that begins no character is shown before the replacement for the byte, and
a mark before a letter is not shown. -/
theorem decode?_mark_append_stray :
    (∃ t, decode? [0xFF] = some (t, .replaced) ∧
      decode? (byteOrderMark ++ [0xFF]) = some (('\uFEFF' :: t : Text), .replaced)) ∧
    ∃ t, encode t = [0x61] ∧ decode? [0x61] = some (t, .exact) ∧
      decode? (byteOrderMark ++ [0x61]) = some (t, .exact) := by
  have hstray : ¬ IsWellFormed [0xFF] := fun h => by
    obtain ⟨t, ht⟩ := Utf8.isWellFormed_iff.mp h
    have hdecode : Utf8.decode [0xFF] = .error ⟨0, [0xFF], .strayByte⟩ := by decide
    rw [Utf8.decode_eq_ok_iff.mpr ht] at hdecode
    cases hdecode
  have hzero : 0 ∉ ([0x61] : Bytes) := by decide
  obtain ⟨t, -, hletter⟩ := (decode?_mark_append hzero (by decide)).1 ⟨['a'], by decide⟩
  exact ⟨(decode?_mark_append (by decide) (by decide)).2 hstray, t, hletter⟩

end SourceEditor.Document
