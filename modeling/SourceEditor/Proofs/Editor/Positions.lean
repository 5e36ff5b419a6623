import SourceEditor.Proofs.Editor.Selection
import SourceEditor.Proofs.Text.Decoding

/-!
# Positions in characters and in bytes

The editor counts bytes where everything around it counts characters. The table of offsets leads
from the one to the other, and halving it leads back; nothing is lost on the way.

* `Utf8.IsOffsetTable`: what a table holds that leads from characters to bytes.
* `Utf8.isOffsetTable_offsets`: the table of offsets of a text is such a table.
* `Buffer.positions_convert`: the whole way there and back, for every text in every editor.
-/

namespace SourceEditor

namespace Utf8

variable (t : Text)

/-- A table leads from the boundaries between the characters of a text to the bytes of the text. -/
structure IsOffsetTable (t : Text) (table : List Nat) : Prop where
  /-- Every boundary has an entry, also the one behind the last character. -/
  length_eq : table.length = t.length + 1
  /-- Different boundaries have different entries, in their order. -/
  increasing : table.Pairwise (· < ·)
  /-- The entry of a boundary is the number of bytes that the characters before it take. -/
  entry_eq : ∀ i, i ≤ t.length → table[i]? = some (encode (t.take i)).length
  /-- What lies between the entries of two boundaries are the bytes of the characters between
  them. -/
  extract_eq : ∀ i j x y, i ≤ j → table[i]? = some x → table[j]? = some y →
    (encode t).extract x y = encode (t.extract i j)

/-! ## Cutting the bytes of a text -/

theorem encode_cut (i : Nat) : encode t = encode (t.take i) ++ encode (t.drop i) := by
  rw [← encode_append, List.take_append_drop]

theorem take_encode (i : Nat) : (encode t).take (byteOffset t i) = encode (t.take i) := by
  rw [encode_cut t i]
  exact List.take_left' rfl

theorem drop_encode (i : Nat) : (encode t).drop (byteOffset t i) = encode (t.drop i) := by
  rw [encode_cut t i]
  exact List.drop_left' rfl

/-- What stands behind a boundary has no part in its offset. -/
theorem byteOffset_take {i j : Nat} (hij : i ≤ j) : byteOffset (t.take j) i = byteOffset t i := by
  rw [byteOffset, byteOffset, List.take_take, Nat.min_eq_left hij]

/-- The bytes between two boundaries are those of the characters between them. -/
theorem extract_encode {i j : Nat} (hij : i ≤ j) :
    (encode t).extract (byteOffset t i) (byteOffset t j) = encode (t.extract i j) :=
  calc
    (encode t).extract (byteOffset t i) (byteOffset t j)
    _ = ((encode t).take (byteOffset t j)).drop (byteOffset t i) := List.drop_take.symm
    _ = (encode (t.take j)).drop (byteOffset (t.take j) i) := by
      rw [take_encode, byteOffset_take t hij]
    _ = encode ((t.take j).drop i) := drop_encode _ _
    _ = encode (t.extract i j) := congrArg encode List.drop_take

/-! ## The table of offsets -/

/-- The running sums of the sizes of its characters lead into the bytes of a text. -/
theorem isOffsetTable_offsets : IsOffsetTable t (offsets t) where
  length_eq := length_offsets t
  increasing := pairwise_offsets t
  entry_eq i hi := getElem?_offsets_eq_some_iff.mpr ⟨hi, rfl⟩
  extract_eq i j x y hij hx hy := by
    obtain ⟨-, rfl⟩ := getElem?_offsets_eq_some_iff.mp hx
    obtain ⟨-, rfl⟩ := getElem?_offsets_eq_some_iff.mp hy
    exact extract_encode t hij

/-- The bytes of a text of scalar values are those of the string that they make. -/
theorem encode_ofChars_eq_toByteArray (cs : List Char) :
    encode (.ofChars cs) = (String.ofList cs).toByteArray.data.toList := by
  rw [encode_ofChars, String.toByteArray_ofList, List.utf8Encode, List.toList_data_toByteArray]

end Utf8

namespace Buffer

variable (b : Buffer)

theorem selectChars?_natCast (i j : Nat) : b.selectChars? i j = some (b.selectRange i j) := by
  rw [selectRange, selectChars?, byteOf?_natCast, byteOf?_natCast]
  rfl

/-- Every text of scalar values can stand in an editor, and positions in it convert without loss.
Its table of offsets leads from characters to the bytes of its form in UTF-8. In an editor with the
text, whatever is selected there, a selection by characters is the one that is found, as far as the
text reaches, and a byte inside a character leads to the next boundary. -/
theorem positions_convert (cs : List Char) :
    Utf8.encode (.ofChars cs) = (String.ofList cs).toByteArray.data.toList ∧
      Utf8.IsOffsetTable (.ofChars cs) (Utf8.offsets (.ofChars cs)) ∧
      (∃ b, ofText (.ofChars cs) = .ok b ∧ b.text = .ofChars cs) ∧
      ∀ b : Buffer, b.text = .ofChars cs →
        (∀ i j : Nat, i ≤ j → ∃ b', b.selectChars? i j = some b' ∧ b'.text = .ofChars cs ∧
          b'.selection = (min i cs.length, min j cs.length)) ∧
        ∀ i x y byte, (Utf8.offsets b.text)[i]? = some x → (Utf8.offsets b.text)[i + 1]? = some y →
          x < byte → byte < y → b.boundaryAt byte = i + 1 := by
  refine ⟨Utf8.encode_ofChars_eq_toByteArray cs, Utf8.isOffsetTable_offsets _,
    exists_ofText (Utf8.isEncodable_iff.mpr ⟨cs, rfl⟩), fun b hb => ⟨?selected, ?inside⟩⟩
  case selected =>
    have hlength : b.text.length = cs.length := by
      rw [hb]
      exact List.length_map _
    intro i j hij
    refine ⟨b.selectRange i j, b.selectChars?_natCast i j, ?_, ?_⟩
    · rw [text_selectRange, hb]
    · rw [b.selection_selectRange hij, hlength]
  case inside =>
    intro i x y byte hx hy hlow hhigh
    obtain ⟨-, rfl⟩ := Utf8.getElem?_offsets_eq_some_iff.mp hx
    obtain ⟨hi, rfl⟩ := Utf8.getElem?_offsets_eq_some_iff.mp hy
    exact b.boundaryAt_eq_succ hi hlow (Nat.le_of_lt hhigh)

/-- Characters of one byte to four, a selection that reaches beyond them, and a byte inside the last
of them. -/
theorem positions_convert_widths :
    Utf8.offsets "aé✓𝄞" = [0, 1, 3, 6, 10] ∧
      ∃ b, ofText "aé✓𝄞" = .ok b ∧
        (∃ b', b.selectChars? 1 9 = some b' ∧ b'.selection = (1, 4)) ∧ b.boundaryAt 8 = 4 := by
  obtain ⟨-, -, ⟨b, hb, htext⟩, hconvert⟩ := positions_convert "aé✓𝄞".toList
  obtain ⟨hselect, hinside⟩ := hconvert b htext
  obtain ⟨b', hb', -, hselection⟩ := hselect 1 9 (by decide)
  have hbyte : b.boundaryAt 8 = 4 := by
    refine hinside 3 6 10 8 ?_ ?_ (by decide) (by decide) <;> rw [htext] <;> decide
  exact ⟨by decide, b, hb, ⟨b', hb', hselection⟩, hbyte⟩

end Buffer

end SourceEditor
