import SourceEditor.Proofs.Editor.Selection
import SourceEditor.Proofs.Window.Changes

/-!
# Edits of the document

What an edit leaves in the editor. Only a text that has a form in UTF-8 can be put into it; any
other one is refused, and then the document stays.

* `Window.buffer_setBuffer`: the editor has the buffer that it was given.
* `Window.exists_replaceDocument`: a text that can be encoded takes the place of the document.
* `Window.exists_replaceDocument_eq_error`: one that cannot does not.
-/

namespace SourceEditor

/-- A surface has the buffer that it was given. -/
@[simp]
theorem Surface.buffer_setBuffer (s : Surface) (b : Buffer) : (s.setBuffer b).buffer = b := by
  by_cases h : b.text = s.text <;> simp [setBuffer, h, restyle]

namespace Window

variable (w : Window)

/-- So has the editor of a window. -/
@[simp]
theorem buffer_setBuffer (b : Buffer) : (w.setBuffer b).surface.buffer = b := by
  obtain ⟨_, _, hset⟩ := w.exists_setBuffer_eq b
  rw [hset]
  exact w.surface.buffer_setBuffer b

/-- The text is that of the buffer. -/
theorem text_setBuffer (b : Buffer) : (w.setBuffer b).text = b.text :=
  congrArg Buffer.text (w.buffer_setBuffer b)

/-- The query stays. -/
theorem find_setBuffer (b : Buffer) : (w.setBuffer b).find = w.find := by
  obtain ⟨_, _, hset⟩ := w.exists_setBuffer_eq b
  rw [hset]

/-- The files stay. -/
theorem files_setBuffer (b : Buffer) : (w.setBuffer b).files = w.files := by
  obtain ⟨_, _, hset⟩ := w.exists_setBuffer_eq b
  rw [hset]

/-- The user is told of nothing. -/
theorem notices_setBuffer (b : Buffer) : (w.setBuffer b).notices = w.notices := by
  obtain ⟨_, _, hset⟩ := w.exists_setBuffer_eq b
  rw [hset]

/-- A text that has a form in UTF-8 takes the place of the document. -/
theorem exists_replaceDocument {t : Text} (ht : Utf8.isEncodable t = true) :
    ∃ b : Buffer, b.text = t ∧
      w.replaceDocument t = ((w.setBuffer w.surface.buffer.selectAll).setBuffer b, none) := by
  obtain ⟨b, hb, htext⟩ := w.surface.buffer.selectAll.exists_replaceSelection ht
  refine ⟨b, ?_, ?_⟩
  · -- Everything is selected, so that nothing of the old text is left on either side.
    rw [htext, Buffer.selection_selectAll]
    show w.text.take 0 ++ t ++ w.text.drop w.text.length = t
    rw [List.take_zero, List.drop_length, List.nil_append, List.append_nil]
  · rw [replaceDocument, buffer_setBuffer, hb, edit]

/-- A text that has none is refused, and all that happens is that the document gets selected. -/
theorem exists_replaceDocument_eq_error {t : Text} (ht : Utf8.isEncodable t = false) :
    ∃ e, w.replaceDocument t = (w.setBuffer w.surface.buffer.selectAll, some (.text e)) := by
  obtain ⟨e, he⟩ := w.surface.buffer.selectAll.exists_replaceSelection_eq_error ht
  refine ⟨e, ?_⟩
  rw [replaceDocument, buffer_setBuffer, he, edit]

end Window

end SourceEditor
