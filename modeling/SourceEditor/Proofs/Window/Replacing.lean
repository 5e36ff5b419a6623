import SourceEditor.Proofs.Search.Selection
import SourceEditor.Proofs.Window.Editing
import SourceEditor.Proofs.Window.Opened
import Mathlib.Order.MinMax

/-!
# Replacing the selection

The editor keeps its selection in bytes, and a replacement may take more or fewer of them than what
it replaces. Counted in characters, the button "replace" comes to what replacing a selection of the
text comes to, with the replacement selected behind it.

* `Buffer.Selects`: a selection whose ends lie between characters.
* `Pattern.replaceSelection_min_max`: the direction of a selection makes no difference.
* `Window.replacedSelection`: what the find bar makes of a selection of the text.
* `Window.replaceOne_replacedSelection`: the button beside that.
-/

namespace SourceEditor

/-- The ends of the selection lie before these characters of the text, or behind its last one. -/
structure Buffer.Selects (b : Buffer) (anchor caret : Nat) : Prop where
  anchor_le : anchor ≤ b.text.length
  caret_le : caret ≤ b.text.length
  anchor_eq : b.anchor = Utf8.byteOffset b.text anchor
  caret_eq : b.caret = Utf8.byteOffset b.text caret

/-- A selection between characters is found again in characters, its lower end first. -/
theorem Buffer.Selects.selection_eq {b : Buffer} {i j : Nat} (h : b.Selects i j) :
    b.selection = (min i j, max i j) := by
  have hmono := Utf8.byteOffset_mono b.text
  rw [selection, h.anchor_eq, h.caret_eq, ← hmono.map_min, ← hmono.map_max,
    b.boundaryAt_byteOffset (Nat.le_trans (Nat.min_le_left i j) h.anchor_le),
    b.boundaryAt_byteOffset (Nat.max_le.mpr ⟨h.anchor_le, h.caret_le⟩)]

/-- Replacing a selection does not ask which of its ends comes first. -/
theorem Pattern.replaceSelection_min_max (p : Pattern) (t r : Text) (i j : Nat) :
    p.replaceSelection t (min i j : Nat) (max i j : Nat) r = p.replaceSelection t i j r := by
  have hlow : min ((min i j : Nat) : Int) (max i j : Nat) = min (i : Int) j := by omega
  have hhigh : max ((min i j : Nat) : Int) (max i j : Nat) = max (i : Int) j := by omega
  rw [replaceSelection, replaceSelection, hlow, hhigh]

namespace Window

variable {w : Window} {t : Text} {i j low high : Nat}

/-- What the find bar makes of a selection of the text, given by two offsets in either order: the
new text and the selection of the replacement. -/
def replacedSelection (w : Window) (i j : Nat) : Option (Text × Nat × Nat) :=
  w.find.pattern?.bind fun p => p.replaceSelection w.text i j w.replacement

/-- The replacement stands between what was before the selection and what was behind it. -/
theorem eq_of_replacedSelection (h : w.replacedSelection i j = some (t, low, high)) :
    t = w.text.take (min i j) ++ w.replacement ++ w.text.drop (max i j) ∧ low = min i j ∧
      high = min i j + w.replacement.length := by
  obtain ⟨p, -, hp⟩ := Option.bind_eq_some_iff.mp h
  obtain ⟨a, b, ha, hb, -, heq⟩ := Pattern.replaceSelection_eq_some_iff.mp hp
  obtain rfl : a = min i j := by omega
  obtain rfl : b = max i j := by omega
  obtain ⟨rfl, rfl, rfl⟩ : t = _ ∧ low = _ ∧ high = _ := by simpa only [Prod.mk.injEq] using heq
  exact ⟨rfl, rfl, rfl⟩

/-- Another buffer leaves the replacement in the find bar. -/
theorem replacement_setBuffer (w : Window) (b : Buffer) :
    (w.setBuffer b).replacement = w.replacement := by
  obtain ⟨_, _, hset⟩ := w.exists_setBuffer_eq b
  rw [hset]

/-- A selection that is not a match is left alone. -/
theorem replaceOne_of_none (h : w.surface.buffer.Selects i j)
    (hnone : w.replacedSelection i j = none) : w.replaceOne = (w, none) := by
  unfold replacedSelection at hnone
  unfold replaceOne
  simp only [h.selection_eq, Pattern.replaceSelection_min_max, hnone]

/-- The replacement is put into the editor first and selected then. -/
theorem replaceOne_of_some (h : w.surface.buffer.Selects i j)
    (hsome : w.replacedSelection i j = some (t, low, high)) :
    w.replaceOne = (w.edit (w.surface.buffer.replaceSelection w.replacement)).andThen fun w' =>
      (w'.setBuffer (w'.surface.buffer.selectRange low (low + w'.replacement.length)), none) := by
  unfold replacedSelection at hsome
  unfold replaceOne
  simp only [h.selection_eq, Pattern.replaceSelection_min_max, hsome]

/-- A replacement that the editor can hold gets into it, and is selected from end to end. -/
theorem replaceOne_of_isEncodable (h : w.surface.buffer.Selects i j)
    (hsome : w.replacedSelection i j = some (t, low, high))
    (hheld : Utf8.isEncodable w.replacement = true) :
    w.replaceOne.2 = none ∧ w.replaceOne.1.text = t ∧
      w.replaceOne.1.surface.buffer.selection = (low, high) := by
  obtain ⟨b, hb, htext⟩ := w.surface.buffer.exists_replaceSelection hheld
  obtain ⟨rfl, rfl, rfl⟩ := eq_of_replacedSelection hsome
  rw [h.selection_eq] at htext
  have hlength : min i j + w.replacement.length ≤ b.text.length := by
    have hanchor := h.anchor_le
    have hlow : (w.surface.buffer.text.take (min i j)).length = min i j := by
      rw [List.length_take]
      omega
    rw [htext, List.length_append, List.length_append, hlow]
    exact Nat.le_add_right _ _
  rw [replaceOne_of_some h hsome, hb]
  refine ⟨rfl, ?_, ?_⟩
  · show Window.text (setBuffer _ _) = _
    rw [text_setBuffer, Buffer.text_selectRange, buffer_setBuffer, htext]
    rfl
  · show (setBuffer _ _).surface.buffer.selection = _
    rw [buffer_setBuffer, buffer_setBuffer, replacement_setBuffer,
      Buffer.selection_selectRange _ (Nat.le_add_right _ _), Nat.min_eq_left hlength,
      Nat.min_eq_left (Nat.le_trans (Nat.le_add_right _ _) hlength)]

/-- A replacement that the editor cannot hold changes nothing. -/
theorem exists_replaceOne_eq_error (h : w.surface.buffer.Selects i j)
    (hsome : w.replacedSelection i j = some (t, low, high))
    (hrefused : Utf8.isEncodable w.replacement = false) :
    ∃ e, w.replaceOne = (w, some (.text e)) := by
  obtain ⟨e, he⟩ := w.surface.buffer.exists_replaceSelection_eq_error hrefused
  rw [replaceOne_of_some h hsome, he]
  exact ⟨e, rfl⟩

/-- The button "replace" comes to what the find bar makes of the selection of the text. If that is
nothing, the editor keeps its text and its selection; and otherwise it has the new text, with the
replacement selected. Only a replacement with a lone surrogate, which the editor cannot hold, is
refused, and then the editor stays as it is. -/
theorem replaceOne_replacedSelection (h : w.surface.buffer.Selects i j) :
    (w.replacedSelection i j = none →
      (w.step .replaceOne).2 = none ∧ (w.step .replaceOne).1.surface.buffer = w.surface.buffer) ∧
    ∀ t low high, w.replacedSelection i j = some (t, low, high) →
      (Utf8.isEncodable w.replacement = true → (w.step .replaceOne).2 = none ∧
        (w.step .replaceOne).1.text = t ∧
        (w.step .replaceOne).1.surface.buffer.selection = (low, high)) ∧
      (Utf8.isEncodable w.replacement = false →
        (∃ e, (w.step .replaceOne).2 = some (.text e)) ∧
        (w.step .replaceOne).1.surface.buffer = w.surface.buffer) := by
  -- What the window told before has no part in the replacement.
  let quiet : Window := { w with notices := [] }
  refine ⟨fun hnone => ?_, fun t low high hsome => ⟨fun hheld => ?_, fun hrefused => ?_⟩⟩
  · have hstep : w.step .replaceOne = (quiet, none) := replaceOne_of_none (w := quiet) h hnone
    rw [hstep]
    exact ⟨rfl, rfl⟩
  · exact replaceOne_of_isEncodable (w := quiet) h hsome hheld
  · obtain ⟨e, he⟩ := exists_replaceOne_eq_error (w := quiet) h hsome hrefused
    have hstep : w.step .replaceOne = (quiet, some (.text e)) := he
    rw [hstep]
    exact ⟨⟨e, rfl⟩, rfl⟩

/-- A selection made backwards, from a character of four bytes to one of two, and a replacement that
takes one byte for each of its characters. -/
theorem replaceOne_replacedSelection_backwards :
    ∃ w, launch {} = .ok w ∧
      let w' := w.run [.setText "a𝄞éz", .setFind { text := "𝄞É" }, .setReplacement "if (x)",
        .select 3 1]
      w'.surface.buffer.Selects 3 1 ∧
        w'.replacedSelection 3 1 = some (("aif (x)z" : Text), 1, 7) ∧
        (w'.step .replaceOne).1.text = ("aif (x)z" : Text) ∧
        (w'.step .replaceOne).1.surface.buffer.selection = (1, 7) := by
  obtain ⟨w, hw, hanchor, hcaret, htext, hsome, hheld⟩ := exists_launch_eq (d := {})
    (P := fun w =>
      let w' := w.run [.setText "a𝄞éz", .setFind { text := "𝄞É" }, .setReplacement "if (x)",
        .select 3 1]
      w'.surface.buffer.anchor = Utf8.byteOffset w'.surface.buffer.text 3 ∧
        w'.surface.buffer.caret = Utf8.byteOffset w'.surface.buffer.text 1 ∧
        w'.surface.buffer.text.length = 4 ∧
        w'.replacedSelection 3 1 = some (("aif (x)z" : Text), 1, 7) ∧
        Utf8.isEncodable w'.replacement = true) (by decide +kernel)
  have hselects : (w.run [.setText "a𝄞éz", .setFind { text := "𝄞É" }, .setReplacement "if (x)",
      .select 3 1]).surface.buffer.Selects 3 1 :=
    ⟨by rw [htext]; decide, by rw [htext]; decide, hanchor, hcaret⟩
  exact ⟨w, hw, hselects, hsome,
    (((replaceOne_replacedSelection hselects).2 _ _ _ hsome).1 hheld).2⟩

/-- A lone surrogate takes the place of a selection in a text, but the button does not put it there,
since the editor holds no lone surrogates. -/
theorem replaceOne_lone_surrogate :
    ∃ w, launch {} = .ok w ∧
      let w' := w.run [.setText "a", .setFind { text := "a" }, .setReplacement [.surrogate 0],
        .select 0 1]
      (w'.surface.buffer.anchor = Utf8.byteOffset w'.text 0 ∧
        w'.surface.buffer.caret = Utf8.byteOffset w'.text 1) ∧
        w'.replacedSelection 0 1 = some ([.surrogate 0], 0, 1) ∧
        (w'.step .replaceOne).1.text = ("a" : Text) :=
  exists_launch_eq (by decide +kernel)

end Window

end SourceEditor
