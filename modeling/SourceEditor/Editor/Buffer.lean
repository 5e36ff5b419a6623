import SourceEditor.Order.UpperBound
import SourceEditor.Text.Utf8

/-!
# Buffers

The text of an editor with its selection. The text is kept in UTF-8, so it never holds a lone
surrogate. The selection is kept in bytes of that form, as an anchor and a caret; everything outside
counts characters.

* `Buffer.selection` is the selection in characters. A byte inside a character counts as the end of
  that character.
* `Buffer.selectChars?` selects by characters.
* `Buffer.replaceSelection` puts a text in the place of the selection, unless the text cannot be
  encoded.
-/

namespace SourceEditor

/-- The text of an editor and its selection. -/
structure Buffer where
  /-- The text. -/
  text : Text := []
  /-- The end of the selection that stays, in bytes. -/
  anchor : Nat := 0
  /-- The end of the selection that moves, in bytes. -/
  caret : Nat := 0
  /-- The text has a form in UTF-8. -/
  isEncodable_text : Utf8.isEncodable text = true := by rfl
  deriving DecidableEq, Repr

namespace Buffer

/-- The number of bytes of a text. -/
def sizeOf (t : Text) : Nat :=
  (t.map fun c => Utf8.width c.toNat).foldr (· + ·) 0

/-- The number of bytes of the text. -/
def size (b : Buffer) : Nat :=
  sizeOf b.text

/-- The first character boundary at or after a byte, in characters. Beyond the text it is one more
than the last boundary. -/
def boundaryAt (b : Buffer) (byte : Nat) : Nat :=
  Order.lowerBound ((Utf8.offsets b.text).map Int.ofNat).toArray byte

/-- The selection in characters, its lower end first. -/
def selection (b : Buffer) : Nat × Nat :=
  (b.boundaryAt (min b.anchor b.caret), b.boundaryAt (max b.anchor b.caret))

/-- Selects some bytes. -/
def selectBytes (b : Buffer) (anchor caret : Nat) : Buffer :=
  { b with anchor, caret }

/-- The byte of a character boundary. Boundaries beyond the text count as its end, and negative ones
count from behind, the end of the text being the first of those; there are only so many. -/
def byteOf? (b : Buffer) (boundary : Int) : Option Nat :=
  let offsets := Utf8.offsets b.text
  let i := min boundary b.text.length
  let i := if i < 0 then i + offsets.length else i
  if i < 0 then none else offsets[i.toNat]?

/-- Selects by characters. There is no such selection if a negative end is out of range. -/
def selectChars? (b : Buffer) (anchor caret : Int) : Option Buffer := do
  let anchor ← b.byteOf? anchor
  let caret ← b.byteOf? caret
  return b.selectBytes anchor caret

/-- Selects characters by two boundaries, which are moved into the text. -/
def selectRange (b : Buffer) (start stop : Nat) : Buffer :=
  (b.selectChars? start stop).getD b

/-- Selects the whole text. -/
def selectAll (b : Buffer) : Buffer :=
  b.selectBytes 0 b.size

/-- A text with nothing selected at its beginning, or why it cannot be encoded. -/
def ofText (t : Text) : Except Utf8.Refusal Buffer :=
  match h : Utf8.refusal? t with
  | none => .ok ⟨t, 0, 0, Utf8.isEncodable_of_refusal?_eq_none h⟩
  | some e => .error e

/-- Puts a text in the place of the selection and moves both ends behind it, or says why the text
cannot be encoded. -/
def replaceSelection (b : Buffer) (t : Text) : Except Utf8.Refusal Buffer :=
  match h : Utf8.refusal? t with
  | none =>
    let (low, high) := b.selection
    let before := b.text.take low
    let place := sizeOf (before ++ t)
    .ok ⟨before ++ t ++ b.text.drop high, place, place, by
      have ht := Utf8.isEncodable_of_refusal?_eq_none h
      simp only [Utf8.isEncodable_append, ht, Utf8.isEncodable_take b.isEncodable_text low,
        Utf8.isEncodable_drop b.isEncodable_text high, before, Bool.and_self]⟩
  | some e => .error e

end Buffer

end SourceEditor
