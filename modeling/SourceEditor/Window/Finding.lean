import SourceEditor.Window.State

/-!
# Finding and replacing

The buttons of the find bar. They work on the text and the selection of the editor, in characters.
-/

namespace SourceEditor.Window

/-- Selects the next match behind the selection, going round the text. -/
def findNext (w : Window) : Window :=
  match w.find.pattern? with
  | none => w
  | some p =>
    match p.findNext w.text w.surface.buffer.selection.2 with
    | none => w.say "No matches"
    | some (start, stop) => w.setBuffer (w.surface.buffer.selectRange start stop)

/-- Replaces the selection if it is a match, and selects the replacement. -/
def replaceOne (w : Window) : Result :=
  let (low, high) := w.surface.buffer.selection
  match w.find.pattern?.bind fun p => p.replaceSelection w.text low high w.replacement with
  | none => (w, none)
  | some (_, start, _) =>
    (w.edit (w.surface.buffer.replaceSelection w.replacement)).andThen fun w =>
      (w.setBuffer (w.surface.buffer.selectRange start (start + w.replacement.length)), none)

/-- Replaces every match, and says how many there were. -/
def replaceEvery (w : Window) : Result :=
  let (t, count) := match w.find.pattern? with
    | some p => p.replaceAll w.text w.replacement
    | none => (w.text, 0)
  let replaced : Result := if count = 0 then (w, none)
    else (w.replaceDocument t).andThen fun w =>
      (w.setBuffer (w.surface.buffer.selectRange 0 0), none)
  replaced.andThen fun w =>
    (w.say (("Replaced " : Text) ++ Numeral.ofNat count ++ " occurrence(s)"), none)

/-- Selects characters. -/
def select (w : Window) (anchor caret : Int) : Result :=
  match w.surface.buffer.selectChars? anchor caret with
  | some b => (w.setBuffer b, none)
  | none => (w, some .outOfRange)

end SourceEditor.Window
