import SourceEditor.Theme.Colour

/-!
# Status chips

A small label with the colour of what it says, on a background of the same colour.
-/

namespace SourceEditor

/-- The style sheet of a status chip of a colour. -/
def chipStyle (colour : Text) : Text :=
  let c := Rgb.ofText colour
  ("QLabel \x7b color: " : Text) ++ colour ++ "; background: rgba(" ++ Numeral.ofNat c.red ++ ", "
    ++ Numeral.ofNat c.green ++ ", " ++ Numeral.ofNat c.blue
    ++ ", 30); border-radius: 6px; padding: 4px 10px; \x7d"

end SourceEditor
