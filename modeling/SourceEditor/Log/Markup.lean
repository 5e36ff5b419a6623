import SourceEditor.Numeral.Integer

/-!
# Markup

The markup in which the compile log and the status chip are shown. Nothing that the compiler writes
becomes markup: `escaped` takes every character out of a line that could.
-/

namespace SourceEditor.Markup

/-- A character as markup that shows it. -/
def escapedChar (c : Character) : Text :=
  if c = '&' then "&amp;"
  else if c = '<' then "&lt;"
  else if c = '>' then "&gt;"
  else if c = '"' then "&quot;"
  else if c = '\'' then "&#x27;"
  else [c]

/-- A text as markup that shows it. -/
def escaped (t : Text) : Text :=
  t.flatMap escapedChar

/-- Whether a line of the log is shown as an error: it speaks of one, in upper or lower case. -/
def isErrorLine (line : Text) : Bool :=
  Text.occursIn "error" (Text.lowered line)

/-- The tag before a line of the log. -/
def openingTag (line errorColour : Text) : Text :=
  if isErrorLine line then ("<pre class='logline' style='color: " : Text) ++ errorColour ++ ";'>"
  else "<pre class='logline'>"

/-- A line of the log. -/
def logLine (line errorColour : Text) : Text :=
  openingTag line errorColour ++ escaped line ++ "</pre>"

/-- The style sheet of the log for a font. -/
def logStyle (family : Text) (points : Int) : Text :=
  ("pre \x7b margin: 0; white-space: pre-wrap; \x7dpre, code, tt \x7b font-family: '" : Text)
    ++ Text.replaceChar '\'' ("\\'" : Text) family ++ "'; font-size: " ++ Numeral.ofInt points
    ++ "pt; \x7d"

/-- The style sheet of the line below the log; an empty line has none. -/
def resultStyle (text colour : Text) : Text :=
  if text.isEmpty then [] else ("QLabel \x7b color: " : Text) ++ colour ++ "; \x7d"

end SourceEditor.Markup
