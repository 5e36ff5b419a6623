import SourceEditor.Style.Category
import SourceEditor.Json.Value

/-!
# Palettes

The colours of the editor under a theme: those of its parts, and one for each category of text.
`Palette.parse` reads them from a JSON object, where every colour that is missing takes its default.
-/

namespace SourceEditor

/-- What a palette has a colour for. -/
inductive ColourKey
  /-- The background of the editor. -/
  | background
  /-- Plain text. -/
  | foreground
  /-- The background of the margin. -/
  | marginBackground
  /-- The line numbers in the margin. -/
  | marginForeground
  /-- The caret. -/
  | caret
  /-- The line of the caret. -/
  | caretLine
  /-- The background of the selection. -/
  | selectionBackground
  /-- Selected text. -/
  | selectionForeground
  /-- Errors in the compile log. -/
  | logError
  /-- Keywords. -/
  | keyword
  /-- Names of types. -/
  | type
  /-- Numbers. -/
  | number
  /-- Strings. -/
  | string
  /-- Comments. -/
  | comment
  /-- Search matches. -/
  | searchMatch
  /-- Lines with errors. -/
  | errorLine
  deriving DecidableEq, Repr

namespace ColourKey

/-- Every key, in the order in which a palette is read. -/
def all : List ColourKey :=
  [.background, .foreground, .marginBackground, .marginForeground, .caret, .caretLine,
    .selectionBackground, .selectionForeground, .logError, .keyword, .type, .number, .string,
    .comment, .searchMatch, .errorLine]

/-- The name of a key in a theme file. -/
def name : ColourKey → Text
  | .background => "bg"
  | .foreground => "fg"
  | .marginBackground => "margin_bg"
  | .marginForeground => "margin_fg"
  | .caret => "caret_fg"
  | .caretLine => "caret_line"
  | .selectionBackground => "selection_bg"
  | .selectionForeground => "selection_fg"
  | .logError => "log_error"
  | .keyword => "kw"
  | .type => "ty"
  | .number => "num"
  | .string => "str"
  | .comment => "com"
  | .searchMatch => "search_bg"
  | .errorLine => "error_bg"

/-- The key of the colour of a category. -/
def ofCategory : Category → ColourKey
  | .plain => .foreground
  | .keyword => .keyword
  | .type => .type
  | .string => .string
  | .comment => .comment
  | .number => .number
  | .searchMatch => .searchMatch
  | .errorLine => .errorLine

end ColourKey

/-- The two palettes of a theme. -/
inductive PaletteKey
  /-- The one for a dark window. -/
  | dark
  /-- The one for a light window. -/
  | light
  deriving DecidableEq, Repr

namespace PaletteKey

/-- The name of a palette in a theme file. -/
def name : PaletteKey → Text
  | .dark => "dark"
  | .light => "light"

/-- The palette of a name. -/
def ofName? (n : Text) : Option PaletteKey :=
  if n = "dark" then some .dark else if n = "light" then some .light else none

end PaletteKey

/-- The colours of a palette. -/
structure Palette where
  /-- The colour of each key. -/
  colour : ColourKey → Text

namespace Palette

/-- The colour of a category of text. -/
def categoryColour (p : Palette) (c : Category) : Text :=
  p.colour (.ofCategory c)

/-- The default colours for a dark window. -/
def dark : Palette where
  colour
    | .background => "#1e1e1e"
    | .foreground => "#d4d4d4"
    | .marginBackground => "#252526"
    | .marginForeground => "#9aa0a6"
    | .caret => "#d4d4d4"
    | .caretLine => "#2a2d2e"
    | .selectionBackground => "#264f78"
    | .selectionForeground => "#ffffff"
    | .logError => "#f48771"
    | .keyword => "#569cd6"
    | .type => "#4ec9b0"
    | .number => "#b5cea8"
    | .string => "#d69d85"
    | .comment => "#6a9955"
    | .searchMatch => "#b8a000"
    | .errorLine => "#5a1d1d"

/-- The default colours for a light window. -/
def light : Palette where
  colour
    | .background => "#ffffff"
    | .foreground => "#1e1e1e"
    | .marginBackground => "#f3f3f3"
    | .marginForeground => "#666666"
    | .caret => "#1e1e1e"
    | .caretLine => "#f5f5f5"
    | .selectionBackground => "#add6ff"
    | .selectionForeground => "#000000"
    | .logError => "#c62828"
    | .keyword => "#0000ff"
    | .type => "#267f99"
    | .number => "#098658"
    | .string => "#a31515"
    | .comment => "#008000"
    | .searchMatch => "#ffff00"
    | .errorLine => "#ffe5e5"

/-- The default colours of a palette. -/
def standard : PaletteKey → Palette
  | .dark => dark
  | .light => light

/-- The colour of a key is given by something else than a text. -/
structure NotColour where
  /-- The palette. -/
  palette : PaletteKey
  /-- The key. -/
  key : ColourKey
  deriving DecidableEq, Repr

/-- What is said of a colour that is no text. -/
def NotColour.message (e : NotColour) : Text :=
  ("theme '" : Text) ++ e.palette.name ++ "." ++ e.key.name ++ "' must be a colour string"

/-- Whether the entries give a key a colour or leave it out. -/
def isGiven (entries : Json.Entries) (key : ColourKey) : Bool :=
  match Json.Entries.get? key.name entries with
  | none => true
  | some (.string _) => true
  | some _ => false

/-- The palette of some entries; the first key with something else than a text is an error. -/
def parse (palette : PaletteKey) (entries : Json.Entries) : Except NotColour Palette :=
  match ColourKey.all.find? fun key => !isGiven entries key with
  | some key => .error ⟨palette, key⟩
  | none => .ok ⟨fun key =>
      match Json.Entries.get? key.name entries with
      | some (.string s) => s
      | _ => (standard palette).colour key⟩

/-- The keys in the order in which a theme file is written. -/
def writtenOrder : List ColourKey :=
  [.background, .foreground, .marginBackground, .marginForeground, .caret, .caretLine,
    .selectionBackground, .selectionForeground, .keyword, .type, .number, .string, .comment,
    .searchMatch, .errorLine, .logError]

/-- A palette as the object of a theme file. -/
def toValue (p : Palette) : Json.Value :=
  .object (writtenOrder.map fun key => (key.name, .string (p.colour key)))

end Palette

end SourceEditor
