import SourceEditor.Files.TextFile
import SourceEditor.Json.Writer
import SourceEditor.Json.Reader
import SourceEditor.Theme.Palette

/-!
# Theme files

Files with two palettes. A theme file that does not exist is written with the default colours before
it is read; one that exists is never changed.
-/

namespace SourceEditor

/-- The two palettes of a theme. -/
structure Theme where
  /-- The colours for a dark window. -/
  dark : Palette
  /-- The colours for a light window. -/
  light : Palette

/-- One palette of a theme. -/
def Theme.palette (t : Theme) : PaletteKey → Palette
  | .dark => t.dark
  | .light => t.light

namespace ThemeFile

/-- Why a theme could not be loaded. -/
inductive Error
  /-- The file cannot be read as JSON, for a cause. -/
  | unreadable (path : Path) (cause : Text)
  /-- The document is no object. -/
  | notObject (path : Path)
  /-- A palette is missing, or it is no object. -/
  | noPalette (path : Path) (key : PaletteKey)
  /-- A colour is no text. -/
  | notColour (e : Palette.NotColour)
  /-- The document is too deep to be read. -/
  | tooDeep (e : Json.TooDeep)
  deriving DecidableEq, Repr

/-- What is said of a theme that could not be loaded. -/
def Error.message : Error → Text
  | .unreadable path cause =>
    ("cannot load theme file " : Text) ++ path.text ++ ": " ++ cause
  | .notObject path => path.text ++ " must hold a JSON object"
  | .noPalette path key => path.text ++ " must contain a '" ++ key.name ++ "' object"
  | .notColour e => e.message
  | .tooDeep e => e.message

/-- The document of a theme file with the default colours. -/
def standardDocument : Text :=
  Json.write .block (.object
    [(PaletteKey.dark.name, Palette.dark.toValue), (PaletteKey.light.name, Palette.light.toValue)])

/-- Writes the default colours to a theme file that does not exist. -/
def ensure (fs : FileSystem) (path : Path) : Except FileError FileSystem := do
  if ← fs.contains path then return fs else TextFile.write fs path standardDocument

/-- One palette of the document of a theme file. -/
def paletteOf (path : Path) (entries : Json.Entries) (key : PaletteKey) : Except Error Palette :=
  match Json.Entries.get? key.name entries with
  | some (.object colours) => (Palette.parse key colours).mapError .notColour
  | _ => .error (.noPalette path key)

/-- The theme of a document. -/
def parse (path : Path) : Json.Value → Except Error Theme
  | .object entries => do
    let dark ← paletteOf path entries .dark
    let light ← paletteOf path entries .light
    return ⟨dark, light⟩
  | _ => .error (.notObject path)

/-- The theme in a file that exists. -/
def read (fs : FileSystem) (path : Path) : Except Error Theme :=
  match TextFile.read fs path with
  | .error e => .error (.unreadable path (e.message path))
  | .ok document =>
    match Json.read Json.nestingLimit document with
    | .ok value => parse path value
    | .error e =>
      match e.fault with
      | .tooDeep e => .error (.tooDeep e)
      | _ => .error (.unreadable path (e.message document))

/-- Loads a theme, writing the file first if it does not exist. -/
def load (fs : FileSystem) (path : Path) : Except Error Theme × FileSystem :=
  match ensure fs path with
  | .error e => (.error (.unreadable path (e.message path)), fs)
  | .ok fs => (read fs path, fs)

end ThemeFile

end SourceEditor
