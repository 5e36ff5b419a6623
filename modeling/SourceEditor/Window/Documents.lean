import SourceEditor.Document.Decoding
import SourceEditor.Window.State

/-!
# Opening and saving documents

The document of a window and its file. Whatever goes wrong with a file is shown in a box, and leaves
the document as it was.
-/

namespace SourceEditor

namespace Document

/-- The most bytes that a file may have to be opened. -/
def sizeLimit : Nat := 5000000

/-- What is said of a file that has more bytes. -/
def tooLargeMessage : Text :=
  "File is too large to load into the editor (> 5 MB)."

/-- Reads the document in a file: its text and how it was read, or what is wrong. -/
def read (fs : FileSystem) (path : Path) : Except Text (Text × Encoding) :=
  match fs.read path with
  | .error e => .error (e.message path)
  | .ok bytes =>
    if sizeLimit < bytes.length then .error tooLargeMessage
    else
      match decode? bytes with
      | some result => .ok result
      | none => .error binaryMessage

end Document

namespace Window

/-- Begins a new document. -/
def newDocument (w : Window) : Result :=
  (w.replaceDocument []).andThen fun w => ({ w with path := none, title := "KtEdit" }, none)

/-- The path of the last file opened or saved, if the settings hold one. -/
def lastOpenPath? (w : Window) : Option Text :=
  match w.settings.get .lastOpenPath with
  | .string t => if Text.isBlank t then none else some t
  | _ => none

/-- Where to begin to look for a file: at the last one, or else in its directory, as far as they
still exist. -/
def suggestedPath (w : Window) : Except Failure Text :=
  match w.lastOpenPath? with
  | none => .ok []
  | some t => do
    let p ← ((Path.ofText t).expandHome w.accounts).mapError .home
    if ← (w.files.contains p).mapError .file then return p.text
    else if ← (w.files.isDirectory p.parent).mapError .file then return p.parent.text
    else return []

/-- Takes note of the file of the document. -/
def setPath (w : Window) (path : Path) : Window :=
  let settings := w.settings.set .lastOpenPath (.string path.text)
  titled { w with path := some path, settings } path

/-- Opens the document in a file. -/
def openFile (w : Window) (path : Path) : Result :=
  match Document.read w.files path with
  | .error problem =>
    let message := ("Could not open:\n" : Text) ++ path.text ++ "\n\n" ++ problem
    ((w.tell (.box "Open failed" message)).say "Open failed", none)
  | .ok (t, encoding) =>
    (w.replaceDocument t).andThen fun w =>
      ((w.setPath path).say (("Loaded " : Text) ++ path.name ++ " (" ++ encoding.name ++ ", "
        ++ Numeral.ofNat t.length ++ " chars)"), none)

/-- Asks for a file and opens it. The user chooses the given path; an empty one stands for none. -/
def openDocument (w : Window) (chosen : Text) : Result :=
  match w.suggestedPath with
  | .error e => (w, some e)
  | .ok start =>
    let w := w.tell (.dialog "Open source file" start w.language.fileFilter)
    if chosen.isEmpty then (w, none)
    else
      match (Path.ofText chosen).expandHome w.accounts with
      | .error e => (w, some (.home e))
      | .ok path => w.openFile path

/-- Saves the document to a file. A path that no file can have breaks the action off. -/
def saveFile (w : Window) (path : Path) : Result :=
  match TextFile.write w.files path w.text with
  | .ok files =>
    ((setPath { w with files } path).say (("Saved " : Text) ++ path.name), none)
  | .error e =>
    if e.isMalformedPath then (w, some (.file e))
    else
      let message := ("Could not save:\n" : Text) ++ path.text ++ "\n\n" ++ e.message path
      (w.tell (.box "Save failed" message), none)

/-- Asks for a file and saves the document to it. The user chooses the given path; an empty one
stands for none. -/
def saveDocumentAs (w : Window) (chosen : Text) : Result :=
  let start := (w.path.map Path.text).getD w.language.saveSuggestion
  let w := w.tell (.dialog "Save source file" start w.language.fileFilter)
  if chosen.isEmpty then (w, none)
  else
    match (Path.ofText chosen).expandHome w.accounts with
    | .error e => (w, some (.home e))
    | .ok path => w.saveFile path

/-- Saves the document to its file, asking for one only if it has none. -/
def saveDocument (w : Window) (chosen : Text) : Result :=
  match w.path with
  | some path => w.saveFile path
  | none => w.saveDocumentAs chosen

end Window

end SourceEditor
