import SourceEditor.Files.FileSystem

/-!
# Text files

Files of well-formed UTF-8 with one kind of line end: a carriage return, alone or before a line
feed, reads as a line feed.
-/

namespace SourceEditor

/-- A text with a line feed for every line end. -/
def Text.withLineFeeds : Text → Text
  | [] => []
  | '\r' :: '\n' :: rest => '\n' :: withLineFeeds rest
  | c :: rest => (if c = '\r' then '\n' else c) :: withLineFeeds rest

namespace TextFile

/-- Why a text file could not be read. -/
inductive ReadError
  /-- The file could not be read. -/
  | file (e : FileError)
  /-- Its bytes are no text. -/
  | encoding (e : Utf8.Error)
  deriving DecidableEq, Repr

/-- What is said of a text file that could not be read. -/
def ReadError.message (p : Path) : ReadError → Text
  | .file e => e.message p
  | .encoding e => e.message

/-- Reads a text file. -/
def read (fs : FileSystem) (p : Path) : Except ReadError Text :=
  match fs.read p with
  | .error e => .error (.file e)
  | .ok bytes =>
    match Utf8.decode bytes with
    | .error e => .error (.encoding e)
    | .ok t => .ok (Text.withLineFeeds t)

/-- Writes a text file. The text has to be encodable. -/
def write (fs : FileSystem) (p : Path) (t : Text) : Except FileError FileSystem :=
  fs.write p (Utf8.encode t)

end TextFile

end SourceEditor
