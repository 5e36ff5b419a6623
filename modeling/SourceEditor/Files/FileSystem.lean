import SourceEditor.Files.Path
import SourceEditor.Text.EncodingMessage

/-!
# File systems

Directories and files with their bytes, by their places below the root. A path is followed name by
name from the root or from the working directory, so that two dots lead back to the directory that
was entered.

* `FileSystem.read`, `FileSystem.write`, `FileSystem.contains` and `FileSystem.isDirectory` are all
  that the editor does with files.
* `FileSystem.Barrier`: why a file that is there can be neither read nor written.
-/

namespace SourceEditor

/-- Why a file cannot be opened, neither for reading nor for writing. -/
inductive FileSystem.Barrier
  /-- The user is not permitted to open it. -/
  | denied
  /-- The device that it is on fails. -/
  | device
  deriving DecidableEq, Repr

/-- What stands at a place. -/
inductive FileSystem.Node
  /-- A directory. -/
  | directory
  /-- A file with its bytes. -/
  | file (content : Bytes)
  /-- A file that cannot be opened. -/
  | closed (barrier : FileSystem.Barrier)
  deriving DecidableEq, Repr

/-- Directories and files. -/
structure FileSystem where
  /-- The names that lead from the root to the working directory. -/
  workingDirectory : List FileName
  /-- What stands at each place below the root, each place once. -/
  entries : List (List FileName × FileSystem.Node)
  deriving DecidableEq, Repr

/-- Why a file could not be read or written. -/
inductive FileError
  /-- There is no such file. -/
  | missing
  /-- A directory on the way is a file. -/
  | notDirectory
  /-- The file is a directory. -/
  | isDirectory
  /-- The path, or a name on the way, has too many bytes. -/
  | nameTooLong
  /-- The user is not permitted to open the file. -/
  | denied
  /-- The device failed. -/
  | device
  /-- The path holds a character that no path can hold. -/
  | zeroByte
  /-- The path cannot be encoded. -/
  | unencodable (e : Utf8.Refusal)
  deriving DecidableEq, Repr

/-- Whether a path is none that a file can have, because of a character in it. -/
def FileError.isMalformedPath : FileError → Bool
  | .zeroByte => true
  | .unencodable _ => true
  | _ => false

/-- What is said of a path that could not be read or written. -/
def FileError.message (e : FileError) (p : Path) : Text :=
  match e with
  | .missing => ("[Errno 2] No such file or directory: " : Text) ++ Text.quoted p.text
  | .notDirectory => ("[Errno 20] Not a directory: " : Text) ++ Text.quoted p.text
  | .isDirectory => ("[Errno 21] Is a directory: " : Text) ++ Text.quoted p.text
  | .nameTooLong => ("[Errno 36] File name too long: " : Text) ++ Text.quoted p.text
  | .denied => ("[Errno 13] Permission denied: " : Text) ++ Text.quoted p.text
  | .device => ("[Errno 5] Input/output error: " : Text) ++ Text.quoted p.text
  | .zeroByte => "embedded null byte"
  | .unencodable e => e.message

namespace FileSystem

/-- The most bytes that a name may have. -/
def nameLimit : Nat := 255

/-- The most bytes that a path may have. -/
def pathLimit : Nat := 4095

/-- The names of the parts of a path. -/
def names (p : Path) : List FileName :=
  p.parts.map FileName.ofText

/-- An empty working directory, in a file system that holds nothing else but the directories above
it and the home directory of the one account that every machine has. -/
def empty : FileSystem where
  workingDirectory := [.ofText "tmp", .ofText "work"]
  entries := [([.ofText "tmp"], .directory), ([.ofText "tmp", .ofText "work"], .directory),
    ([.ofText "root"], .directory)]

/-- What stands at a place. -/
def node? (fs : FileSystem) (place : List FileName) : Option Node :=
  if place.isEmpty then some .directory
  else (fs.entries.find? fun entry => entry.1 == place).map Prod.snd

/-- Follows names from a place. Every name but the last has to lead to something, and names are only
looked up in directories. -/
def follow (fs : FileSystem) (place : List FileName) :
    List FileName → Except FileError (List FileName)
  | [] => .ok place
  | name :: rest =>
    match fs.node? place with
    | none => .error .missing
    | some (.file _) | some (.closed _) => .error .notDirectory
    | some .directory =>
      if name = .up then follow fs place.dropLast rest
      else if nameLimit < name.length then .error .nameTooLong
      else follow fs (place ++ [name]) rest

/-- The place of a path. -/
def place (fs : FileSystem) (p : Path) : Except FileError (List FileName) :=
  match FileName.refusal? p.text with
  | some e => .error (.unencodable e)
  | none =>
    let bytes := FileName.ofText p.text
    if bytes.contains 0 then .error .zeroByte
    else if pathLimit < bytes.length then .error .nameTooLong
    else fs.follow (if p.root = .relative then fs.workingDirectory else []) (names p)

/-- What stands at a path, if anything does. A path that no file can have leads nowhere, but a name
that is too long is an error. -/
def find? (fs : FileSystem) (p : Path) : Except FileError (Option Node) :=
  match fs.place p with
  | .ok place => .ok (fs.node? place)
  | .error .nameTooLong => .error .nameTooLong
  | .error _ => .ok none

/-- Whether there is a file or directory at a path. -/
def contains (fs : FileSystem) (p : Path) : Except FileError Bool :=
  (fs.find? p).map Option.isSome

/-- Whether there is a directory at a path. -/
def isDirectory (fs : FileSystem) (p : Path) : Except FileError Bool :=
  (fs.find? p).map (· == some .directory)

/-- What comes of opening a file that cannot be opened. -/
def Barrier.error : Barrier → FileError
  | .denied => .denied
  | .device => .device

/-- The bytes of the file at a path. -/
def read (fs : FileSystem) (p : Path) : Except FileError Bytes := do
  match fs.node? (← fs.place p) with
  | none => .error .missing
  | some .directory => .error .isDirectory
  | some (.closed barrier) => .error barrier.error
  | some (.file content) => .ok content

/-- Puts something at a place. -/
def put (fs : FileSystem) (place : List FileName) (node : Node) : FileSystem :=
  { fs with entries := (place, node) :: fs.entries.filter fun entry => entry.1 != place }

/-- Puts something at a place, with directories above it wherever there is nothing yet. -/
def plant (fs : FileSystem) (place : List FileName) (node : Node) : FileSystem :=
  let above := (List.range place.length).map place.take
  let fs := above.foldl (fun fs p => if (fs.node? p).isSome then fs else fs.put p .directory) fs
  fs.put place node

/-- Writes bytes to the file at a path, which may be new; the directory above it may not. -/
def write (fs : FileSystem) (p : Path) (content : Bytes) : Except FileError FileSystem := do
  let place ← fs.place p
  match fs.node? place with
  | some .directory => .error .isDirectory
  | some (.closed barrier) => .error barrier.error
  | _ => .ok (fs.put place (.file content))

end FileSystem

end SourceEditor
