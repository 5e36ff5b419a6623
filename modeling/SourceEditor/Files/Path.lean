import SourceEditor.Files.FileName

/-!
# Paths

Paths of files in a normal form: parts between slashes, without empty parts and parts that are a
single dot. A part of two dots stays, since what it means depends on the files.
-/

namespace SourceEditor

/-- A text cut at every occurrence of a character; it has one piece more than occurrences. -/
def Text.pieces (separator : Character) : Text → List Text
  | [] => [[]]
  | c :: rest =>
    if c = separator then [] :: pieces separator rest
    else
      match pieces separator rest with
      | [] => [[c]]
      | piece :: more => (c :: piece) :: more

/-- Texts with a character between them. -/
def Text.joined (separator : Character) : List Text → Text
  | [] => []
  | [t] => t
  | t :: rest => t ++ separator :: joined separator rest

/-- Where a path begins. -/
inductive Path.Root
  /-- At the working directory. -/
  | relative
  /-- At the root. -/
  | single
  /-- At the root, written with two slashes, which are kept. -/
  | double
  deriving DecidableEq, Repr

/-- A path in normal form. -/
structure Path where
  /-- Where it begins. -/
  root : Path.Root
  /-- The names on the way. -/
  parts : List Text
  deriving DecidableEq, Repr

namespace Path

/-- The root of a text, told by the slashes at its beginning. -/
def rootOf (t : Text) : Root :=
  match (t.takeWhile fun (c : Character) => c == '/').length with
  | 0 => .relative
  | 2 => .double
  | _ => .single

/-- Whether a piece between slashes counts as a part. -/
def isPart (piece : Text) : Bool :=
  !piece.isEmpty && piece != "."

/-- The path that a text names. -/
def ofText (t : Text) : Path :=
  ⟨rootOf t, (Text.pieces '/' t).filter isPart⟩

/-- How the beginning of a path is written. -/
def Root.text : Root → Text
  | .relative => []
  | .single => "/"
  | .double => "//"

/-- The text of a path; the working directory itself is a dot. -/
def text (p : Path) : Text :=
  let t := p.root.text ++ Text.joined '/' p.parts
  if t.isEmpty then "." else t

/-- The last part of a path; a path without parts has no name. -/
def name (p : Path) : Text :=
  p.parts.getLastD []

/-- The path without its last part. -/
def parent (p : Path) : Path :=
  { p with parts := p.parts.dropLast }

/-- A path with a name added at its end. -/
def child (p : Path) (name : Text) : Path :=
  { p with parts := p.parts ++ (ofText name).parts }

/-- Why the home directory of an account could not be found. -/
inductive HomeError
  /-- There is no such account. -/
  | unknown
  /-- The name of the account holds a zero byte. -/
  | zeroByte
  /-- The name of the account cannot be encoded. -/
  | unencodable (e : Utf8.Refusal)
  deriving DecidableEq, Repr

end Path

/-- The accounts of a machine, with the texts of their home directories, which are told from the
root. -/
structure Accounts where
  /-- The home directory of the user. -/
  user : Text := "/root"
  /-- The names of accounts and their home directories. -/
  homes : List (Text × Text) := [("root", "/root")]
  /-- Every home directory is told from the root. -/
  absolute : (user :: homes.map Prod.snd).all (fun home => home.head? == some '/') = true := by
    decide
  deriving DecidableEq, Repr

namespace Path

/-- The home directory of an account; the account without a name is that of the user. -/
def homeOf (accounts : Accounts) (account : Text) : Except HomeError Path :=
  if account.isEmpty then .ok (ofText accounts.user)
  else
    match FileName.refusal? account with
    | some e => .error (.unencodable e)
    | none =>
      if account.contains '\x00' then .error .zeroByte
      else
        match accounts.homes.find? fun entry => entry.1 == account with
        | some (_, home) => .ok (ofText home)
        | none => .error .unknown

/-- The path with the home directory in place of a tilde at its beginning, which the name of an
account may follow. -/
def expandHome (accounts : Accounts) (p : Path) : Except HomeError Path :=
  match p.root, p.parts with
  | .relative, ('~' :: account) :: rest =>
    (homeOf accounts account).map fun h => { h with parts := h.parts ++ rest }
  | _, _ => .ok p

end Path

end SourceEditor
