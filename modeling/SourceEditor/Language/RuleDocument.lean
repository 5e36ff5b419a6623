import SourceEditor.Files.TextFile
import SourceEditor.Json.Reader
import SourceEditor.Language.Spec

/-!
# Rule documents

Rule sets as JSON documents, and the files that hold them. A document of another shape is refused by
`RuleDocument.parse`, and a file that cannot be read or is refused leaves a language without rules.
-/

namespace SourceEditor

/-- Why a document is no rule set. -/
inductive RuleDocument.Error
  /-- The document is no object. -/
  | notObject
  /-- What it says of comments is no object. -/
  | commentsNotObject
  /-- The value of this name is no text. -/
  | notText (name : Text)
  /-- The value of this name is no list of texts. -/
  | notWords (name : Text)
  deriving DecidableEq, Repr

namespace RuleDocument

/-- What is said of a document that is no rule set. -/
def Error.message : Error → Text
  | .notObject => "rule document must be a JSON object"
  | .commentsNotObject => "'comments' must be an object"
  | .notText name => ("'" : Text) ++ name ++ "' must be a string"
  | .notWords name => ("'" : Text) ++ name ++ "' must be an array of strings"

/-- The mark under a key; an empty one counts as missing. `place` is where the key stands. -/
def mark (entries : Json.Entries) (place key : Text) : Except Error (Option Text) :=
  match Json.Entries.get? key entries with
  | none => .ok none
  | some .null => .ok none
  | some (.string s) => .ok (if s.isEmpty then none else some s)
  | some _ => .error (.notText (place ++ key))

/-- The texts among some values, if all of them are texts. -/
def textsOf? : List Json.Value → Option (List Text)
  | [] => some []
  | .string s :: rest => (textsOf? rest).map (s :: ·)
  | _ :: _ => none

/-- The words under a key; empty ones are left out. -/
def words (entries : Json.Entries) (key : Text) : Except Error (List Text) :=
  match Json.Entries.get? key entries with
  | none => .ok []
  | some .null => .ok []
  | some (.array items) =>
    match textsOf? items with
    | some texts => .ok (texts.filter fun t => !t.isEmpty)
    | none => .error (.notWords key)
  | some _ => .error (.notWords key)

/-- The marks of comments: the one of line comments and the two of block comments. -/
structure CommentMarks where
  /-- The mark of line comments. -/
  line : Option Text := none
  /-- The mark at the beginning of block comments. -/
  blockStart : Option Text := none
  /-- The mark at the end of block comments. -/
  blockEnd : Option Text := none
  deriving DecidableEq, Repr

/-- What a document says of comments. -/
def commentMarks (entries : Json.Entries) : Except Error CommentMarks :=
  match Json.Entries.get? "comments" entries with
  | none => .ok {}
  | some .null => .ok {}
  | some (.object comments) => do
    let line ← mark comments "comments." "line"
    let blockStart ← mark comments "comments." "blockStart"
    let blockEnd ← mark comments "comments." "blockEnd"
    return ⟨line, blockStart, blockEnd⟩
  | some _ => .error .commentsNotObject

/-- The marks of block comments, if both are given. -/
def CommentMarks.block (m : CommentMarks) : Option (Text × Text) :=
  match m.blockStart, m.blockEnd with
  | some a, some b => some (a, b)
  | _, _ => none

/-- The rule set of a document. -/
def parse (document : Json.Value) : Except Error RuleSet :=
  match document with
  | .object entries => do
    let comments ← commentMarks entries
    let keywords ← words entries "keywords"
    let types ← words entries "types"
    let quote ← mark entries [] "strings"
    return RuleSet.ofWords keywords types comments.line comments.block quote
  | _ => .error .notObject

end RuleDocument

/-- What a rule document holds beyond what can be read. -/
inductive RuleDocument.Excess
  /-- A number has this many digits, which are too many. -/
  | longNumber (digits : Nat)
  /-- A container stands inside too many others. -/
  | tooDeep (e : Json.TooDeep)
  deriving DecidableEq, Repr

/-- Why loading a rule document breaks off. -/
inductive RuleDocument.LoadError
  /-- The path is none that a file can have. -/
  | path (e : FileError)
  /-- The document holds more than can be read. -/
  | excess (e : Excess)
  deriving DecidableEq, Repr

namespace RuleDocument

/-- The rules in a text; a text that is no rule document has none. A document with a number that is
too long, or with too many containers inside each other, is an error of its own. -/
def ofText (t : Text) : Except Excess (Option RuleSet) :=
  match Json.read Json.nestingLimit t with
  | .ok document => .ok (parse document).toOption
  | .error e =>
    match e.fault with
    | .longInteger digits => .error (.longNumber digits)
    | .tooDeep e => .error (.tooDeep e)
    | _ => .ok none

/-- The rules in a file. Whatever can happen to a file leaves no rules, but a path that no file can
have breaks the loading off. -/
def loadFile (fs : FileSystem) (p : Path) : Except LoadError (Option RuleSet) :=
  match TextFile.read fs p with
  | .error (.file e) => if e.isMalformedPath then .error (.path e) else .ok none
  | .error (.encoding _) => .ok none
  | .ok t => (ofText t).mapError .excess

/-- What loading comes to where the path is one that files can have, so that only the document is in
question. -/
def ofDocument : Except LoadError (Option RuleSet) → Except Excess (Option RuleSet)
  | .ok rules => .ok rules
  | .error (.excess e) => .error e
  | .error (.path _) => .ok none

/-- The rules in a file at a path that files can have. -/
def load (fs : FileSystem) (p : Path) : Except Excess (Option RuleSet) :=
  ofDocument (loadFile fs p)

end RuleDocument

namespace Language

/-- The rules of a language, its rule document loaded from a directory. -/
def loadRules (l : Language) (fs : FileSystem) (directory : Path) :
    Except RuleDocument.LoadError (Option RuleSet) :=
  match l.rulesFile with
  | none => .ok (some l.rules)
  | some file => RuleDocument.loadFile fs (directory.child file)

/-- The rules of a language, its rule document loaded from a directory that files can be in. -/
def rulesIn (l : Language) (fs : FileSystem) (directory : Path) :
    Except RuleDocument.Excess (Option RuleSet) :=
  RuleDocument.ofDocument (l.loadRules fs directory)

end Language

end SourceEditor
