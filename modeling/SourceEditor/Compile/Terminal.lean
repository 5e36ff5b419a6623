import SourceEditor.Compile.State
import SourceEditor.Json.Reader

/-!
# Terminal lines

The line by which a compiler reports how a compilation ended: a JSON object with a truth value under
`ok`. Every other line is output to be shown, except that an object too deep to be read is an error.
-/

namespace SourceEditor

/-- The report of a terminal line. -/
structure Terminal where
  /-- Whether the compilation succeeded. -/
  ok : Bool
  /-- All entries of the object. -/
  entries : Json.Entries

namespace Terminal

/-- The report of a document, which is an object with a truth value under `ok`. -/
def ofValue? : Json.Value → Option Terminal
  | .object entries =>
    match Json.Entries.get? "ok" entries with
    | some (.bool ok) => some ⟨ok, entries⟩
    | _ => none
  | _ => none

/-- The report of a line, blanks around it apart; other lines have none. -/
def ofLine (line : Text) : Except Json.TooDeep (Option Terminal) :=
  let t := Text.trim line
  if t.head? = some '{' ∧ t.getLast? = some '}' then
    match Json.read Json.nestingLimit t with
    | .ok value => .ok (ofValue? value)
    | .error e =>
      match e.fault with
      | .tooDeep e => .error e
      | _ => .ok none
  else .ok none

/-- The text under a key of the report. -/
def text? (t : Terminal) (key : Text) : Option Text :=
  match Json.Entries.get? key t.entries with
  | some (.string s) => some s
  | _ => none

/-- The outcome that a report tells: where the product is, unless the place is empty, or the reason
of the failure, unless it is blank. -/
def outcome (t : Terminal) : Outcome :=
  if t.ok then .success ((t.text? "jar").filter fun jar => !jar.isEmpty)
  else .failure (((t.text? "message").bind Reason.ofText?).getD .unexplained)

end Terminal

/-- The outcome of a stream of lines whose last terminal line is given, if it has one. -/
def Outcome.ofTerminal : Option Terminal → Outcome
  | none => .failure .noResult
  | some t => t.outcome

end SourceEditor
