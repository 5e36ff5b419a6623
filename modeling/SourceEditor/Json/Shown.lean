import SourceEditor.Json.Value
import SourceEditor.Numeral.Decimal
import SourceEditor.Text.Quoted

/-!
# Values as shown text

The text that stands for a JSON value where a text is wanted: a text stands for itself, every other
value is spelled out, with quotes around the texts inside it.
-/

namespace SourceEditor.Json

mutual

/-- A value spelled out, a text with its quotes. -/
def Value.spelled : Value → Text
  | .null => "None"
  | .bool b => if b then "True" else "False"
  | .integer n => Numeral.ofInt n
  | .real x => Numeral.writeReal Numeral.standard x
  | .string s => Text.quoted s
  | .array items => ("[" : Text) ++ spelledItems items ++ "]"
  | .object entries => ("\x7b" : Text) ++ spelledEntries entries ++ "\x7d"

/-- The items of an array, spelled out with a comma and a space between them. -/
def spelledItems : List Value → Text
  | [] => []
  | [v] => v.spelled
  | v :: vs => v.spelled ++ ", " ++ spelledItems vs

/-- The entries of an object, spelled out with a comma and a space between them. -/
def spelledEntries : List (Text × Value) → Text
  | [] => []
  | [(k, v)] => Text.quoted k ++ ": " ++ v.spelled
  | (k, v) :: es => Text.quoted k ++ ": " ++ v.spelled ++ ", " ++ spelledEntries es

end

/-- The text that stands for a value. -/
def Value.shown : Value → Text
  | .string s => s
  | v => v.spelled

/-- Whether a value counts as present: all do but `null`, false, zero, and the empty text, array and
object. -/
def Value.isPresent : Value → Bool
  | .null => false
  | .bool b => b
  | .integer n => n != 0
  | .real x => x.isNonzero
  | .string s => !s.isEmpty
  | .array items => !items.isEmpty
  | .object entries => !entries.isEmpty

/-- The text that stands for a value that is present, or else the given text. -/
def Value.shownOr (otherwise : Text) (v : Value) : Text :=
  if v.isPresent then v.shown else otherwise

end SourceEditor.Json
