import SourceEditor.Numeral.Binary64

/-!
# JSON values

Values of a JSON document. Numbers without a fraction or a power of ten are exact integers and all
others binary floating-point numbers, so that `1` and `1.0` are different values. An object keeps
its entries in the order in which their keys first came.
-/

namespace SourceEditor.Json

/-- A JSON value. -/
inductive Value
  /-- The value `null`. -/
  | null
  /-- A truth value. -/
  | bool (b : Bool)
  /-- A number without fraction and power of ten. -/
  | integer (n : Int)
  /-- Any other number, infinities and no number included. -/
  | real (x : Binary64)
  /-- A text. -/
  | string (s : Text)
  /-- A list of values. -/
  | array (items : List Value)
  /-- Named values, each name once. -/
  | object (entries : List (Text × Value))
  deriving Inhabited

/-- The entries of an object. -/
abbrev Entries := List (Text × Value)

namespace Entries

/-- The value under a key. -/
def get? (key : Text) : Entries → Option Value
  | [] => none
  | (k, v) :: rest => if k = key then some v else get? key rest

/-- The entries with one value changed in place, or added at the end if its key is new. -/
def insert (key : Text) (value : Value) : Entries → Entries
  | [] => [(key, value)]
  | (k, v) :: rest => if k = key then (key, value) :: rest else (k, v) :: insert key value rest

/-- The entries without those of a key. -/
def erase (key : Text) (entries : Entries) : Entries :=
  entries.filter fun entry => entry.1 != key

/-- The keys in their order. -/
def keys (entries : Entries) : List Text :=
  entries.map Prod.fst

end Entries

/-- The value under a key of an object; `null` if the key is missing or the value no object. -/
def Value.field (v : Value) (key : Text) : Value :=
  match v with
  | .object entries => (Entries.get? key entries).getD .null
  | _ => .null

end SourceEditor.Json
