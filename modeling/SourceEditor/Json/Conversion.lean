import SourceEditor.Json.Value
import SourceEditor.Numeral.Decimal

/-!
# Values as numbers

The integer or the real number that a JSON value stands for. Truth values count as one and zero,
texts are read as numerals, and a number with a fraction loses it on the way to an integer.
-/

namespace SourceEditor.Json

/-- Why a value stands for no number of the wanted kind. -/
inductive ConversionError
  /-- The text is no numeral, or the number is none. -/
  | notANumber
  /-- The numeral is too long. -/
  | tooLong (digits : Nat)
  /-- The number is infinite, or too large for a real number. -/
  | outOfRange
  /-- The value is of a kind that stands for no number. -/
  | wrongKind
  deriving DecidableEq, Repr

/-- The error of a conversion that reads a numeral. -/
def ConversionError.ofNumeral : Numeral.Error → ConversionError
  | .malformed => .notANumber
  | .tooLong digits => .tooLong digits

/-- The integer that a value stands for. -/
def Value.toInt : Value → Except ConversionError Int
  | .bool b => .ok (if b then 1 else 0)
  | .integer n => .ok n
  | .real (.finite negative mantissa exponent) =>
    .ok (Binary64.truncate negative mantissa exponent)
  | .real (.infinite _) => .error .outOfRange
  | .real .nan => .error .notANumber
  | .string s => (Numeral.readInt s).mapError .ofNumeral
  | .null => .error .wrongKind
  | .array _ => .error .wrongKind
  | .object _ => .error .wrongKind

/-- The real number that a value stands for. -/
def Value.toReal : Value → Except ConversionError Binary64
  | .bool b => .ok (Binary64.ofInt (if b then 1 else 0))
  | .integer n =>
    match Binary64.ofInt n with
    | .infinite _ => .error .outOfRange
    | x => .ok x
  | .real x => .ok x
  | .string s =>
    match Numeral.readReal? s with
    | some x => .ok x
    | none => .error .notANumber
  | .null => .error .wrongKind
  | .array _ => .error .wrongKind
  | .object _ => .error .wrongKind

end SourceEditor.Json
