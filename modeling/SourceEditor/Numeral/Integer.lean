import SourceEditor.Text.Basic
import SourceEditor.Character.Numeric

/-!
# Integers in decimal notation

Writing integers, and reading them back with the decimals of any script. A numeral has at most
`digitLimit` digits, which bounds the work that a hostile input can ask for.
-/

namespace SourceEditor.Numeral

/-- A natural number in decimal notation. -/
def ofNat (n : Nat) : Text :=
  .ofChars (Nat.toDigits 10 n)

/-- An integer in decimal notation. -/
def ofInt : Int → Text
  | .ofNat n => ofNat n
  | .negSucc n => '-' :: ofNat (n + 1)

/-- The most digits that a numeral may have. -/
def digitLimit : Nat := 4300

/-- Why a text is read as no integer. -/
inductive Error
  /-- The text is no numeral. -/
  | malformed
  /-- The numeral has this many digits, which are too many. -/
  | tooLong (digits : Nat)
  deriving DecidableEq, Repr

/-- What is said of a numeral that is too long. -/
def tooLongMessage (digits : Nat) : Text :=
  ("Exceeds the limit (4300 digits) for integer string conversion: value has " : Text)
    ++ ofNat digits ++ " digits; use sys.set_int_max_str_digits() to increase the limit"

/-- The value of a list of place values, the most significant first. -/
def valueOf (digits : List Nat) : Nat :=
  digits.foldl (fun n d => 10 * n + d) 0

/-- The value of a list of place values that is not too long. -/
def ofPlaceValues (digits : List Nat) : Except Error Nat :=
  if digits.length ≤ digitLimit then .ok (valueOf digits) else .error (.tooLong digits.length)

/-- The place values of a numeral after a digit: single underscores may stand between digits. -/
def moreDigits? : Text → Option (List Nat)
  | [] => some []
  | '_' :: c :: rest => do
    let d ← Character.decimalValue? c
    return d :: (← moreDigits? rest)
  | c :: rest => do
    let d ← Character.decimalValue? c
    return d :: (← moreDigits? rest)

/-- The place values of a numeral without a sign. -/
def digits? : Text → Option (List Nat)
  | [] => none
  | c :: rest => do
    let d ← Character.decimalValue? c
    return d :: (← moreDigits? rest)

/-- The blanks that may surround a numeral: all but the information separators. -/
def isMargin (c : Character) : Bool :=
  Character.isBlank c && !Character.isInformationSeparator c

/-- Reads a natural number from a text that is nothing but its digits. -/
def readNat (t : Text) : Except Error Nat :=
  match digits? t with
  | some ds => ofPlaceValues ds
  | none => .error .malformed

/-- Reads an integer: blanks, at most one sign, digits of any script with single underscores between
them, blanks. -/
def readInt (t : Text) : Except Error Int :=
  match Text.trimWhile isMargin t with
  | '-' :: rest => (readNat rest).map fun n => -(n : Int)
  | '+' :: rest => (readNat rest).map Int.ofNat
  | rest => (readNat rest).map Int.ofNat

end SourceEditor.Numeral
