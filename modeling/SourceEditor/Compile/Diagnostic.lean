import SourceEditor.Numeral.Integer
import SourceEditor.Character.Blank

/-!
# Compiler diagnostics

A diagnostic names a place as `:line:column:` with blanks and `error:` after it. The line of a
diagnostic is the first number at the leftmost such place; the path before it stands in the first
line of the text.
-/

namespace SourceEditor.Diagnostic

/-- The decimals at the beginning of a text and what follows the colon after them. -/
def field? (t : Text) : Option (Text × Text) :=
  let digits := t.takeWhile Character.isDecimal
  match t.dropWhile Character.isDecimal with
  | ':' :: rest => if digits.isEmpty then none else some (digits, rest)
  | _ => none

/-- Whether at least one blank and then `error:` begin a text. -/
def isError : Text → Bool
  | [] => false
  | c :: rest =>
    Character.isBlank c &&
      ("error:" : Text).isPrefixOf (rest.dropWhile Character.isBlank)

/-- The digits of the line number if a place of an error begins here. -/
def lineDigitsHere? : Text → Option Text
  | ':' :: rest => do
    let (line, rest) ← field? rest
    let (_, rest) ← field? rest
    if isError rest then some line else none
  | _ => none

/-- The digits of the line number at the leftmost place of an error. -/
def lineDigits? : Text → Option Text
  | [] => none
  | c :: rest =>
    (lineDigitsHere? (c :: rest)).or (if c = '\n' then none else lineDigits? rest)

/-- A line number has more digits than a number may have. -/
structure TooLong where
  /-- The number of its digits. -/
  digits : Nat
  deriving DecidableEq, Repr

/-- What is said of a line number that is too long. -/
def TooLong.message (e : TooLong) : Text :=
  Numeral.tooLongMessage e.digits

/-- The source line of a diagnostic; a text that is none has no line. -/
def line? (t : Text) : Except TooLong (Option Nat) :=
  match lineDigits? t with
  | none => .ok none
  | some digits =>
    if digits.length ≤ Numeral.digitLimit then
      .ok (some (Numeral.valueOf (digits.filterMap Character.decimalValue?)))
    else .error ⟨digits.length⟩

end SourceEditor.Diagnostic
