import SourceEditor.Numeral.Integer
import SourceEditor.Text.Quoted
import SourceEditor.Text.Utf8

/-!
# Messages about UTF-8

What is said of bytes that are no UTF-8, and of texts that have no form in UTF-8. Both messages name
the first place that is wrong: positions count bytes in the one and characters in the other.
-/

namespace SourceEditor.Utf8

/-- Why some bytes are no UTF-8. -/
def Reason.message : Reason → Text
  | .strayByte => "invalid start byte"
  | .brokenCharacter => "invalid continuation byte"
  | .endOfInput => "unexpected end of data"

/-- The positions of a piece that is longer than one. -/
def positions (first length : Nat) : Text :=
  Numeral.ofNat first ++ "-" ++ Numeral.ofNat (first + length - 1)

/-- What is said of bytes that are no UTF-8: where they are, and the byte itself if it is one. -/
def Error.message (e : Error) : Text :=
  let place : Text :=
    match e.piece with
    | [b] =>
      ("byte 0x" : Text) ++ Text.hexDigits 2 b.toNat ++ " in position " ++ Numeral.ofNat e.position
    | piece => ("bytes in position " : Text) ++ positions e.position piece.length
  ("'utf-8' codec can't decode " : Text) ++ place ++ ": " ++ e.reason.message

/-- What is said of a text that cannot be encoded: where the surrogates are, and the surrogate
itself if it is one. -/
def Refusal.message (r : Refusal) : Text :=
  let place : Text :=
    match r.surrogates with
    | [c] =>
      ("character '" : Text) ++ Text.codePointEscape c.toNat ++ "' in position "
        ++ Numeral.ofNat r.position
    | surrogates => ("characters in position " : Text) ++ positions r.position surrogates.length
  ("'utf-8' codec can't encode " : Text) ++ place ++ ": surrogates not allowed"

end SourceEditor.Utf8
