import SourceEditor.Numeral.Binary64
import SourceEditor.Json.Reader

/-!
# Colours

Colours are texts, which the editor passes on as they are. Only where their parts are needed are
they read as `#rrggbb`.
-/

namespace SourceEditor

/-- The parts of a colour. -/
structure Rgb where
  /-- The red part. -/
  red : Nat
  /-- The green part. -/
  green : Nat
  /-- The blue part. -/
  blue : Nat
  deriving DecidableEq, Repr

namespace Rgb

/-- The value of two hexadecimal digits. -/
def pairValue (a b : Character) : Nat :=
  (Json.hexValue? a).getD 0 * 16 + (Json.hexValue? b).getD 0

/-- The parts of a colour written as `#rrggbb`; any other text is black. -/
def ofText : Text → Rgb
  | ['#', a, b, c, d, e, f] => ⟨pairValue a b, pairValue c d, pairValue e f⟩
  | _ => ⟨0, 0, 0⟩

/-- The brightness of a colour, by the weights of the three parts for the eye. -/
def brightness (c : Rgb) : Binary64 :=
  let part (value weight : Nat) : Binary64 :=
    Binary64.mulNonneg (Binary64.ofInt value) (Binary64.ofDecimal false weight (-4))
  Binary64.addNonneg (Binary64.addNonneg (part c.red 2126) (part c.green 7152)) (part c.blue 722)

/-- Whether a colour is dark: less than half as bright as white. -/
def isDark (c : Rgb) : Bool :=
  Binary64.ltNonneg c.brightness (Binary64.ofInt 128)

end Rgb

end SourceEditor
