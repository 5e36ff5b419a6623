import SourceEditor.Numeral.Integer

/-!
# Binary floating-point numbers

The numbers of the 64-bit binary format as exact values, and the rounding that makes one of a
fraction. Nothing here depends on the machine's own floating point, so every result can be computed
in a proof.

* `ofFraction` rounds to the nearest number, a tie to the one whose last bit is zero.
* `ofDecimal` reads decimal notation and `shortest` finds the fewest digits that read back.
-/

namespace SourceEditor

/-- A number of the 64-bit binary format. -/
inductive Binary64
  /-- No number. -/
  | nan
  /-- An infinity. -/
  | infinite (negative : Bool)
  /-- The number `mantissa * 2 ^ exponent`, with its sign. Zero has a sign too. -/
  | finite (negative : Bool) (mantissa : Nat) (exponent : Int)
  deriving DecidableEq, Repr

namespace Binary64

/-- The least exponent, that of the numbers nearest to zero. -/
def leastExponent : Int := -1074

/-- The greatest exponent of a finite number. -/
def greatestExponent : Int := 971

/-- A quotient rounded to the nearest natural number, a tie to the even one. -/
def roundQuotient (numerator denominator : Nat) : Nat :=
  let q := numerator / denominator
  let twice := 2 * (numerator % denominator)
  if twice < denominator then q
  else if denominator < twice then q + 1
  else if q % 2 = 0 then q else q + 1

/-- The fraction `numerator / denominator / 2 ^ exponent` as a fraction of natural numbers. -/
def scaled (numerator denominator : Nat) (exponent : Int) : Nat × Nat :=
  if 0 ≤ exponent then (numerator, denominator * Nat.pow 2 exponent.toNat)
  else (numerator * Nat.pow 2 (-exponent).toNat, denominator)

/-- The exponent `e` with `2 ^ e ≤ numerator / denominator < 2 ^ (e + 1)`. -/
def floorLog2 (numerator denominator : Nat) : Int :=
  let e : Int := (numerator.log2 : Int) - denominator.log2
  let (n, d) := scaled numerator denominator e
  if n < d then e - 1 else e

/-- The number nearest to a fraction. -/
def ofFraction (negative : Bool) (numerator denominator : Nat) : Binary64 :=
  if numerator = 0 then .finite negative 0 leastExponent
  else
    let exponent := max (floorLog2 numerator denominator - 52) leastExponent
    let (n, d) := scaled numerator denominator exponent
    let mantissa := roundQuotient n d
    let (mantissa, exponent) :=
      if mantissa = Nat.pow 2 53 then (Nat.pow 2 52, exponent + 1) else (mantissa, exponent)
    if greatestExponent < exponent then .infinite negative else .finite negative mantissa exponent

/-- The number nearest to an integer. -/
def ofInt (n : Int) : Binary64 :=
  ofFraction (n < 0) n.natAbs 1

/-- The number nearest to `digits * 10 ^ exponent`. Exponents far outside the format are decided by
the number of digits alone. -/
def ofDecimal (negative : Bool) (digits : Nat) (exponent : Int) : Binary64 :=
  let places : Int := exponent + (Nat.toDigits 10 digits).length
  if digits = 0 then .finite negative 0 leastExponent
  else if 310 < places then .infinite negative
  else if places < -330 then .finite negative 0 leastExponent
  else if 0 ≤ exponent then ofFraction negative (digits * Nat.pow 10 exponent.toNat) 1
  else ofFraction negative digits (Nat.pow 10 (-exponent).toNat)

/-- The absolute value of a finite number as a fraction. -/
def fraction (mantissa : Nat) (exponent : Int) : Nat × Nat :=
  if 0 ≤ exponent then (mantissa * Nat.pow 2 exponent.toNat, 1)
  else (mantissa, Nat.pow 2 (-exponent).toNat)

/-- The integer part of a finite number, toward zero. -/
def truncate (negative : Bool) (mantissa : Nat) (exponent : Int) : Int :=
  let (n, d) := fraction mantissa exponent
  let q : Int := (n / d : Nat)
  if negative then -q else q

/-- Whether a number is different from zero. -/
def isNonzero : Binary64 → Bool
  | .finite _ mantissa _ => mantissa != 0
  | _ => true

/-- The product of two numbers that are not negative; the result is rounded. -/
def mulNonneg : Binary64 → Binary64 → Binary64
  | .finite _ m e, .finite _ m' e' =>
    let (n, d) := fraction m e
    let (n', d') := fraction m' e'
    ofFraction false (n * n') (d * d')
  | _, _ => .nan

/-- The sum of two numbers that are not negative; the result is rounded. -/
def addNonneg : Binary64 → Binary64 → Binary64
  | .finite _ m e, .finite _ m' e' =>
    let (n, d) := fraction m e
    let (n', d') := fraction m' e'
    ofFraction false (n * d' + n' * d) (d * d')
  | _, _ => .nan

/-- Whether one number that is not negative is less than another. -/
def ltNonneg : Binary64 → Binary64 → Bool
  | .finite _ m e, .finite _ m' e' =>
    let (n, d) := fraction m e
    let (n', d') := fraction m' e'
    n * d' < n' * d
  | _, _ => false

/-- A decimal with `count` digits near `numerator / denominator`: its digits and its exponent of
ten. The two candidates are the neighbours of the value on that grid, the nearer one first. -/
def candidates (numerator denominator : Nat) (leading : Int) (count : Nat) : List (Nat × Int) :=
  let exponent : Int := leading + 1 - count
  let (n, d) :=
    if 0 ≤ exponent then (numerator, denominator * Nat.pow 10 exponent.toNat)
    else (numerator * Nat.pow 10 (-exponent).toNat, denominator)
  let below := n / d
  let nearest := roundQuotient n d
  let other := if nearest = below then below + 1 else below
  [(nearest, exponent), (other, exponent)]

/-- The exponent `e` with `10 ^ e ≤ numerator / denominator < 10 ^ (e + 1)`, searched downward from
a bound above it. -/
def floorLog10From (numerator denominator : Nat) (bound : Int) : Nat → Int
  | 0 => bound
  | fuel + 1 =>
    let reached :=
      if 0 ≤ bound then denominator * Nat.pow 10 bound.toNat ≤ numerator
      else denominator ≤ numerator * Nat.pow 10 (-bound).toNat
    if reached then bound else floorLog10From numerator denominator (bound - 1) fuel

/-- The exponent of the leading decimal digit of a fraction. -/
def floorLog10 (numerator denominator : Nat) : Int :=
  let digits : Int := (Nat.toDigits 10 numerator).length - (Nat.toDigits 10 denominator).length
  floorLog10From numerator denominator digits 2

/-- The fewest decimal digits that read back as a finite number, with their exponent of ten: the
first count of digits for which a neighbour of the value on that grid reads back. -/
def shortest (mantissa : Nat) (exponent : Int) : Nat × Int :=
  let (n, d) := fraction mantissa exponent
  let leading := floorLog10 n d
  let readsBack : Nat × Int → Bool := fun (digits, e) =>
    ofDecimal false digits e == .finite false mantissa exponent
  ((List.range 17).findSome? fun k => (candidates n d leading (k + 1)).find? readsBack).getD
    ((candidates n d leading 17).headD (0, 0))

end Binary64

end SourceEditor
