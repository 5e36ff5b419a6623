import SourceEditor.Numeral.Binary64

/-!
# Real numbers in decimal notation

Writing a binary floating-point number with the fewest digits that read back, and reading one from
decimal notation. `Notation` says where the written form changes from places to powers of ten.
-/

namespace SourceEditor.Numeral

/-- How a number with a fraction is written. -/
structure Notation where
  /-- The least exponent of the leading digit that is written with places. -/
  leastPlace : Int
  /-- The greatest exponent of the leading digit that is written with places. -/
  greatestPlace : Int
  /-- The least number of digits of a written exponent. -/
  exponentDigits : Nat
  /-- What is written for no number. -/
  nan : Text
  /-- What is written for infinity. -/
  infinity : Text

/-- Numbers from 0.0001 up to 10 ^ 16 are written with places, others with a power of ten of at
least two digits. -/
def standard : Notation := ⟨-4, 15, 2, "nan", "inf"⟩

/-- Digits without the zeros at their end, and how many zeros those were. -/
def withoutTrailingZeros (digits : Text) : Text :=
  let kept := Text.trimEndWhile (· == '0') digits
  if kept.isEmpty then digits.take 1 else kept

/-- Some zeros. -/
def zeros (n : Nat) : Text :=
  List.replicate n '0'

/-- Digits whose leading one stands for `10 ^ leading`, written with places. -/
def withPlaces (digits : Text) (leading : Int) : Text :=
  if leading < 0 then "0." ++ zeros (-leading - 1).toNat ++ digits
  else
    let whole := leading.toNat + 1
    if digits.length ≤ whole then
      digits ++ zeros (whole - digits.length) ++ ".0"
    else digits.take whole ++ ("." : Text) ++ digits.drop whole

/-- Digits whose leading one stands for `10 ^ leading`, written with a power of ten. -/
def withPower (n : Notation) (digits : Text) (leading : Int) : Text :=
  let power := ofNat leading.natAbs
  let fraction : Text := if digits.length ≤ 1 then [] else '.' :: digits.drop 1
  let sign : Text := if leading < 0 then "e-" else "e+"
  digits.take 1 ++ fraction ++ sign ++ zeros (n.exponentDigits - power.length) ++ power

/-- A number in a given notation. -/
def writeReal (n : Notation) : Binary64 → Text
  | .nan => n.nan
  | .infinite negative => if negative then '-' :: n.infinity else n.infinity
  | .finite negative mantissa exponent =>
    let magnitude : Text :=
      if mantissa = 0 then "0.0"
      else
        let (digits, power) := Binary64.shortest mantissa exponent
        let all := ofNat digits
        let leading := power + all.length - 1
        let digits := withoutTrailingZeros all
        if n.leastPlace ≤ leading ∧ leading ≤ n.greatestPlace then withPlaces digits leading
        else withPower n digits leading
    if negative then '-' :: magnitude else magnitude

/-- The longest beginning of a text that is digits with single underscores between them: the place
values and the rest. The flag tells whether a digit stands before the text. -/
def takeDigits (afterDigit : Bool) : Text → List Nat × Text
  | [] => ([], [])
  | '_' :: c :: rest =>
    match afterDigit, Character.decimalValue? c with
    | true, some d =>
      let (ds, rest) := takeDigits true rest
      (d :: ds, rest)
    | _, _ => ([], '_' :: c :: rest)
  | c :: rest =>
    match Character.decimalValue? c with
    | some d =>
      let (ds, rest) := takeDigits true rest
      (d :: ds, rest)
    | none => ([], c :: rest)

/-- The power of ten at the end of a number: `some` with zero if there is none. -/
def exponent? : Text → Option Int
  | [] => some 0
  | c :: rest =>
    if c = 'e' ∨ c = 'E' then
      let (negative, rest) :=
        match rest with
        | '-' :: more => (true, more)
        | '+' :: more => (false, more)
        | more => (false, more)
      match takeDigits false rest with
      | (d :: ds, []) => some (if negative then -(valueOf (d :: ds) : Int) else valueOf (d :: ds))
      | _ => none
    else none

/-- Reads an unsigned real number. -/
def unsignedReal? (negative : Bool) (t : Text) : Option Binary64 :=
  let word := Text.lowered t
  if word = "inf" ∨ word = "infinity" then some (.infinite negative)
  else if word = "nan" then some .nan
  else
    let (whole, rest) := takeDigits false t
    let (places, rest) :=
      match rest with
      | '.' :: more => takeDigits false more
      | more => ([], more)
    if whole.isEmpty && places.isEmpty then none
    else (exponent? rest).map fun e =>
      Binary64.ofDecimal negative (valueOf (whole ++ places)) (e - places.length)

/-- Reads a real number: blanks, at most one sign, decimal notation with an optional power of ten,
or the name of infinity or of no number, blanks. -/
def readReal? (t : Text) : Option Binary64 :=
  match Text.trimWhile isMargin t with
  | '-' :: rest => unsignedReal? true rest
  | '+' :: rest => unsignedReal? false rest
  | rest => unsignedReal? false rest

end SourceEditor.Numeral
