import SourceEditor.Json.Value
import SourceEditor.Numeral.Decimal

/-!
# Reading JSON documents

A document is one value with white space around it. Beyond the standard, the words `NaN`,
`Infinity` and `-Infinity` are numbers, and a surrogate escape without its partner is a character of
its own. When a key comes twice, its last value counts. How many arrays and objects may stand inside
each other is for the reader of a document to say; the limit bounds the work of everything that
follows the value inward. The editor reads its documents with `nestingLimit`.

An error is a fault with the offset at which it was found, of which `Error.message` gives the line
and the column.
-/

namespace SourceEditor.Json

/-- What has values inside it. -/
inductive Container
  /-- A list of values. -/
  | array
  /-- Named values. -/
  | object
  deriving DecidableEq, Repr

/-- The name of a container. -/
def Container.name : Container → Text
  | .array => "array"
  | .object => "object"

/-- The most arrays and objects inside each other for which the editor has room when it reads a
document. -/
def nestingLimit : Nat := 990

/-- The first container inside too many others. -/
structure TooDeep where
  /-- What it is. -/
  container : Container
  deriving DecidableEq, Repr

/-- What is said of a container inside too many others. -/
def TooDeep.message (e : TooDeep) : Text :=
  ("maximum recursion depth exceeded while decoding a JSON " : Text) ++ e.container.name
    ++ " from a unicode string"

/-- What is wrong with a document. -/
inductive Fault
  /-- A value is missing. -/
  | missingValue
  /-- A key or the end of an object is missing. -/
  | missingKey
  /-- The colon after a key is missing. -/
  | missingColon
  /-- A comma or the end of an array or object is missing. -/
  | missingComma
  /-- A text has no closing quote. -/
  | openString
  /-- A text holds a control character. -/
  | controlCharacter
  /-- A backslash is followed by an unknown letter. -/
  | unknownEscape
  /-- A code point escape has no four hexadecimal digits. -/
  | brokenEscape
  /-- Something follows the value. -/
  | trailing
  /-- The document begins with a byte order mark. -/
  | byteOrderMark
  /-- An integer has this many digits, which are too many. -/
  | longInteger (digits : Nat)
  /-- A container stands inside too many others. -/
  | tooDeep (e : TooDeep)
  deriving DecidableEq, Repr

/-- A fault and the number of characters of the document before it. -/
structure Error where
  /-- What is wrong. -/
  fault : Fault
  /-- Where it is. -/
  offset : Nat
  deriving DecidableEq, Repr

/-- What is said of a fault. -/
def Fault.message : Fault → Text
  | .missingValue => "Expecting value"
  | .missingKey => "Expecting property name enclosed in double quotes"
  | .missingColon => "Expecting ':' delimiter"
  | .missingComma => "Expecting ',' delimiter"
  | .openString => "Unterminated string starting at"
  | .controlCharacter => "Invalid control character at"
  | .unknownEscape => "Invalid \\escape: "
  | .brokenEscape => "Invalid \\uXXXX escape"
  | .trailing => "Extra data"
  | .byteOrderMark => "Unexpected UTF-8 BOM (decode using utf-8-sig)"
  | .longInteger digits => Numeral.tooLongMessage digits
  | .tooDeep e => e.message

/-- What is said of an error in a document: the fault and its place, but an integer that is too long
and a container that is too deep are reported without their place. -/
def Error.message (document : Text) (e : Error) : Text :=
  match e.fault with
  | .longInteger digits => Numeral.tooLongMessage digits
  | .tooDeep e => e.message
  | fault =>
    let before := document.take e.offset
    let line := before.count ('\n' : Character) + 1
    let column := (before.reverse.takeWhile fun (c : Character) => c != '\n').length + 1
    let separator : Text := if fault = .unknownEscape then [] else ": "
    fault.message ++ separator ++ "line " ++ Numeral.ofNat line ++ " column "
      ++ Numeral.ofNat column ++ " (char " ++ Numeral.ofNat e.offset ++ ")"

/-- The rest of a document at some offset of it. -/
structure Cursor where
  /-- The number of characters read. -/
  offset : Nat
  /-- The characters left. -/
  rest : Text
  deriving DecidableEq, Repr

namespace Cursor

/-- The cursor after some characters. -/
def advance (c : Cursor) (n : Nat) : Cursor :=
  ⟨c.offset + n, c.rest.drop n⟩

/-- Whether a character is white space between tokens. -/
def isSpace (c : Character) : Bool :=
  c == ' ' || c == '\t' || c == '\n' || c == '\r'

/-- The cursor after the white space at it. -/
def skipSpace (c : Cursor) : Cursor :=
  c.advance (c.rest.takeWhile isSpace).length

/-- A fault at the cursor. -/
def fail {α : Type} (c : Cursor) (fault : Fault) : Except Error α :=
  .error ⟨fault, c.offset⟩

end Cursor

/-- The value of a hexadecimal digit. -/
def hexValue? (c : Character) : Option Nat :=
  let n := c.toNat
  if 48 ≤ n ∧ n ≤ 57 then some (n - 48)
  else if 97 ≤ n ∧ n ≤ 102 then some (n - 87)
  else if 65 ≤ n ∧ n ≤ 70 then some (n - 55)
  else none

/-- The 16-bit unit of the four hexadecimal digits at the beginning of a text. -/
def unit? : Text → Option Nat
  | a :: b :: c :: d :: _ => do
    return ((← hexValue? a) * 16 + (← hexValue? b)) * 256 + (← hexValue? c) * 16 + (← hexValue? d)
  | _ => none

/-- Whether a 16-bit unit is the first half of a surrogate pair. -/
def isHighSurrogate (u : Nat) : Bool :=
  0xD800 ≤ u && u ≤ 0xDBFF

/-- Whether a 16-bit unit is the second half of a surrogate pair. -/
def isLowSurrogate (u : Nat) : Bool :=
  0xDC00 ≤ u && u ≤ 0xDFFF

/-- The character of a surrogate pair. -/
def characterOfPair (high low : Nat) : Character :=
  Character.ofNat (0x10000 + (high - 0xD800) * 0x400 + (low - 0xDC00))

/-- The character that a letter after a backslash stands for. -/
def simpleEscape? : Character → Option Character
  | '"' => some '"'
  | '\\' => some '\\'
  | '/' => some '/'
  | 'b' => some '\x08'
  | 'f' => some '\x0c'
  | 'n' => some '\n'
  | 'r' => some '\r'
  | 't' => some '\t'
  | _ => none

/-- Reads the rest of a text up to its closing quote. `start` is the offset of the opening quote;
`high` is the first half of a surrogate pair that an escape has just given. Only the escape of a
second half that follows at once makes a pair of it. -/
def stringBody (start : Nat) (high : Option Nat) (offset : Nat) :
    Text → Except Error (Text × Cursor)
  | [] => .error ⟨.openString, start⟩
  | '"' :: rest => .ok (afterHigh [], ⟨offset + 1, rest⟩)
  | '\\' :: 'u' :: a :: b :: c :: d :: rest =>
    match unit? [a, b, c, d] with
    | none => .error ⟨.brokenEscape, offset + 1⟩
    | some u =>
      if rest.isEmpty then .error ⟨.brokenEscape, offset + 1⟩
      else if isHighSurrogate u then
        (stringBody start (some u) (offset + 6) rest).map fun (s, next) => (afterHigh s, next)
      else
        (stringBody start none (offset + 6) rest).map fun (s, next) =>
          match high, isLowSurrogate u with
          | some h, true => (characterOfPair h u :: s, next)
          | _, _ => (afterHigh (.ofNat u :: s), next)
  | '\\' :: 'u' :: _ => .error ⟨.brokenEscape, offset + 1⟩
  | '\\' :: c :: rest =>
    match simpleEscape? c with
    | none => .error ⟨.unknownEscape, offset⟩
    | some e =>
      (stringBody start none (offset + 2) rest).map fun (s, next) => (afterHigh (e :: s), next)
  | ['\\'] => .error ⟨.openString, start⟩
  | c :: rest =>
    if c.toNat < 32 then .error ⟨.controlCharacter, offset⟩
    else (stringBody start none (offset + 1) rest).map fun (s, next) => (afterHigh (c :: s), next)
where
  /-- A first half that found no partner stays alone. -/
  afterHigh (s : Text) : Text :=
    match high with
    | some h => .ofNat h :: s
    | none => s

/-- The decimal digits of ASCII at the beginning of a text. -/
def asciiDigits (t : Text) : Text :=
  t.takeWhile fun c => Character.isAsciiDigit c.toNat

/-- The place values of digits of ASCII. -/
def placeValues (t : Text) : List Nat :=
  t.map fun c => c.toNat - 48

/-- The fraction after the whole digits of a number, if there is one: its digits, and how many
characters it takes. -/
def fractionPart (t : Text) : Text × Nat :=
  match t with
  | '.' :: rest =>
    let ds := asciiDigits rest
    if ds.isEmpty then ([], 0) else (ds, ds.length + 1)
  | _ => ([], 0)

/-- The power of ten after the digits of a number, if there is one: its sign, its digits, and how
many characters it takes. -/
def powerPart (t : Text) : Bool × Text × Nat :=
  match t with
  | c :: rest =>
    if c = 'e' ∨ c = 'E' then
      let (negative, signLength, rest) :=
        match rest with
        | '-' :: more => (true, 1, more)
        | '+' :: more => (false, 1, more)
        | more => (false, 0, more)
      let ds := asciiDigits rest
      if ds.isEmpty then (false, [], 0) else (negative, ds, ds.length + 1 + signLength)
    else (false, [], 0)
  | [] => (false, [], 0)

/-- Reads a number at the cursor. -/
def number (c : Cursor) : Except Error (Value × Cursor) :=
  let negative := c.rest.head? = some '-'
  let signLength := if negative then 1 else 0
  let digits := asciiDigits (c.rest.drop signLength)
  let whole := if digits.head? = some '0' then digits.take 1 else digits
  if whole.isEmpty then c.fail .missingValue
  else
    let afterWhole := c.advance (signLength + whole.length)
    let (places, placesLength) := fractionPart afterWhole.rest
    let afterPlaces := afterWhole.advance placesLength
    let (powerNegative, power, powerLength) := powerPart afterPlaces.rest
    if placesLength = 0 ∧ powerLength = 0 then
      match Numeral.ofPlaceValues (placeValues whole) with
      | .ok n => .ok (.integer (if negative then -(n : Int) else n), afterWhole)
      | .error _ => c.fail (.longInteger whole.length)
    else
      let shift : Int := Numeral.valueOf (placeValues power)
      let exponent := (if powerNegative then -shift else shift) - places.length
      let digits := Numeral.valueOf (placeValues (whole ++ places))
      .ok (.real (Binary64.ofDecimal negative digits exponent), afterPlaces.advance powerLength)

/-- The words that are values. -/
def words : List (Text × Value) :=
  [("null", .null), ("true", .bool true), ("false", .bool false), ("NaN", .real .nan),
    ("Infinity", .real (.infinite false)), ("-Infinity", .real (.infinite true))]

/-- Reads a value that is neither a text nor an array nor an object. -/
def scalar (c : Cursor) : Except Error (Value × Cursor) :=
  match words.find? fun word => word.1.isPrefixOf c.rest with
  | some (word, v) => .ok (v, c.advance word.length)
  | none => number c

/-- Reads a key, the colon after it and the white space around the colon. -/
def key (c : Cursor) : Except Error (Text × Cursor) :=
  match c.rest with
  | '"' :: rest => do
    let (k, next) ← stringBody c.offset none (c.offset + 1) rest
    let next := next.skipSpace
    match next.rest with
    | ':' :: _ => return (k, (next.advance 1).skipSpace)
    | _ => next.fail .missingColon
  | _ => c.fail .missingKey

mutual

/-- Reads a value at the cursor. `room` is the number of containers that may still be opened inside
each other. Each value, item and entry takes one unit of fuel. -/
def value : Nat → Nat → Cursor → Except Error (Value × Cursor)
  | 0, _, c => c.fail .missingValue
  | fuel + 1, room, c =>
    match c.rest with
    | '"' :: rest => do
      let (s, next) ← stringBody c.offset none (c.offset + 1) rest
      return (.string s, next)
    | '[' :: _ =>
      match room with
      | 0 => c.fail (.tooDeep ⟨.array⟩)
      | room + 1 => do
        let next := (c.advance 1).skipSpace
        match next.rest with
        | ']' :: _ => return (.array [], next.advance 1)
        | _ =>
          let (vs, next) ← items fuel room next
          return (.array vs, next)
    | '{' :: _ =>
      match room with
      | 0 => c.fail (.tooDeep ⟨.object⟩)
      | room + 1 => do
        let next := (c.advance 1).skipSpace
        match next.rest with
        | '}' :: _ => return (.object [], next.advance 1)
        | _ =>
          let (es, next) ← entries fuel room [] next
          return (.object es, next)
    | _ => scalar c

/-- Reads the items of an array up to its closing bracket. -/
def items : Nat → Nat → Cursor → Except Error (List Value × Cursor)
  | 0, _, c => c.fail .missingValue
  | fuel + 1, room, c => do
    let (v, next) ← value fuel room c
    let next := next.skipSpace
    match next.rest with
    | ',' :: _ =>
      let (vs, next) ← items fuel room (next.advance 1).skipSpace
      return (v :: vs, next)
    | ']' :: _ => return ([v], next.advance 1)
    | _ => next.fail .missingComma

/-- Reads the entries of an object up to its closing brace, after some entries. -/
def entries : Nat → Nat → Entries → Cursor → Except Error (Entries × Cursor)
  | 0, _, _, c => c.fail .missingKey
  | fuel + 1, room, before, c => do
    let (k, next) ← key c
    let (v, next) ← value fuel room next
    let next := next.skipSpace
    match next.rest with
    | ',' :: _ => entries fuel room (Entries.insert k v before) (next.advance 1).skipSpace
    | '}' :: _ => return (Entries.insert k v before, next.advance 1)
    | _ => next.fail .missingComma

end

/-- Reads a document with room for so many containers inside each other. Every value, item and entry
takes at least one character, so the fuel never runs out. -/
def read (limit : Nat) (document : Text) : Except Error Value :=
  if document.head? = some '\uFEFF' then .error ⟨.byteOrderMark, 0⟩
  else do
    let start : Cursor := ⟨0, document⟩
    let (v, next) ← value (2 * document.length + 2) limit start.skipSpace
    let next := next.skipSpace
    if next.rest.isEmpty then return v else next.fail .trailing

/-- Reads a document as the editor does, whatever its error would be. -/
def read? (document : Text) : Option Value :=
  (read nestingLimit document).toOption

end SourceEditor.Json
