import SourceEditor.Text.Basic

/-!
# UTF-8

Encoding, and decoding as a machine that reads one byte at a time. Each step of the machine yields
the characters that the byte completes and the ill-formed pieces that it ends, so one run serves
both readers: `decode?` accepts only well-formed bytes, and `decodeLossy` puts U+FFFD for each
maximal ill-formed piece.

A text with a lone surrogate has no form in UTF-8: `isEncodable` tells which texts have one, and
`refusal?` says what is wrong with the others.
-/

namespace SourceEditor.Utf8

/-- The bytes of a character. A lone surrogate takes the three bytes that a character of its code
point would take. -/
def encodeCharacter : Character → Bytes
  | .scalar c => String.utf8EncodeChar c
  | .surrogate index =>
    [0xED, UInt8.ofNat (0xA0 + index / 64), UInt8.ofNat (0x80 + index % 64)]

/-- The bytes of a text. They are UTF-8 if the text is encodable. -/
def encode (t : Text) : Bytes :=
  t.flatMap encodeCharacter

/-- Whether a text has a form in UTF-8: it holds no lone surrogate. -/
def isEncodable (t : Text) : Bool :=
  t.all fun c => !c.isSurrogate

/-- Why a text could not be encoded. -/
structure Refusal where
  /-- The number of characters before the one that is refused. -/
  position : Nat
  /-- The lone surrogates from there on, up to the next character that is none. -/
  surrogates : Text
  deriving DecidableEq, Repr

/-- The first character of a class, with the surrogates that follow it at once. -/
def refusalFrom? (refused : Character → Bool) (position : Nat) : Text → Option Refusal
  | [] => none
  | c :: rest =>
    if refused c then some ⟨position, c :: rest.takeWhile Character.isSurrogate⟩
    else refusalFrom? refused (position + 1) rest

/-- Why a text has no form in UTF-8, if it has none. -/
def refusal? (t : Text) : Option Refusal :=
  refusalFrom? Character.isSurrogate 0 t

/-- Nothing is refused exactly where no character is of the class. -/
theorem refusalFrom?_eq_none_iff {refused : Character → Bool} {position : Nat} {t : Text} :
    refusalFrom? refused position t = none ↔ t.all (fun c => !refused c) = true := by
  induction t generalizing position with
  | nil => simp [refusalFrom?]
  | cons c rest ih => by_cases h : refused c <;> simp [refusalFrom?, h, ih]

/-- A text of which nothing is refused is encodable. -/
theorem isEncodable_of_refusal?_eq_none {t : Text} (h : refusal? t = none) : isEncodable t = true :=
  refusalFrom?_eq_none_iff.1 h

/-- Texts are encodable together if each of them is. -/
@[simp]
theorem isEncodable_append (s t : Text) :
    isEncodable (s ++ t) = (isEncodable s && isEncodable t) := by
  simp [isEncodable]

/-- The beginning of an encodable text is encodable. -/
theorem isEncodable_take {t : Text} (h : isEncodable t = true) (n : Nat) :
    isEncodable (t.take n) = true := by
  rw [isEncodable, List.all_eq_true] at h ⊢
  exact fun c hc => h c (List.mem_of_mem_take hc)

/-- The end of an encodable text is encodable. -/
theorem isEncodable_drop {t : Text} (h : isEncodable t = true) (n : Nat) :
    isEncodable (t.drop n) = true := by
  rw [isEncodable, List.all_eq_true] at h ⊢
  exact fun c hc => h c (List.mem_of_mem_drop hc)

/-- What a decoder remembers between two bytes. -/
inductive State
  /-- Nothing is begun. -/
  | start
  /-- A character is begun: its bits so far, the number of bytes that it still needs (one more than
  `more`), the range in which the next byte has to lie, and the number of bytes already read. -/
  | within (bits : Nat) (more : Nat) (least most : UInt8) (length : Nat)
  deriving DecidableEq, Repr

/-- A piece of decoded input. -/
inductive Piece
  /-- A well-formed character. -/
  | char (c : Char)
  /-- An ill-formed piece of some length, and whether it is a byte that begins no character. -/
  | illFormed (length : Nat) (stray : Bool)
  deriving DecidableEq, Repr

/-- One byte read where nothing is begun: the pieces that it yields and the next state. The ranges
leave out overlong forms, surrogates and everything beyond U+10FFFF. -/
def lead (b : UInt8) : List Piece × State :=
  let n := b.toNat
  if n < 0x80 then ([.char (Char.ofNat n)], .start)
  else if n < 0xC2 then ([.illFormed 1 true], .start)
  else if n < 0xE0 then ([], .within (n - 0xC0) 0 0x80 0xBF 1)
  else if n = 0xE0 then ([], .within 0 1 0xA0 0xBF 1)
  else if n = 0xED then ([], .within 0xD 1 0x80 0x9F 1)
  else if n < 0xF0 then ([], .within (n - 0xE0) 1 0x80 0xBF 1)
  else if n = 0xF0 then ([], .within 0 2 0x90 0xBF 1)
  else if n < 0xF4 then ([], .within (n - 0xF0) 2 0x80 0xBF 1)
  else if n = 0xF4 then ([], .within 4 2 0x80 0x8F 1)
  else ([.illFormed 1 true], .start)

/-- One byte read in any state. A byte that cannot continue the character begun ends an ill-formed
piece and is read afresh. -/
def step (s : State) (b : UInt8) : List Piece × State :=
  match s with
  | .start => lead b
  | .within bits more least most length =>
    if least ≤ b ∧ b ≤ most then
      let bits := bits * 64 + (b.toNat - 0x80)
      match more with
      | 0 => ([.char (Char.ofNat bits)], .start)
      | more + 1 => ([], .within bits more 0x80 0xBF (length + 1))
    else
      let (pieces, next) := lead b
      (.illFormed length false :: pieces, next)

/-- The pieces that the end of the input yields. -/
def finish : State → List Piece
  | .start => []
  | .within _ _ _ _ length => [.illFormed length false]

/-- All pieces of the bytes from a state on. -/
def piecesFrom (s : State) : Bytes → List Piece
  | [] => finish s
  | b :: rest =>
    let (pieces, next) := step s b
    pieces ++ piecesFrom next rest

/-- The pieces of a byte string, in order. -/
def pieces (bs : Bytes) : List Piece :=
  piecesFrom .start bs

/-- The character that a reader with replacement shows for a piece. -/
def Piece.shown : Piece → Character
  | .char c => c
  | .illFormed _ _ => '\uFFFD'

/-- The number of bytes of a piece. -/
def Piece.length : Piece → Nat
  | .char c => c.utf8Size
  | .illFormed length _ => length

/-- The text of any bytes, with U+FFFD for each maximal ill-formed piece. -/
def decodeLossy (bs : Bytes) : Text :=
  (pieces bs).map Piece.shown

/-- Why bytes are no UTF-8. -/
inductive Reason
  /-- A byte begins no character. -/
  | strayByte
  /-- A byte does not continue the character begun. -/
  | brokenCharacter
  /-- The input ends within a character. -/
  | endOfInput
  deriving DecidableEq, Repr

/-- The first ill-formed piece of some bytes. -/
structure Error where
  /-- The number of bytes before the piece. -/
  position : Nat
  /-- The bytes of the piece. -/
  piece : Bytes
  /-- What is wrong with it. -/
  reason : Reason
  deriving DecidableEq, Repr

/-- Reads pieces as characters, keeping count of the bytes read; `bs` are the bytes left. -/
def textOfPieces (position : Nat) (bs : Bytes) : List Piece → Except Error Text
  | [] => .ok []
  | .char c :: rest =>
    (textOfPieces (position + c.utf8Size) (bs.drop c.utf8Size) rest).map (c :: ·)
  | .illFormed length stray :: _ =>
    .error ⟨position, bs.take length,
      if stray then .strayByte else if bs.length ≤ length then .endOfInput else .brokenCharacter⟩

/-- The text of well-formed bytes, or the first place at which they are ill-formed. -/
def decode (bs : Bytes) : Except Error Text :=
  textOfPieces 0 bs (pieces bs)

/-- The text of well-formed bytes. -/
def decode? (bs : Bytes) : Option Text :=
  (decode bs).toOption

/-- The mark that some programs put before UTF-8. -/
def byteOrderMark : Bytes :=
  [0xEF, 0xBB, 0xBF]

/-- The number of bytes of a code point; surrogates take three. -/
def width (codePoint : Nat) : Nat :=
  if codePoint < 0x80 then 1 else if codePoint < 0x800 then 2
  else if codePoint < 0x10000 then 3 else 4

/-- The byte offset of every boundary between code points, from the beginning to the end. -/
def offsetsFrom (offset : Nat) : List Nat → List Nat
  | [] => [offset]
  | n :: rest => offset :: offsetsFrom (offset + width n) rest

/-- The byte offset of every boundary between code points. -/
def offsetsOf (codePoints : List Nat) : List Nat :=
  offsetsFrom 0 codePoints

/-- The byte offset of every boundary between the characters of a text. -/
def offsets (t : Text) : List Nat :=
  offsetsOf (t.map Character.toNat)

end SourceEditor.Utf8
