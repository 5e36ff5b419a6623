import SourceEditor.Highlight.RuleSet
import SourceEditor.Character.Word
import SourceEditor.Style.StyledText

/-!
# Tokens

The scanner reads a text from left to right in one pass and puts every character into exactly one
token. Comments and strings that are not closed go to the end of the text.

* `Token.first` is the token at the beginning of a text.
* `Token.scan` is the list of all tokens, with neighbouring plain ones joined.
* `RuleSet.scan` is the styled text that they make.
-/

namespace SourceEditor

/-- A stretch of characters of one category. -/
structure Token where
  /-- The number of characters. -/
  length : Nat
  /-- Their category. -/
  category : Category
  deriving DecidableEq, Repr

namespace Token

/-- The number of characters up to the end of the first occurrence of a mark, or of the whole text
if the mark does not occur. -/
def lengthThrough (mark t : Text) : Nat :=
  match Text.indexOf? mark t with
  | some n => n + mark.length
  | none => t.length

/-- The place of the quote that closes a string: the first at which the quote stands, where a
backslash that begins no quote hides the character after it. -/
def closingQuote? (quote : Text) : Text → Option Nat
  | [] => none
  | [c] => if quote.isPrefixOf [c] then some 0 else none
  | c :: d :: rest =>
    if quote.isPrefixOf (c :: d :: rest) then some 0
    else if c = '\\' then (closingQuote? quote rest).map (· + 2)
    else (closingQuote? quote (d :: rest)).map (· + 1)

/-- The number of characters of a string after its opening quote. -/
def stringTail (quote t : Text) : Nat :=
  match closingQuote? quote t with
  | some n => n + quote.length
  | none => t.length

/-- The category of an identifier. -/
def wordCategory (r : RuleSet) (word : Text) : Category :=
  if r.keywords.contains word then .keyword
  else if r.types.contains word then .type
  else .plain

/-- The token of a number, an identifier or a single character. -/
def simple (r : RuleSet) (c : Character) (rest : Text) : Token :=
  if Character.isDigit c then
    ⟨1 + (rest.takeWhile fun d => Character.isDigit d || d == '.').length, .number⟩
  else if Character.startsIdentifier c then
    let tail := rest.takeWhile Character.isWord
    ⟨1 + tail.length, wordCategory r (c :: tail)⟩
  else ⟨1, .plain⟩

/-- The token of a string if one begins here, else the next kind. -/
def stringOr (r : RuleSet) (c : Character) (rest : Text) : Token :=
  match r.quoteMark? with
  | some quote =>
    if quote.isPrefixOf (c :: rest) then
      ⟨quote.length + stringTail quote ((c :: rest).drop quote.length), .string⟩
    else simple r c rest
  | none => simple r c rest

/-- The token of a line comment if one begins here, else the next kind. A comment whose mark begins
with a line break still has one character. -/
def lineCommentOr (r : RuleSet) (c : Character) (rest : Text) : Token :=
  match r.lineMark? with
  | some mark =>
    if mark.isPrefixOf (c :: rest) then
      ⟨max 1 ((c :: rest).takeWhile fun (d : Character) => d != '\n').length, .comment⟩
    else stringOr r c rest
  | none => stringOr r c rest

/-- The token at the beginning of a text: block comments come before line comments, those before
strings, and those before numbers, identifiers and single characters. -/
def first (r : RuleSet) (c : Character) (rest : Text) : Token :=
  match r.blockMarks? with
  | some (opening, closing) =>
    if opening.isPrefixOf (c :: rest) then
      ⟨opening.length + lengthThrough closing ((c :: rest).drop opening.length), .comment⟩
    else lineCommentOr r c rest
  | none => lineCommentOr r c rest

/-- The tokens of a text after the first `skip` characters, which belong to the token before. -/
def listFrom (r : RuleSet) (skip : Nat) : Text → List Token
  | [] => []
  | c :: rest =>
    match skip with
    | skip + 1 => listFrom r skip rest
    | 0 =>
      let token := first r c rest
      token :: listFrom r (token.length - 1) rest

/-- The tokens of a text. -/
def list (r : RuleSet) (t : Text) : List Token :=
  listFrom r 0 t

/-- Joins neighbouring plain tokens. -/
def joinPlain : List Token → List Token
  | [] => []
  | t :: rest =>
    match joinPlain rest with
    | next :: more =>
      if t.category = .plain ∧ next.category = .plain then ⟨t.length + next.length, .plain⟩ :: more
      else t :: next :: more
    | [] => [t]

/-- The tokens of a text, neighbouring plain ones joined. -/
def scan (r : RuleSet) (t : Text) : List Token :=
  joinPlain (list r t)

/-- The spans of tokens that lie side by side from an offset on. -/
def spansFrom (offset : Nat) : List Token → List Span
  | [] => []
  | t :: rest =>
    ⟨offset, (offset + t.length : Nat), t.category⟩ :: spansFrom (offset + t.length) rest

end Token

/-- The styled text of the scanner: the tokens as base spans, and no layers. -/
def RuleSet.scan (r : RuleSet) (t : Text) : StyledText :=
  ⟨t, Token.spansFrom 0 (Token.scan r t), []⟩

end SourceEditor
