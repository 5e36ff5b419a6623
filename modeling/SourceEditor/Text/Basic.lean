import SourceEditor.Character.Blank
import SourceEditor.Character.LetterCase

/-!
# Texts

A text is the list of its characters, so that every offset in this library is a position in a list
and counts characters; a lone surrogate counts as one. This module holds the operations that the
rest shares: trimming, blank texts, counting words, lower case, and the first place of one text in
another.
-/

namespace SourceEditor

/-- A text: its characters in order. -/
abbrev Text := List Character

/-- A string of bytes. -/
abbrev Bytes := List UInt8

/-- The text of some scalar values. -/
def Text.ofChars (cs : List Char) : Text :=
  cs.map .scalar

/-- A string literal is a text. -/
instance : Coe String Text where
  coe s := .ofChars s.toList

namespace Text

/-- A list of string literals as texts. -/
def ofStrings (strings : List String) : List Text :=
  strings.map fun (s : String) => (s : Text)

/-- The text without its longest end of characters of a class. -/
def trimEndWhile (p : Character → Bool) (t : Text) : Text :=
  (t.reverse.dropWhile p).reverse

/-- The text without the characters of a class at both its ends. -/
def trimWhile (p : Character → Bool) (t : Text) : Text :=
  trimEndWhile p (t.dropWhile p)

/-- The text without the blanks at both its ends. -/
def trim (t : Text) : Text :=
  trimWhile Character.isBlank t

/-- Whether a text holds nothing but blanks. -/
def isBlank (t : Text) : Bool :=
  t.all Character.isBlank

/-- The number of words, which are the maximal runs of characters that are not blank. The flag tells
whether the text continues a word. -/
def wordCountFrom (inWord : Bool) : Text → Nat
  | [] => 0
  | c :: rest =>
    if Character.isBlank c then wordCountFrom false rest
    else (if inWord then 0 else 1) + wordCountFrom true rest

/-- The number of words of a text. -/
def wordCount (t : Text) : Nat :=
  wordCountFrom false t

/-- The text in lower case. Characters go one by one; only capital I with a dot takes two, the
letter and the dot that combines with it. A capital sigma takes its medial form everywhere. -/
def lowered (t : Text) : Text :=
  t.flatMap fun (c : Character) => if c = '\u0130' then ['i', '\u0307'] else [Character.lower c]

/-- The first place at which a text stands in another one. -/
def indexOf? (needle : Text) : Text → Option Nat
  | [] => if needle.isEmpty then some 0 else none
  | c :: rest =>
    if needle.isPrefixOf (c :: rest) then some 0 else (indexOf? needle rest).map (· + 1)

/-- Whether a text stands somewhere in another one. -/
def occursIn (needle hay : Text) : Bool :=
  (indexOf? needle hay).isSome

/-- The text with every occurrence of a character replaced by a text. -/
def replaceChar (old : Character) (new t : Text) : Text :=
  t.flatMap fun c => if c = old then new else [c]

/-- The order of texts by code points, which is the order of words in rule tables. -/
def le : Text → Text → Bool
  | [], _ => true
  | _ :: _, [] => false
  | a :: s, b :: t => if a = b then le s t else a.toNat < b.toNat

/-- Puts a text into a table in increasing order of code points, unless the table holds it. -/
def insertText (t : Text) : List Text → List Text
  | [] => [t]
  | u :: rest =>
    if t = u then u :: rest
    else if le t u then t :: u :: rest
    else u :: insertText t rest

/-- The texts in increasing order of code points, each once. -/
def sortedUnique (ts : List Text) : List Text :=
  ts.foldr insertText []

end Text

end SourceEditor
