import SourceEditor.Search.Matcher

/-!
# Search patterns

What the find bar searches for: a query that is not empty, taken literally, with or without regard
to case, anywhere or as whole words. `findNext` goes round the text, `replaceSelection` replaces a
selection that is a match, and `replaceAll` replaces every match.
-/

namespace SourceEditor

/-- A query to search for. -/
structure Pattern where
  /-- The characters to find. -/
  query : Text
  /-- Whether case counts. -/
  caseSensitive : Bool
  /-- Whether only whole words match. -/
  wholeWord : Bool
  /-- There is something to find. -/
  query_ne_nil : query ≠ []

namespace Pattern

/-- The pattern of a query; an empty query has none. -/
def ofQuery? (query : Text) (caseSensitive wholeWord : Bool) : Option Pattern :=
  if h : query ≠ [] then some ⟨query, caseSensitive, wholeWord, h⟩ else none

/-- Whether a character of the query stands for a character of the text. -/
def same (p : Pattern) (q c : Character) : Bool :=
  if p.caseSensitive then q == c else Character.alike q c

/-- The matcher of a pattern. -/
def matcher (p : Pattern) : Matcher :=
  Matcher.literal p.same p.wholeWord p.query

/-- All matches in a text, from left to right without overlap. -/
def allIn (p : Pattern) (t : Text) : List Match :=
  p.matcher.all t

/-- The next match that begins at or after an offset, or else the first of the text. An offset
outside the text is moved to its nearer end. -/
def findNext (p : Pattern) (t : Text) (start : Int) : Option Match :=
  (p.matcher.first? t (min start t.length).toNat).or (p.matcher.first? t 0)

/-- Replaces a selection, given by its two ends in either order, if it is exactly one match: the new
text and the selection of the replacement. The right end of the selection counts as the end of the
text, while the character before its left end is in view. -/
def replaceSelection (p : Pattern) (t : Text) (a b : Int) (replacement : Text) :
    Option (Text × Nat × Nat) :=
  let low := min a b
  let high := max a b
  if low = high ∨ low < 0 ∨ (t.length : Int) < high then none
  else
    let low := low.toNat
    let high := high.toNat
    let selected := (t.drop low).take (high - low)
    if p.matcher (t.take low).getLast? selected = some (high - low) then
      some (t.take low ++ replacement ++ t.drop high, low, low + replacement.length)
    else none

/-- The text with every match replaced by a text, taken literally, and the number of matches. -/
def replaceAll (p : Pattern) (t replacement : Text) : Text × Nat :=
  p.matcher.replaceAll replacement t

end Pattern

end SourceEditor
