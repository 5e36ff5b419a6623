import SourceEditor.Text.Basic
import SourceEditor.Character.Word

/-!
# Matchers

A matcher looks at one place of a text, with the character before it in view, and says how long its
match there is. Everything that looks for something in a text is a matcher, and this module finds
their matches: the leftmost one, or all of them from left to right without overlap. A match without
characters does not count.
-/

namespace SourceEditor

/-- The length of the match at a place, given the character before it and the text from it on. -/
abbrev Matcher := Option Character → Text → Option Nat

/-- A match: its first offset and the first offset after it. -/
abbrev Match := Nat × Nat

namespace Matcher

/-- All matches from a place on, from left to right without overlap. `offset` is the offset of the
place, and the first `skip` characters belong to a match already found. -/
def allFrom (m : Matcher) (offset skip : Nat) (before : Option Character) : Text → List Match
  | [] => []
  | c :: rest =>
    match skip with
    | skip + 1 => allFrom m (offset + 1) skip (some c) rest
    | 0 =>
      match m before (c :: rest) with
      | some (n + 1) => (offset, offset + (n + 1)) :: allFrom m (offset + 1) n (some c) rest
      | _ => allFrom m (offset + 1) 0 (some c) rest

/-- All matches in a text, from left to right without overlap. -/
def all (m : Matcher) (t : Text) : List Match :=
  allFrom m 0 0 none t

/-- The leftmost match from a place on. -/
def firstFrom? (m : Matcher) (offset : Nat) (before : Option Character) : Text → Option Match
  | [] => none
  | c :: rest =>
    match m before (c :: rest) with
    | some (n + 1) => some (offset, offset + (n + 1))
    | _ => firstFrom? m (offset + 1) (some c) rest

/-- The leftmost match of a text that begins at or after an offset. -/
def first? (m : Matcher) (t : Text) (start : Nat) : Option Match :=
  firstFrom? m start (t.take start).getLast? (t.drop start)

/-- The text with every match replaced, and the number of matches. -/
def replaceFrom (m : Matcher) (replacement : Text) (skip : Nat) (before : Option Character) :
    Text → Text × Nat
  | [] => ([], 0)
  | c :: rest =>
    match skip with
    | skip + 1 => replaceFrom m replacement skip (some c) rest
    | 0 =>
      match m before (c :: rest) with
      | some (n + 1) =>
        let (t, count) := replaceFrom m replacement n (some c) rest
        (replacement ++ t, count + 1)
      | _ =>
        let (t, count) := replaceFrom m replacement 0 (some c) rest
        (c :: t, count)

/-- The text with every match replaced, and the number of matches. -/
def replaceAll (m : Matcher) (replacement t : Text) : Text × Nat :=
  replaceFrom m replacement 0 none t

/-- Whether a query stands at the beginning of a text, under a relation between characters. -/
def agrees (same : Character → Character → Bool) : Text → Text → Bool
  | [], _ => true
  | _ :: _, [] => false
  | q :: query, c :: t => same q c && agrees same query t

/-- Whether a word begins or ends between two neighbouring characters; the ends of a text count as
characters outside words. -/
def isWordBoundary (before after : Option Character) : Bool :=
  before.any Character.isWord != after.any Character.isWord

/-- Matches a query, character by character under a relation. A match of whole words needs a word
boundary at both its ends. -/
def literal (same : Character → Character → Bool) (wholeWord : Bool) (query : Text) : Matcher :=
  fun before t =>
    if agrees same query t &&
        (!wholeWord || (isWordBoundary before t.head? &&
          isWordBoundary ((t.take query.length).getLast?.or before) (t.drop query.length).head?))
    then some query.length else none

/-- Matches a mark and everything after it in its line. -/
def toLineEnd (mark : Text) : Matcher := fun _ t =>
  if mark.isPrefixOf t then
    some (mark.length + ((t.drop mark.length).takeWhile fun (c : Character) => c != '\n').length)
  else none

/-- The first place at which a closing mark stands; only in the first line unless a region may
cross lines. -/
def closing? (acrossLines : Bool) (close : Text) : Text → Option Nat
  | [] => none
  | c :: rest =>
    if close.isPrefixOf (c :: rest) then some 0
    else if c = '\n' ∧ acrossLines = false then none
    else (closing? acrossLines close rest).map (· + 1)

/-- Matches an opening mark, the text up to the next closing mark, and the closing mark. -/
def region (acrossLines : Bool) (opening close : Text) : Matcher := fun _ t =>
  if opening.isPrefixOf t then
    (closing? acrossLines close (t.drop opening.length)).map fun n =>
      opening.length + n + close.length
  else none

end Matcher

end SourceEditor
