/-!
# Code ranges

A character class as a list of ranges of code points in increasing order, and membership in it.
-/

namespace SourceEditor.Character

/-- A set of code points as ranges, both ends included, in increasing order. -/
abbrev CodeRanges := List (Nat × Nat)

/-- Whether a code point lies in one of the ranges. The search stops at the first range that begins
beyond it. -/
def CodeRanges.contains : CodeRanges → Nat → Bool
  | [], _ => false
  | (first, last) :: rest, n =>
    if n < first then false else n ≤ last || CodeRanges.contains rest n

end SourceEditor.Character
