/-!
# Bounds by halving

The place at which a number would be inserted into a sorted array, found by halving: the upper bound
lies after the entries equal to the number, the lower bound before them. On an array that is not
sorted the result is still defined, by the entries met.
-/

namespace SourceEditor.Order

/-- The upper bound of a number among the entries from `low` on and before `high`. -/
def upperBoundBetween (entries : Array Int) (x : Int) (low high : Nat) : Nat :=
  if low < high then
    let middle := (low + high) / 2
    if x < entries.getD middle 0 then upperBoundBetween entries x low middle
    else upperBoundBetween entries x (middle + 1) high
  else low
termination_by high - low

/-- The upper bound of a number in an array: if the array is sorted, the number of its entries that
are at most `x`. -/
def upperBound (entries : Array Int) (x : Int) : Nat :=
  upperBoundBetween entries x 0 entries.size

/-- The lower bound of a number in an array: if the array is sorted, the number of its entries that
are smaller than `x`, which are those that are at most `x - 1`. -/
def lowerBound (entries : Array Int) (x : Int) : Nat :=
  upperBound entries (x - 1)

end SourceEditor.Order
