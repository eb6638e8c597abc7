/-!
# Ranges of characters

Sets of characters as tables of ranges of code points. The ranges of a table are in increasing order
and have both ends included.
-/

namespace LongPoll.Text

/-- A set of code points as ranges. -/
abbrev Ranges := Array (Nat × Nat)

namespace Ranges

/-- Whether the code point lies in one of the ranges from index `low` to `high`. Half of them are
left out at each of the `steps`. -/
def within (ranges : Ranges) (code : Nat) : (steps low high : Nat) → Bool
  | 0, _, _ => false
  | steps + 1, low, high =>
    if high ≤ low then false
    else
      let middle := (low + high) / 2
      match ranges[middle]? with
      | none => false
      | some (first, last) =>
        if code < first then within ranges code steps low middle
        else if last < code then within ranges code steps (middle + 1) high
        else true

/-- Whether the character is in the set. -/
def has (ranges : Ranges) (c : Char) : Bool := ranges.within c.toNat 16 0 ranges.size

end Ranges

end LongPoll.Text
