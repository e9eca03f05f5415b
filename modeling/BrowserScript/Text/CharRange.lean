/-!
Classes of characters as tables: inclusive ranges of code points in rising order, looked up by
halving.
-/

set_option autoImplicit false

namespace BrowserScript.Text

/-- Inclusive ranges of code points in rising order. -/
abbrev CharRanges := Array (Nat × Nat)

/-- Looks a code point up between two positions of a table. -/
def CharRanges.search (ranges : CharRanges) (code : Nat) : Nat → Nat → Nat → Bool
  | 0, _, _ => false
  | fuel + 1, low, high =>
    if low < high then
      let middle := (low + high) / 2
      match ranges[middle]? with
      | none => false
      | some (first, last) =>
        if code < first then search ranges code fuel low middle
        else if last < code then search ranges code fuel (middle + 1) high
        else true
    else false

/-- Is the character in one of the ranges? -/
def CharRanges.contains (ranges : CharRanges) (c : Char) : Bool :=
  ranges.search c.toNat ranges.size 0 ranges.size

end BrowserScript.Text
