/-!
Sorted tables of ranges of code points, and the search in them.

A table lists closed ranges in increasing order, and `RangeTable.contains` looks a code point up by halving.
-/

set_option autoImplicit false

namespace WorkerAdvisor.Text

/-- A table of closed ranges of code points, in increasing order and without overlaps. -/
structure RangeTable where
  ranges : Array (Nat × Nat)

namespace RangeTable

/-- Looks for `code` among the ranges numbered from `low` up to, but not including, `high`. Each step
halves that interval, so as many steps as there are ranges are more than enough. -/
def search (table : RangeTable) (code : Nat) : (steps low high : Nat) → Bool
  | 0, _, _ => false
  | steps + 1, low, high =>
    if low < high then
      match table.ranges[(low + high) / 2]? with
      | none => false
      | some (first, last) =>
        if code < first then table.search code steps low ((low + high) / 2)
        else if last < code then table.search code steps ((low + high) / 2 + 1) high
        else true
    else false

/-- Whether some range of the table holds the code point. -/
def contains (table : RangeTable) (code : Nat) : Bool :=
  table.search code table.ranges.size 0 table.ranges.size

end RangeTable

end WorkerAdvisor.Text
