/-!
# Binary search

A table is an array of pairs whose keys ascend, in the order of code points. A set of code points above ASCII
is an ascending array of closed ranges that do not touch. Looking up a key and membership are binary searches.
-/

namespace Vitrine.Text

/-! ## Tables -/

/-- Binary search for `key` among the entries with indices from `lo` up to `hi`, with fuel for the
number of halvings. -/
def searchSorted {α : Type} (table : Array (String × α)) (key : String) :
    Nat → Nat → Nat → Option α
  | 0, _, _ => none
  | fuel + 1, lo, hi =>
    if lo < hi then
      let mid := (lo + hi) / 2
      match table[mid]? with
      | none => none
      | some (name, value) =>
        if key < name then searchSorted table key fuel lo mid
        else if name < key then searchSorted table key fuel (mid + 1) hi
        else some value
    else none

/-- The value of `key` in a table whose keys ascend. -/
def findSorted? {α : Type} (table : Array (String × α)) (key : String) : Option α :=
  searchSorted table key (table.size + 1) 0 table.size

/-! ## Sets of characters as ranges -/

/-- Closed ranges of code points, ascending. -/
abbrev CharRanges := Array (Nat × Nat)

/-- Binary search for `n` among the ranges with indices from `lo` up to `hi`, with fuel for the
number of halvings. -/
def CharRanges.search (ranges : CharRanges) (n : Nat) : Nat → Nat → Nat → Bool
  | 0, _, _ => false
  | fuel + 1, lo, hi =>
    if lo < hi then
      let mid := (lo + hi) / 2
      match ranges[mid]? with
      | none => false
      | some (first, last) =>
        if n < first then ranges.search n fuel lo mid
        else if last < n then ranges.search n fuel (mid + 1) hi
        else true
    else false

/-- Whether the code point of `c` lies in one of the ranges. -/
def CharRanges.has (ranges : CharRanges) (c : Char) : Bool :=
  ranges.search c.toNat (ranges.size + 1) 0 ranges.size

end Vitrine.Text
