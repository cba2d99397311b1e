/-!
# Sets of characters given by ranges

A character property of the Unicode standard is a finite union of intervals of code points.  The
tables of this library list those intervals in ascending order, and membership is one test for all
of them, so a table is data and nothing else.
-/

namespace EventRoster.Text

/-- An interval of code points, both ends included. -/
structure CodeRange where
  first : Nat
  last : Nat
deriving DecidableEq, Repr

/-- Whether the code point lies in the interval. -/
def CodeRange.contains (r : CodeRange) (n : Nat) : Bool :=
  r.first ≤ n && n ≤ r.last

/-- Whether the code point lies in one of the intervals. -/
def inRanges (ranges : List CodeRange) (n : Nat) : Bool :=
  ranges.any (·.contains n)

theorem inRanges_iff {ranges : List CodeRange} {n : Nat} :
    inRanges ranges n = true ↔ ∃ r ∈ ranges, r.first ≤ n ∧ n ≤ r.last := by
  simp [inRanges, CodeRange.contains]

end EventRoster.Text
