/-!
# Sets of code points

A set of code points is a list of inclusive ranges in ascending order, which is how the data of
a character property is written down. Looking a code point up stops at the first range that
begins beyond it.
-/

namespace Agenda.Text

/-- Ascending, disjoint, inclusive ranges of code points. -/
abbrev CodeRanges := List (Nat × Nat)

/-- Whether a code point lies in one of the ranges. -/
def CodeRanges.contains : CodeRanges → Nat → Bool
  | [], _ => false
  | (first, last) :: rest, n =>
    if n < first then false else n ≤ last || CodeRanges.contains rest n

end Agenda.Text
