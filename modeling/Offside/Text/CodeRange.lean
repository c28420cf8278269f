/-!
# Ranges of code points

The Unicode standard gives a property of characters as a list of ranges of code
points. A table of ranges here is ascending and leaves a gap between neighbours,
so that each set of characters is written in one way.
-/

namespace Offside.Text

/-- The code points from the first to the last, both included. -/
structure CodeRange where
  first : Nat
  last : Nat
  deriving DecidableEq, Repr

namespace CodeRange

/-- Whether the code point of a character lies in the range. -/
def contains (range : CodeRange) (char : Char) : Bool :=
  range.first ≤ char.toNat && char.toNat ≤ range.last

end CodeRange

/-- Whether a character lies in one of the ranges of a table. -/
def inRanges (table : List CodeRange) (char : Char) : Bool :=
  table.any (·.contains char)

end Offside.Text
