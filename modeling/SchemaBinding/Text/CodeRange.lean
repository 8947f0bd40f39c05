/-!
# Ranges of code points

A character class is a list of ranges.  A range may take every code point between its ends or only
those at a fixed distance, which is how alphabets that alternate upper and lower case are listed.
-/

namespace SchemaBinding
namespace Text

/-- The code points `first`, `first + step`, ... up to `last`. -/
structure CodeRange where
  /-- The least code point. -/
  first : Nat
  /-- The greatest code point. -/
  last : Nat
  /-- The distance between neighbours. -/
  step : Nat
deriving DecidableEq, Repr

namespace CodeRange

/-- Whether a code point belongs to the range. -/
def contains (range : CodeRange) (code : Nat) : Bool :=
  range.first ≤ code && code ≤ range.last && (code - range.first) % range.step == 0

end CodeRange

/-- Whether a character belongs to one of the ranges. -/
def inRanges (ranges : List CodeRange) (c : Char) : Bool :=
  ranges.any (·.contains c.toNat)

end Text
end SchemaBinding
