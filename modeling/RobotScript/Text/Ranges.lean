/-!
# Ranges of code points

A character class beyond ASCII is a table of closed ranges of code points, in increasing order.
`Ranges.contains` says whether a code point lies in one of them.
-/

namespace RobotScript.Text

/-- Closed ranges of code points: the first and the last code point of each. -/
abbrev Ranges := List (Nat × Nat)

/-- The code point lies in one of the ranges. -/
def Ranges.contains (ranges : Ranges) (code : Nat) : Bool :=
  ranges.any fun range => range.1 ≤ code && code ≤ range.2

end RobotScript.Text
