/-!
# Places

A place in a script is a line and a column. Both count from one, and a column counts characters.
-/

namespace RobotScript

/-- A line and a column. -/
structure Place where
  line : Nat
  column : Nat
deriving DecidableEq, Repr

namespace Place

/-- The place of the first character. -/
def start : Place := ⟨1, 1⟩

/-- The place after a character. -/
def after (place : Place) (c : Char) : Place :=
  if c = '\n' then ⟨place.line + 1, 1⟩ else ⟨place.line, place.column + 1⟩

/-- Line and column with a colon between them. -/
def write (place : Place) : String :=
  s!"{place.line}:{place.column}"

end Place

end RobotScript
