/-!
# Directions

The four diagonal directions in which a robot acts, with their keywords, their codes in comparisons
and their offsets on the board.
-/

namespace RobotScript

/-- A diagonal direction. -/
inductive Direction where
  | upLeft
  | upRight
  | downLeft
  | downRight
deriving DecidableEq, Repr

namespace Direction

/-- Every direction, in the order in which a robot looks around. -/
def all : List Direction := [upLeft, upRight, downLeft, downRight]

/-- The word for a direction in a script. -/
def keyword : Direction → String
  | upLeft => "HAUTGAUCHE"
  | upRight => "HAUTDROIT"
  | downLeft => "BASGAUCHE"
  | downRight => "BASDROIT"

/-- The direction that a word stands for. -/
def ofKeyword? (word : String) : Option Direction :=
  all.find? fun direction => direction.keyword == word

/-- The number that a direction counts as. -/
def code : Direction → Nat
  | upRight => 1
  | upLeft => 2
  | downRight => 3
  | downLeft => 4

/-- The offset in rows, which grow downwards. -/
def rowStep : Direction → Int
  | upLeft | upRight => -1
  | downLeft | downRight => 1

/-- The offset in columns, which grow to the right. -/
def columnStep : Direction → Int
  | upLeft | downLeft => -1
  | upRight | downRight => 1

/-- A keyword stands for its direction. -/
@[simp] theorem ofKeyword?_keyword (direction : Direction) :
    ofKeyword? direction.keyword = some direction := by
  cases direction <;> decide

end Direction

end RobotScript
