import RobotScript.Duel.Board
import RobotScript.Random.Shuffle

/-!
# Setting up a board

The tiles of a board are shuffled and handed out: the first to the player, the second to the turret,
and the next ones to the obstacles. A board that is too small for them is refused.
-/

namespace RobotScript.Duel

/-- The size of a board and the number of its obstacles. -/
structure Setup where
  size : Nat := 10
  obstacles : Nat := 8
deriving DecidableEq, Repr

/-- The board cannot hold the obstacles and two robots. -/
structure Crowded where
  size : Nat
  obstacles : Nat
deriving DecidableEq, Repr

/-- The message for a board that is too small. -/
def Crowded.message (error : Crowded) : String :=
  s!"An arena of size {error.size} cannot hold {error.obstacles} obstacle(s) and two robots"

/-- The positions of a board, row by row. -/
def positions (size : Nat) : List Position :=
  (List.range size).flatMap fun row => (List.range size).map fun column => ⟨row, column⟩

namespace Board

/-- The board for a setup, with the tiles shuffled by the picks that are given for the index of the
last tile. Nothing is picked for a board that is refused. -/
def deal (setup : Setup) (picks : (last : Nat) → List Nat) : Except Crowded Board :=
  if setup.size * setup.size < setup.obstacles + 2 then .error ⟨setup.size, setup.obstacles⟩
  else
    match Random.shuffle (positions setup.size) (picks (setup.size * setup.size - 1)) with
    | player :: turret :: rest =>
      .ok ((rest.take setup.obstacles).foldl block (bare setup.size player turret))
    | _ => .error ⟨setup.size, setup.obstacles⟩

/-- The board that a seed gives for a setup. -/
def generate (setup : Setup) (seed : UInt64) : Except Crowded Board :=
  deal setup (Random.picks (.ofSeed seed))

end Board

end RobotScript.Duel
