import RobotScript.Duel.Board
import RobotScript.Machine

/-!
# Combat

What the actions of the player and the fire of the turret do to the board.
-/

namespace RobotScript.Duel

/-- What came of an action. -/
inductive Effect where
  | moved (position : Position)
  | blocked
  | hit (hp : Nat)
  | missed
  | outOfAmmo
  | reloaded
deriving DecidableEq, Repr

namespace Board

/-- The player moves to the neighbour in a direction, unless the border, the turret or an obstacle
is in its way. -/
def move (board : Board) (direction : Direction) : Board × Effect :=
  match board.step board.player.place direction with
  | some target =>
    if target ≠ board.turret.place ∧ board.tile? target = some .empty then
      ({ board with player.place := target }, .moved target)
    else (board, .blocked)
  | none => (board, .blocked)

/-- The turret after a blow. -/
def strike (board : Board) (damage : Nat) : Board × Effect :=
  let turret := board.turret.hurt damage
  ({ board with turret }, .hit turret.hp)

/-- The player uses a shot, which hits the turret if it is the first thing in that direction. -/
def shoot (board : Board) (direction : Direction) : Board × Effect :=
  match board.player.fire? with
  | none => (board, .outOfAmmo)
  | some player =>
    let board := { board with player }
    if board.playerSees direction then board.strike shotDamage else (board, .missed)

/-- The player hits the turret if it stands on the neighbour in that direction. -/
def melee (board : Board) (direction : Direction) : Board × Effect :=
  if board.step board.player.place direction = some board.turret.place then board.strike meleeDamage
  else (board, .missed)

/-- The player fills its magazine. -/
def reload (board : Board) : Board × Effect :=
  ({ board with player := board.player.reload }, .reloaded)

/-- The player acts. -/
def act (board : Board) : Action → Board × Effect
  | .move direction => board.move direction
  | .shoot direction => board.shoot direction
  | .melee direction => board.melee direction
  | .reload => board.reload

/-- The direction in which the turret fires: while it stands, the first one in which it sees the
player. -/
def turretAim (board : Board) : Option Direction :=
  if board.turret.isAlive then Direction.all.find? board.turretSees else none

/-- The turret fires if it can. Gives the direction and the hit points that the player has left. -/
def turretFire (board : Board) : Board × Option (Direction × Nat) :=
  match board.turretAim with
  | none => (board, none)
  | some direction =>
    let player := board.player.hurt shotDamage
    ({ board with player }, some (direction, player.hp))

end Board

end RobotScript.Duel
