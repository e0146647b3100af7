/-!
# Fighters

The two robots of a duel: the player, which the script drives, and the turret.
-/

namespace RobotScript.Duel

/-- A row, counted from the top, and a column, counted from the left. -/
structure Position where
  row : Nat
  column : Nat
deriving DecidableEq, Repr

/-- A robot on the board: its hit points, its shots, and where it stands. -/
structure Fighter where
  hp : Nat
  shots : Nat
  place : Position
deriving DecidableEq, Repr

/-- The hit points of a new player. -/
def playerHp : Nat := 100

/-- The hit points of a new turret. -/
def turretHp : Nat := 50

/-- What a shot takes off. -/
def shotDamage : Nat := 15

/-- What a close attack takes off. -/
def meleeDamage : Nat := 25

/-- The shots of a full magazine. -/
def magazine : Nat := 3

namespace Fighter

/-- A player with a full magazine. -/
def player (position : Position) : Fighter := ⟨playerHp, magazine, position⟩

/-- A turret. It does not count its shots. -/
def turret (position : Position) : Fighter := ⟨turretHp, 0, position⟩

/-- A robot stands while it has hit points. -/
def isAlive (fighter : Fighter) : Bool := 0 < fighter.hp

/-- The robot after a blow. Hit points stop at zero. -/
def hurt (fighter : Fighter) (damage : Nat) : Fighter :=
  { fighter with hp := fighter.hp - damage }

/-- Uses a shot, if there is one. -/
def fire? (fighter : Fighter) : Option Fighter :=
  if fighter.shots = 0 then none else some { fighter with shots := fighter.shots - 1 }

/-- The robot with a full magazine. -/
def reload (fighter : Fighter) : Fighter :=
  { fighter with shots := magazine }

end Fighter

end RobotScript.Duel
