import RobotScript.Direction
import RobotScript.Duel.Fighter

/-!
# The board

A duel is fought on a square board of tiles, some of them obstacles, that are stored row by row.
`Board.look` gives the first thing on the ray from a position in a direction. A ray goes from tile
to tile and ends at the border.
-/

namespace RobotScript.Duel

/-- A tile is free or blocked. The robots stand on top of the tiles. -/
inductive Tile where
  | empty
  | obstacle
deriving DecidableEq, Repr, Inhabited

/-- The first thing on a ray. -/
inductive Sight where
  | player (position : Position)
  | turret (position : Position)
  | obstacle (position : Position)
  | edge
deriving DecidableEq, Repr

/-- A square board with the two robots. -/
structure Board where
  size : Nat
  tiles : Vector Tile (size * size)
  player : Fighter
  turret : Fighter

/-- A tile index beyond the last tile. -/
structure OffBoard where
  length : Nat
  index : Nat
deriving DecidableEq, Repr

/-- The message for a tile index beyond the last tile. -/
def OffBoard.message (error : OffBoard) : String :=
  s!"index out of bounds: the len is {error.length} but the index is {error.index}"

namespace Board

/-- A board without obstacles. -/
def bare (size : Nat) (player turret : Position) : Board where
  size := size
  tiles := Vector.replicate (size * size) .empty
  player := .player player
  turret := .turret turret

/-- The index of the tile at a position. A column past the border counts on into the next rows. -/
def index (board : Board) (position : Position) : Nat :=
  position.row * board.size + position.column

/-- The tile at a position, if the index is one of the board. -/
def tile? (board : Board) (position : Position) : Option Tile :=
  board.tiles[board.index position]?

/-- What is wrong with the index of a position. -/
def offBoard (board : Board) (position : Position) : OffBoard :=
  ⟨board.size * board.size, board.index position⟩

/-- The tile at a position. -/
def tile (board : Board) (position : Position) : Except OffBoard Tile :=
  match board.tile? position with
  | some tile => .ok tile
  | none => .error (board.offBoard position)

/-- The board with an obstacle at a position, or unchanged if the index is not one of the board. -/
def block (board : Board) (position : Position) : Board :=
  { board with tiles := board.tiles.setIfInBounds (board.index position) .obstacle }

/-- The board with an obstacle at a position. -/
def place (board : Board) (position : Position) : Except OffBoard Board :=
  if board.index position < board.size * board.size then .ok (board.block position)
  else .error (board.offBoard position)

/-- The position lies on the board. -/
def Inside (board : Board) (position : Position) : Prop :=
  position.row < board.size ∧ position.column < board.size

instance (board : Board) (position : Position) : Decidable (board.Inside position) :=
  inferInstanceAs (Decidable (_ ∧ _))

/-- The neighbour in a direction, if it lies on the board. -/
def step (board : Board) (position : Position) (direction : Direction) : Option Position :=
  let row := (position.row : Int) + direction.rowStep
  let column := (position.column : Int) + direction.columnStep
  if 0 ≤ row ∧ row < board.size ∧ 0 ≤ column ∧ column < board.size then
    some ⟨row.toNat, column.toNat⟩
  else none

/-- How many rows a ray can still cross. -/
def rowsAhead (board : Board) (position : Position) : Direction → Nat
  | .upLeft | .upRight => position.row
  | .downLeft | .downRight => board.size - position.row

theorem rowsAhead_step_lt {board : Board} {position next : Position} {direction : Direction}
    (stepped : board.step position direction = some next) :
    board.rowsAhead next direction < board.rowsAhead position direction := by
  simp only [step] at stepped
  split at stepped
  · obtain rfl := Option.some.inj stepped
    cases direction <;> simp only [rowsAhead, Direction.rowStep] at * <;> omega
  · cases stepped

/-- The tiles met on the way from a position in a direction, the nearest first. -/
def ray (board : Board) (position : Position) (direction : Direction) : List Position :=
  match stepped : board.step position direction with
  | none => []
  | some next =>
    have := rowsAhead_step_lt stepped
    next :: board.ray next direction
termination_by board.rowsAhead position direction

/-- What stands at a position. A robot is seen before the tile under it, and the player before the
turret. -/
def occupant? (board : Board) (position : Position) : Option Sight :=
  if position = board.player.place then some (.player position)
  else if position = board.turret.place then some (.turret position)
  else if board.tile? position = some .obstacle then some (.obstacle position)
  else none

/-- The first thing on the ray from a position in a direction. -/
def look (board : Board) (position : Position) (direction : Direction) : Sight :=
  ((board.ray position direction).findSome? board.occupant?).getD .edge

/-- The turret is the first thing that the player sees in a direction. -/
def playerSees (board : Board) (direction : Direction) : Bool :=
  match board.look board.player.place direction with
  | .turret _ => true
  | _ => false

/-- The player is the first thing that the turret sees in a direction. -/
def turretSees (board : Board) (direction : Direction) : Bool :=
  match board.look board.turret.place direction with
  | .player _ => true
  | _ => false

/-- The first direction in which the player sees the turret. -/
def detect (board : Board) : Option Direction :=
  Direction.all.find? board.playerSees

/-! ## Pictures -/

/-- The character for a position. -/
def glyph (board : Board) (position : Position) : Char :=
  if position = board.player.place then 'R'
  else if position = board.turret.place then if board.turret.isAlive then 'T' else 'x'
  else if board.tile? position = some .obstacle then '#'
  else '.'

/-- The characters of a row. -/
def rowGlyphs (board : Board) (row : Nat) : List Char :=
  (List.range board.size).map fun column => board.glyph ⟨row, column⟩

/-- A picture of the board in a frame. -/
def render (board : Board) : String :=
  let bar := List.replicate board.size '─'
  let rows := (List.range board.size).map fun row => '│' :: board.rowGlyphs row ++ ['│', '\n']
  String.ofList (['┌'] ++ bar ++ ['┐', '\n'] ++ rows.flatten ++ ['└'] ++ bar ++ ['┘'])

end Board

end RobotScript.Duel
