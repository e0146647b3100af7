import RobotScript.Proofs.Duel.Combat
import RobotScript.Proofs.Duel.Setup

/-!
# Safety of whole matches

Tiles are stored in one row, and an index beyond the last one is an error. The `Checked` functions
do what the deeds do and read every tile with `Board.tile`, so that they stop at the first index
that is too large. They never do: `performChecked_eq` says that each of them gives what the deed
gives. The reason is that a step never leaves the board.

`Placed` is what the deeds keep about the player: it stands on an empty tile of the board and not on
the turret. `placed_of_deal` says that it holds of every dealt board.

`deeds_safe` puts these together for deeds in a row on a dealt board.
-/

namespace RobotScript.Duel

namespace Board

/-! ## Reading tiles by their index -/

/-- What stands at a position, where a tile is read if no robot stands there. -/
def occupantChecked (board : Board) (position : Position) : Except OffBoard (Option Sight) :=
  if position = board.player.place then .ok (some (.player position))
  else if position = board.turret.place then .ok (some (.turret position))
  else do
    match ← board.tile position with
    | .obstacle => return some (.obstacle position)
    | .empty => return none

/-- The first thing among some positions. -/
def firstChecked (board : Board) : List Position → Except OffBoard Sight
  | [] => .ok .edge
  | position :: positions => do
    match ← board.occupantChecked position with
    | some sight => return sight
    | none => board.firstChecked positions

/-- The first thing on the ray from a position in a direction. -/
def lookChecked (board : Board) (start : Position) (direction : Direction) :
    Except OffBoard Sight :=
  board.firstChecked (board.ray start direction)

/-- The turret is the first thing that the player sees in a direction. -/
def playerSeesChecked (board : Board) (direction : Direction) : Except OffBoard Bool := do
  match ← board.lookChecked board.player.place direction with
  | .turret _ => return true
  | _ => return false

/-- The player is the first thing that the turret sees in a direction. -/
def turretSeesChecked (board : Board) (direction : Direction) : Except OffBoard Bool := do
  match ← board.lookChecked board.turret.place direction with
  | .player _ => return true
  | _ => return false

/-- The player moves to the neighbour in a direction, where the tile is read if the neighbour is not
the turret. -/
def moveChecked (board : Board) (direction : Direction) : Except OffBoard (Board × Effect) :=
  match board.step board.player.place direction with
  | none => .ok (board, .blocked)
  | some target =>
    if target = board.turret.place then .ok (board, .blocked)
    else do
      match ← board.tile target with
      | .empty => return ({ board with player.place := target }, .moved target)
      | .obstacle => return (board, .blocked)

/-- The player uses a shot. -/
def shootChecked (board : Board) (direction : Direction) : Except OffBoard (Board × Effect) :=
  match board.player.fire? with
  | none => .ok (board, .outOfAmmo)
  | some player => do
    let board := { board with player }
    if ← board.playerSeesChecked direction then return board.strike shotDamage
    else return (board, .missed)

/-- The player acts. -/
def actChecked (board : Board) : Action → Except OffBoard (Board × Effect)
  | .move direction => board.moveChecked direction
  | .shoot direction => board.shootChecked direction
  | .melee direction => .ok (board.melee direction)
  | .reload => .ok board.reload

/-- The turret fires if it can. -/
def turretFireChecked (board : Board) : Except OffBoard (Board × Option (Direction × Nat)) :=
  if board.turret.isAlive then do
    match ← Direction.all.findM? board.turretSeesChecked with
    | none => return (board, none)
    | some direction =>
      let player := board.player.hurt shotDamage
      return ({ board with player }, some (direction, player.hp))
  else .ok (board, none)

/-- The character for a position, where a tile is read if no robot stands there. -/
def glyphChecked (board : Board) (position : Position) : Except OffBoard Char :=
  if position = board.player.place then .ok 'R'
  else if position = board.turret.place then .ok (if board.turret.isAlive then 'T' else 'x')
  else do
    match ← board.tile position with
    | .obstacle => return '#'
    | .empty => return '.'

/-- A picture of the board in a frame. -/
def renderChecked (board : Board) : Except OffBoard String := do
  let bar := List.replicate board.size '─'
  let rows ← (List.range board.size).mapM fun row => do
    let glyphs ← (List.range board.size).mapM fun column => board.glyphChecked ⟨row, column⟩
    return '│' :: glyphs ++ ['│', '\n']
  return String.ofList
    (['┌'] ++ bar ++ ['┐', '\n'] ++ rows.flatten ++ ['└'] ++ bar ++ ['┘'])

/-- The board after a deed, and what the deed gives. -/
def performChecked (board : Board) : Deed → Except OffBoard (Board × Reply)
  | .act action => do
    let (board, effect) ← board.actChecked action
    return (board, .effect effect)
  | .detect => do
    return (board, .detected (← Direction.all.findM? board.playerSeesChecked))
  | .turretFire => do
    let (board, shot) ← board.turretFireChecked
    return (board, .fired shot)
  | .look start direction => do
    return (board, .seen (← board.lookChecked start direction))
  | .render => do
    return (board, .picture (← board.renderChecked))

/-! ## No index is too large -/

variable {board : Board} {position : Position}

/-- On the board there is a tile at every position. -/
theorem tile_of_inside (inside : board.Inside position) :
    ∃ tile, board.tile? position = some tile ∧ board.tile position = .ok tile := by
  have below := index_lt inside
  have found : board.tile? position = some board.tiles[board.index position] :=
    Vector.getElem?_eq_getElem below
  exact ⟨_, found, by rw [tile, found]⟩

theorem occupantChecked_eq (inside : board.Inside position) :
    board.occupantChecked position = .ok (board.occupant? position) := by
  obtain ⟨tile, found, read⟩ := tile_of_inside inside
  unfold occupantChecked occupant?
  rw [found, read]
  split
  · rfl
  · split
    · rfl
    · cases tile <;> rfl

theorem firstChecked_eq {positions : List Position}
    (inside : ∀ position ∈ positions, board.Inside position) :
    board.firstChecked positions = .ok ((positions.findSome? board.occupant?).getD .edge) := by
  induction positions with
  | nil => rfl
  | cons position positions ih =>
    rw [firstChecked, occupantChecked_eq (inside position List.mem_cons_self), List.findSome?_cons]
    cases board.occupant? position with
    | some sight => rfl
    | none => exact ih fun other member => inside other (List.mem_cons_of_mem _ member)

theorem inside_of_mem_ray {start : Position} {direction : Direction}
    (member : position ∈ board.ray start direction) :
    board.Inside position := by
  induction start using ray.induct board direction with
  | case1 start last =>
    rw [ray_of_none last] at member
    cases member
  | case2 start next stepped _ ih =>
    rw [ray_of_some stepped] at member
    cases member with
    | head => exact inside_of_step stepped
    | tail _ later => exact ih later

theorem lookChecked_eq (board : Board) (start : Position) (direction : Direction) :
    board.lookChecked start direction = .ok (board.look start direction) :=
  firstChecked_eq fun _ => inside_of_mem_ray

theorem playerSeesChecked_eq (board : Board) (direction : Direction) :
    board.playerSeesChecked direction = .ok (board.playerSees direction) := by
  unfold playerSeesChecked playerSees
  rw [lookChecked_eq]
  cases board.look board.player.place direction <;> rfl

theorem turretSeesChecked_eq (board : Board) (direction : Direction) :
    board.turretSeesChecked direction = .ok (board.turretSees direction) := by
  unfold turretSeesChecked turretSees
  rw [lookChecked_eq]
  cases board.look board.turret.place direction <;> rfl

theorem moveChecked_eq (board : Board) (direction : Direction) :
    board.moveChecked direction = .ok (board.move direction) := by
  unfold moveChecked move
  cases stepped : board.step board.player.place direction with
  | none => rfl
  | some target =>
    obtain ⟨tile, found, read⟩ := tile_of_inside (inside_of_step stepped)
    simp only [found, read]
    by_cases turret : target = board.turret.place
    · simp [turret]
    · cases tile <;> simp [turret, bind, Except.bind, pure, Except.pure]

theorem shootChecked_eq (board : Board) (direction : Direction) :
    board.shootChecked direction = .ok (board.shoot direction) := by
  unfold shootChecked shoot
  cases board.player.fire? with
  | none => rfl
  | some player =>
    simp only [playerSeesChecked_eq]
    cases ({ board with player } : Board).playerSees direction <;> rfl

theorem actChecked_eq (board : Board) (action : Action) :
    board.actChecked action = .ok (board.act action) := by
  cases action with
  | move direction => exact board.moveChecked_eq direction
  | shoot direction => exact board.shootChecked_eq direction
  | melee | reload => rfl

theorem detectChecked_eq (board : Board) :
    Direction.all.findM? board.playerSeesChecked = .ok board.detect := by
  rw [funext board.playerSeesChecked_eq]
  exact List.findM?_pure board.playerSees Direction.all

theorem turretFireChecked_eq (board : Board) : board.turretFireChecked = .ok board.turretFire := by
  unfold turretFireChecked turretFire turretAim
  have searched : Direction.all.findM? board.turretSeesChecked =
      .ok (Direction.all.find? board.turretSees) := by
    rw [funext board.turretSeesChecked_eq]
    exact List.findM?_pure board.turretSees Direction.all
  rw [searched]
  cases board.turret.isAlive with
  | false => rfl
  | true => cases Direction.all.find? board.turretSees <;> rfl

theorem glyphChecked_eq (inside : board.Inside position) :
    board.glyphChecked position = .ok (board.glyph position) := by
  obtain ⟨tile, found, read⟩ := tile_of_inside inside
  unfold glyphChecked glyph
  rw [found, read]
  split
  · rfl
  · split
    · rfl
    · cases tile <;> rfl

theorem mapM_eq_ok {ε α β : Type} {f : α → Except ε β} {g : α → β} {items : List α}
    (each : ∀ item ∈ items, f item = .ok (g item)) : items.mapM f = .ok (items.map g) := by
  induction items with
  | nil => rfl
  | cons item items ih =>
    rw [List.mapM_cons, each item List.mem_cons_self,
      ih fun other member => each other (List.mem_cons_of_mem _ member)]
    rfl

theorem renderChecked_eq (board : Board) : board.renderChecked = .ok board.render := by
  have glyphs : ∀ row ∈ List.range board.size,
      (List.range board.size).mapM (fun column => board.glyphChecked ⟨row, column⟩) =
        .ok (board.rowGlyphs row) := by
    intro row below
    refine mapM_eq_ok fun column beside => ?_
    exact glyphChecked_eq ⟨List.mem_range.mp below, List.mem_range.mp beside⟩
  unfold renderChecked
  rw [mapM_eq_ok (g := fun row => '│' :: board.rowGlyphs row ++ ['│', '\n'])]
  · rfl
  · intro row below
    rw [glyphs row below]
    rfl

/-- No deed reads a tile beyond the last one. -/
theorem performChecked_eq (board : Board) (deed : Deed) :
    board.performChecked deed = .ok (board.perform deed) := by
  cases deed with
  | act action =>
    rw [performChecked, actChecked_eq]
    rfl
  | detect =>
    rw [performChecked, detectChecked_eq]
    rfl
  | turretFire =>
    rw [performChecked, turretFireChecked_eq]
    rfl
  | look start direction =>
    rw [performChecked, lookChecked_eq]
    rfl
  | render =>
    rw [performChecked, renderChecked_eq]
    rfl

/-! ## Where the player stands -/

/-- The player stands on an empty tile of the board, and not where the turret stands. -/
structure Placed (board : Board) : Prop where
  inside : board.Inside board.player.place
  free : board.tile? board.player.place = some .empty
  apart : board.player.place ≠ board.turret.place

namespace Placed

theorem act {action : Action} {result : Board × Effect} (placed : board.Placed)
    (acts : board.Acts action result) :
    result.1.Placed := by
  cases acts with
  | moved stepped apart free => exact ⟨inside_of_step stepped, free, apart⟩
  | blocked | clicked | shot | missed | struck | swung | reloaded =>
    exact ⟨placed.inside, placed.free, placed.apart⟩

theorem fire {result : Board × Option (Direction × Nat)} (placed : board.Placed)
    (fires : board.Fires result) :
    result.1.Placed := by
  cases fires <;> exact ⟨placed.inside, placed.free, placed.apart⟩

theorem perform (placed : board.Placed) (deed : Deed) : (board.perform deed).1.Placed := by
  cases deed with
  | act action => exact placed.act (board.acts_act action)
  | turretFire => exact placed.fire board.fires_turretFire
  | detect | look | render => exact placed

end Placed

theorem placed_of_deal {setup : Setup} {picks : Nat → List Nat}
    (dealt : deal setup picks = .ok board) :
    board.Placed := by
  obtain ⟨player, turret, obstacles, handed, rfl⟩ := exists_of_deal dealt
  obtain ⟨playerPlace, turretPlace⟩ := places_blockAll setup.size player turret obstacles
  obtain ⟨inside, free⟩ := handed.free (.inl rfl)
  refine ⟨?_, ?_, ?_⟩
  · rw [playerPlace]
    exact inside
  · rw [playerPlace]
    exact free
  · rw [playerPlace, turretPlace]
    rintro rfl
    exact (List.nodup_cons.mp handed.apart).1 List.mem_cons_self

/-- Whatever is done on a dealt board, and however often:
* the player stands on the board, on an empty tile, and not where the turret stands;
* the turret stands where it stood, and the tiles are what they were;
* a move takes the player to the diagonal neighbour, or it is blocked and leaves the whole board as
  it is;
* no deed reads a tile beyond the last one. -/
theorem deeds_safe {setup : Setup} {picks : Nat → List Nat} {board : Board}
    (dealt : deal setup picks = .ok board) (deeds : List Deed) :
    ((board.afterAll deeds).Inside (board.afterAll deeds).player.place ∧
      (board.afterAll deeds).tile (board.afterAll deeds).player.place = .ok .empty ∧
      (board.afterAll deeds).player.place ≠ (board.afterAll deeds).turret.place) ∧
    ((board.afterAll deeds).turret.place = board.turret.place ∧
      board.afterAll deeds =
        { board with
          player := (board.afterAll deeds).player, turret := (board.afterAll deeds).turret }) ∧
    (∀ direction,
      (∃ target, Away direction 1 (board.afterAll deeds).player.place target ∧
        (board.afterAll deeds).move direction =
          ({ board.afterAll deeds with player.place := target }, .moved target)) ∨
      (board.afterAll deeds).move direction = (board.afterAll deeds, .blocked)) ∧
    (∀ deed, (board.afterAll deeds).performChecked deed =
      .ok ((board.afterAll deeds).perform deed)) := by
  have placed : (board.afterAll deeds).Placed :=
    afterAll_keeps (fun deed placed => placed.perform deed) (placed_of_deal dealt) deeds
  have frames := board.frames_afterAll deeds
  refine ⟨⟨placed.inside, ?_, placed.apart⟩, ⟨frames.turret, frames.tiles⟩, ?_,
    performChecked_eq _⟩
  · rw [tile, placed.free]
  · intro direction
    have acts := acts_move (board.afterAll deeds) direction
    generalize (board.afterAll deeds).move direction = result at acts ⊢
    cases acts with
    | @moved _ target stepped _ _ => exact .inl ⟨target, (step_eq_some_iff.mp stepped).2, rfl⟩
    | blocked => exact .inr rfl

/-- On this board of nine tiles the player is first stopped by an obstacle and then goes to the
border. -/
theorem deeds_safe_small :
    ∃ board, deal ⟨3, 2⟩ (List.replicate · 0) = .ok board ∧
      (board.afterAll [.act (.move .downLeft), .act (.move .downRight)]).player.place =
        ⟨1, 2⟩ ∧
      (board.afterAll [.act (.move .downLeft), .act (.move .downRight)]).tile
        (board.afterAll [.act (.move .downLeft), .act (.move .downRight)]).player.place =
          .ok .empty ∧
      (board.afterAll [.act (.move .downLeft), .act (.move .downRight)]).performChecked
        (.look ⟨1, 2⟩ .downLeft) =
        .ok ((board.afterAll [.act (.move .downLeft), .act (.move .downRight)]).perform
          (.look ⟨1, 2⟩ .downLeft)) := by
  have dealt : deal ⟨3, 2⟩ (List.replicate · 0) =
      .ok ((bare 3 ⟨0, 1⟩ ⟨0, 2⟩).blockAll [⟨1, 0⟩, ⟨1, 1⟩]) := rfl
  obtain ⟨⟨-, empty, -⟩, -, -, checked⟩ :=
    deeds_safe dealt [.act (.move .downLeft), .act (.move .downRight)]
  exact ⟨_, dealt, by decide, empty, checked _⟩

end Board

end RobotScript.Duel
