import RobotScript.Duel.Setup

/-!
# Dealt boards

The tiles of a board are dealt to the robots and the obstacles like shuffled cards.

* `index_lt`, `index_inj`: the positions on a board have different indices, and each is one of a
  tile.
* `shuffle_perm`: whatever the picks, a shuffle only changes the order.
* `tile?_blockAll`: the positions at which obstacles are placed are blocked, and the others are as
  before.
* `count_blockAll`: obstacles on different free tiles are counted one by one.

`exists_of_deal` says what a dealt board is: robots and obstacles stand on different tiles.
`deal_layout` says when a board is dealt, and what its layout is.
-/

namespace RobotScript

namespace Random

variable {α : Type}

theorem swapIfInBounds_perm (items : Array α) (one other : Nat) :
    (items.swapIfInBounds one other).Perm items := by
  rw [Array.swapIfInBounds_def]
  split
  · split
    · exact Array.swap_perm _ _
    · exact .refl _
  · exact .refl _

theorem swapDown_perm (last : Nat) (picks : List Nat) (items : Array α) :
    (swapDown last picks items).Perm items := by
  fun_induction swapDown last picks items with
  | case1 last pick picks items ih => exact ih.trans (swapIfInBounds_perm ..)
  | case2 => exact .refl _

/-- A shuffle changes the order only. -/
theorem shuffle_perm (items : List α) (picks : List Nat) : (shuffle items picks).Perm items :=
  (swapDown_perm _ picks items.toArray).toList

end Random

namespace Duel

/-! ## Positions -/

theorem mem_positions {size : Nat} {position : Position} :
    position ∈ positions size ↔ position.row < size ∧ position.column < size := by
  obtain ⟨row, column⟩ := position
  simp only [positions, List.mem_flatMap, List.mem_map, List.mem_range, Position.mk.injEq]
  constructor
  · rintro ⟨_, row, _, column, rfl, rfl⟩
    exact ⟨row, column⟩
  · rintro ⟨inRow, inColumn⟩
    exact ⟨row, inRow, column, inColumn, rfl, rfl⟩

theorem length_positions (size : Nat) : (positions size).length = size * size := by
  simp [positions, List.length_flatMap, List.map_const']

theorem nodup_positions (size : Nat) : (positions size).Nodup := by
  refine List.pairwise_flatMap.mpr ⟨fun row _ => ?_, ?_⟩
  · refine List.pairwise_map.mpr (List.Pairwise.imp ?_ List.nodup_range)
    intro one other apart same
    exact apart (congrArg Position.column same)
  · refine List.Pairwise.imp ?_ List.nodup_range
    intro one other apart first inFirst second inSecond same
    obtain ⟨_, -, rfl⟩ := List.mem_map.mp inFirst
    obtain ⟨_, -, rfl⟩ := List.mem_map.mp inSecond
    exact apart (congrArg Position.row same)

namespace Board

variable {board : Board} {position other : Position}

/-- A position on the board has the index of a tile. -/
theorem index_lt (inside : board.Inside position) :
    board.index position < board.size * board.size :=
  calc position.row * board.size + position.column
    _ < position.row * board.size + board.size := Nat.add_lt_add_left inside.2 _
    _ = (position.row + 1) * board.size := (Nat.succ_mul ..).symm
    _ ≤ board.size * board.size := Nat.mul_le_mul_right _ inside.1

theorem index_div (inside : board.Inside position) :
    board.index position / board.size = position.row := by
  have positive : 0 < board.size := Nat.zero_lt_of_lt inside.1
  rw [index, Nat.mul_comm, Nat.mul_add_div positive, Nat.div_eq_of_lt inside.2, Nat.add_zero]

theorem index_mod (inside : board.Inside position) :
    board.index position % board.size = position.column := by
  rw [index, Nat.mul_comm, Nat.mul_add_mod, Nat.mod_eq_of_lt inside.2]

/-- Different positions on the board have different indices. -/
theorem index_inj (inside : board.Inside position) (also : board.Inside other) :
    board.index position = board.index other ↔ position = other := by
  refine ⟨fun same => ?_, congrArg board.index⟩
  have row : position.row = other.row := by rw [← index_div inside, ← index_div also, same]
  have column : position.column = other.column := by
    rw [← index_mod inside, ← index_mod also, same]
  obtain ⟨_, _⟩ := position
  exact congr (congrArg Position.mk row) column

/-! ## Obstacles -/

theorem tile?_bare {size : Nat} {player turret : Position}
    (inside : (bare size player turret).Inside position) :
    (bare size player turret).tile? position = some .empty := by
  show (Vector.replicate (size * size) Tile.empty)[(bare size player turret).index position]? = _
  rw [Vector.getElem?_replicate]
  exact if_pos (index_lt inside)

theorem tile?_block (inside : board.Inside position) (also : board.Inside other) :
    (board.block other).tile? position = if position = other then some .obstacle else
      board.tile? position := by
  show (board.tiles.setIfInBounds (board.index other) .obstacle)[board.index position]? = _
  split
  · next here =>
    rw [here, Vector.getElem?_setIfInBounds_self, if_pos (index_lt also)]
  · next elsewhere =>
    have apart : board.index other ≠ board.index position :=
      fun same => elsewhere ((index_inj inside also).mp same.symm)
    exact Vector.getElem?_setIfInBounds_ne apart

/-- The board with obstacles at some positions. -/
def blockAll (board : Board) (obstacles : List Position) : Board :=
  obstacles.foldl block board

/-- Obstacles change nothing but the tiles. -/
theorem blockAll_fields (board : Board) (obstacles : List Position) :
    (board.blockAll obstacles).size = board.size ∧
      (board.blockAll obstacles).player = board.player ∧
      (board.blockAll obstacles).turret = board.turret := by
  induction obstacles generalizing board with
  | nil => exact ⟨rfl, rfl, rfl⟩
  | cons obstacle obstacles ih => exact ih (board.block obstacle)

/-- The positions at which obstacles are placed are blocked, and the others are as before. -/
theorem tile?_blockAll {obstacles : List Position} (inside : board.Inside position)
    (placed : ∀ obstacle ∈ obstacles, board.Inside obstacle) :
    (board.blockAll obstacles).tile? position =
      if position ∈ obstacles then some .obstacle else board.tile? position := by
  induction obstacles generalizing board with
  | nil => simp [blockAll]
  | cons obstacle obstacles ih =>
    have later : ∀ other ∈ obstacles, (board.block obstacle).Inside other :=
      fun other member => placed other (List.mem_cons_of_mem _ member)
    have here := tile?_block inside (placed obstacle List.mem_cons_self)
    show ((board.block obstacle).blockAll obstacles).tile? position = _
    rw [ih (by exact inside) later, here]
    by_cases first : position = obstacle <;> by_cases rest : position ∈ obstacles <;>
      simp [first, rest]

/-! ## Dealing -/

/-- Robots and obstacles that are dealt for a setup stand on different tiles of the board. -/
structure Dealt (setup : Setup) (player turret : Position) (obstacles : List Position) : Prop where
  apart : (player :: turret :: obstacles).Nodup
  inside : ∀ position ∈ player :: turret :: obstacles, position.row < setup.size ∧
    position.column < setup.size

/-- Of shuffled tiles the first ones are dealt. -/
theorem dealt_of_perm {setup : Setup} {player turret : Position} {rest : List Position}
    (order : (player :: turret :: rest).Perm (positions setup.size)) :
    Dealt setup player turret (rest.take setup.obstacles) := by
  have handed :
      (player :: turret :: rest.take setup.obstacles).Sublist (player :: turret :: rest) :=
    ((List.take_sublist _ _).cons_cons _).cons_cons _
  refine ⟨?_, ?_⟩
  · exact (order.nodup_iff.mpr (nodup_positions _)).sublist handed
  · intro position member
    exact mem_positions.mp (order.mem_iff.mp (handed.subset member))

/-- A dealt board is a bare one with obstacles, all on different tiles. -/
theorem exists_of_deal {setup : Setup} {picks : Nat → List Nat}
    (dealt : deal setup picks = .ok board) :
    ∃ player turret obstacles, Dealt setup player turret obstacles ∧
      board = (bare setup.size player turret).blockAll obstacles := by
  unfold deal at dealt
  split at dealt
  · cases dealt
  · have order := Random.shuffle_perm (positions setup.size) (picks (setup.size * setup.size - 1))
    generalize Random.shuffle (positions setup.size) (picks (setup.size * setup.size - 1)) =
      tiles at dealt order
    split at dealt
    · next player turret rest =>
      cases dealt
      exact ⟨player, turret, rest.take setup.obstacles, dealt_of_perm order, rfl⟩
    · cases dealt

theorem places_blockAll (size : Nat) (player turret : Position) (obstacles : List Position) :
    ((bare size player turret).blockAll obstacles).player.place = player ∧
      ((bare size player turret).blockAll obstacles).turret.place = turret := by
  obtain ⟨-, samePlayer, sameTurret⟩ := blockAll_fields (bare size player turret) obstacles
  rw [samePlayer, sameTurret]
  exact ⟨rfl, rfl⟩

/-- No obstacle is dealt the tile of a robot. -/
theorem Dealt.free {setup : Setup} {player turret : Position} {obstacles : List Position}
    (dealt : Dealt setup player turret obstacles)
    (robot : position = player ∨ position = turret) :
    ((bare setup.size player turret).blockAll obstacles).Inside position ∧
      ((bare setup.size player turret).blockAll obstacles).tile? position = some .empty := by
  have here : (bare setup.size player turret).Inside position :=
    dealt.inside position (by simp [← or_assoc, robot])
  have placed : ∀ obstacle ∈ obstacles, (bare setup.size player turret).Inside obstacle :=
    fun obstacle member => dealt.inside obstacle (by simp [member])
  have clear : position ∉ obstacles := by
    obtain ⟨notPlayer, apart⟩ := List.nodup_cons.mp dealt.apart
    rcases robot with rfl | rfl
    · exact fun member => notPlayer (List.mem_cons_of_mem _ member)
    · exact (List.nodup_cons.mp apart).1
  refine ⟨?_, ?_⟩
  · rw [Inside, (blockAll_fields _ obstacles).1]
    exact here
  · rw [tile?_blockAll here placed, if_neg clear, tile?_bare here]

/-! ## Layouts -/

/-- An obstacle on a free tile is one more. -/
theorem count_block (inside : board.Inside position) (free : board.tile? position = some .empty) :
    (board.block position).tiles.count .obstacle = board.tiles.count .obstacle + 1 := by
  have bound := index_lt inside
  obtain ⟨_, empty⟩ := Vector.getElem?_eq_some_iff.mp free
  have placed : board.tiles.setIfInBounds (board.index position) .obstacle =
      board.tiles.set (board.index position) .obstacle bound := by
    simp [Vector.setIfInBounds, Vector.set, Array.setIfInBounds, bound]
  show (board.tiles.setIfInBounds (board.index position) .obstacle).count .obstacle = _
  rw [placed, Vector.count_set, empty]
  rfl

/-- Obstacles on different free tiles are counted one by one. -/
theorem count_blockAll {obstacles : List Position} (apart : obstacles.Nodup)
    (free : ∀ obstacle ∈ obstacles, board.Inside obstacle ∧
      board.tile? obstacle = some .empty) :
    (board.blockAll obstacles).tiles.count .obstacle =
      board.tiles.count .obstacle + obstacles.length := by
  induction obstacles generalizing board with
  | nil => rfl
  | cons obstacle obstacles ih =>
    obtain ⟨other, apart⟩ := List.nodup_cons.mp apart
    obtain ⟨⟨inside, empty⟩, free⟩ := List.forall_mem_cons.mp free
    have later : ∀ next ∈ obstacles, (board.block obstacle).Inside next ∧
        (board.block obstacle).tile? next = some .empty := by
      intro next member
      obtain ⟨there, blank⟩ := free next member
      have differs : next ≠ obstacle := fun same => other (same ▸ member)
      exact ⟨there, by rw [tile?_block there inside, if_neg differs, blank]⟩
    show ((board.block obstacle).blockAll obstacles).tiles.count .obstacle = _
    rw [ih apart later, count_block inside empty, List.length_cons]
    omega

/-- The board has the size of the setup and new robots on their tiles. The tiles of the obstacles
are blocked, as many as the setup asks for, and all others are empty. -/
structure LaidOut (board : Board) (setup : Setup) (player turret : Position)
    (obstacles : List Position) : Prop where
  size : board.size = setup.size
  player : board.player = .player player
  turret : board.turret = .turret turret
  tiles : ∀ position, board.Inside position →
    board.tile? position = some (if position ∈ obstacles then .obstacle else .empty)
  count : board.tiles.count .obstacle = setup.obstacles

/-- What is dealt and not more than asked for lies on the board like that. -/
theorem Dealt.laidOut {setup : Setup} {player turret : Position} {obstacles : List Position}
    (dealt : Dealt setup player turret obstacles) (enough : obstacles.length = setup.obstacles) :
    ((bare setup.size player turret).blockAll obstacles).LaidOut setup player turret obstacles := by
  obtain ⟨size, samePlayer, sameTurret⟩ :=
    blockAll_fields (bare setup.size player turret) obstacles
  have placed : ∀ obstacle ∈ obstacles, (bare setup.size player turret).Inside obstacle :=
    fun obstacle member =>
      dealt.inside obstacle (List.mem_cons_of_mem _ (List.mem_cons_of_mem _ member))
  refine ⟨size, samePlayer, sameTurret, ?_, ?_⟩
  · intro position inside
    have here : (bare setup.size player turret).Inside position := by
      rw [Inside, size] at inside
      exact inside
    rw [tile?_blockAll here placed, tile?_bare here]
    split
    · rfl
    · rfl
  · have apart : obstacles.Nodup := (List.nodup_cons.mp (List.nodup_cons.mp dealt.apart).2).2
    rw [count_blockAll apart fun obstacle member =>
      ⟨placed obstacle member, tile?_bare (placed obstacle member)⟩, enough]
    have none : (bare setup.size player turret).tiles.count .obstacle = 0 := Vector.count_replicate
    rw [none, Nat.zero_add]

/-- Whatever the picks of the shuffle, a board is refused exactly when it has fewer tiles than
robots and obstacles. Otherwise the first tiles of the shuffled ones are handed out to the player,
the turret and the obstacles. They are different tiles of the board, and the board is laid out with
them. -/
theorem deal_layout (setup : Setup) (picks : Nat → List Nat) :
    (setup.size * setup.size < setup.obstacles + 2 ∧
      deal setup picks = .error ⟨setup.size, setup.obstacles⟩) ∨
    (setup.obstacles + 2 ≤ setup.size * setup.size ∧ ∃ board player turret obstacles,
      deal setup picks = .ok board ∧
      (Random.shuffle (positions setup.size) (picks (setup.size * setup.size - 1))).take
        (setup.obstacles + 2) = player :: turret :: obstacles ∧
      Dealt setup player turret obstacles ∧ board.LaidOut setup player turret obstacles) := by
  unfold deal
  split
  · next crowded => exact .inl ⟨crowded, rfl⟩
  · next room =>
    have order := Random.shuffle_perm (positions setup.size) (picks (setup.size * setup.size - 1))
    have fits := order.length_eq
    rw [length_positions] at fits
    generalize Random.shuffle (positions setup.size) (picks (setup.size * setup.size - 1)) =
      tiles at order fits ⊢
    match tiles with
    | [] | [_] =>
      simp only [List.length_nil, List.length_singleton] at fits
      omega
    | player :: turret :: rest =>
      have dealt := dealt_of_perm order
      have enough : (rest.take setup.obstacles).length = setup.obstacles := by
        simp only [List.length_cons] at fits
        rw [List.length_take]
        omega
      exact .inr ⟨Nat.not_lt.mp room, _, player, turret, _, rfl, rfl, dealt,
        dealt.laidOut enough⟩

end Board

end Duel

end RobotScript
