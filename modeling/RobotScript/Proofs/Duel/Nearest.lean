import RobotScript.Proofs.Duel.Safety

/-!
# The nearest thing on a ray

`Board.look` is described here without its search. The tiles of the ray from a position are those a
number of steps away from it, as far as the board goes (`mem_ray_iff`). `Holds` says what stands on
a tile, and `Nearest` that nothing stands on the tiles before it.

* `reaches_iff`: a ray that starts on the board reaches the tiles with nothing before them.
* `look_eq_iff_nearest`: what is seen is what stands on the nearest tile that is taken.
* `look_eq_edge_iff`: the border is seen exactly if all tiles of the ray are free.
* `walk_eq`: a walk that reads tile after tile by its index ends with what is seen.

`look_nearest` puts these together.
-/

namespace RobotScript.Duel

/-- Where the thing stands that is seen. -/
def Sight.place? : Sight → Option Position
  | player position | turret position | obstacle position => some position
  | edge => none

/-! ## Ways of a given length -/

namespace Away

variable {direction : Direction} {start next target other : Position} {steps : Nat}

theorem refl (direction : Direction) (start : Position) : Away direction 0 start start := by
  simp [Away]

/-- There is one place at most that is so many steps away. -/
theorem target_eq (away : Away direction steps start target)
    (also : Away direction steps start other) : target = other := by
  have row : target.row = other.row := Int.ofNat_inj.mp (away.1.trans also.1.symm)
  have column : target.column = other.column := Int.ofNat_inj.mp (away.2.trans also.2.symm)
  obtain ⟨_, _⟩ := target
  exact congr (congrArg Position.mk row) column

/-- What is left of a way after its first step. -/
theorem tail (first : Away direction 1 start next)
    (away : Away direction (steps + 1) start target) :
    Away direction steps next target := by
  obtain ⟨row, column⟩ := away
  obtain ⟨nextRow, nextColumn⟩ := first
  cases direction <;> simp only [Away, Direction.rowStep, Direction.columnStep] at * <;> omega

end Away

namespace Board

variable {board : Board} {direction : Direction} {start next target : Position}
  {sight : Sight} {steps : Nat}

/-- A way that starts and ends on the board goes over the board. -/
theorem exists_step (inside : board.Inside start) (ends : board.Inside target)
    (away : Away direction (steps + 1) start target) :
    ∃ next, board.step start direction = some next ∧ Away direction steps next target := by
  have room : ∃ next, board.Inside next ∧ Away direction 1 start next := by
    refine ⟨⟨(start.row + direction.rowStep).toNat,
      (start.column + direction.columnStep).toNat⟩, ?_⟩
    obtain ⟨row, column⟩ := away
    unfold Inside at *
    cases direction <;> simp only [Away, Direction.rowStep, Direction.columnStep] at * <;> omega
  obtain ⟨next, there, first⟩ := room
  exact ⟨next, step_eq_some_iff.mpr ⟨there, first⟩, first.tail away⟩

/-! ## The tiles of a ray -/

/-- The tiles of a ray are those so many steps away, as far as the board goes. -/
theorem mem_ray_iff (inside : board.Inside start) :
    target ∈ board.ray start direction ↔
      board.Inside target ∧ ∃ steps, Away direction (steps + 1) start target := by
  constructor
  · intro member
    refine ⟨inside_of_mem_ray member, ?_⟩
    clear inside
    induction start using ray.induct board direction with
    | case1 start last =>
      rw [ray_of_none last] at member
      cases member
    | case2 start next stepped _ ih =>
      have first := (step_eq_some_iff.mp stepped).2
      rw [ray_of_some stepped] at member
      cases member with
      | head => exact ⟨0, first⟩
      | tail _ later =>
        obtain ⟨steps, away⟩ := ih later
        exact ⟨1 + steps, first.trans away⟩
  · rintro ⟨ends, steps, away⟩
    induction steps generalizing start with
    | zero =>
      rw [ray_of_some (step_eq_some_iff.mpr ⟨ends, away⟩)]
      exact List.mem_cons_self
    | succ steps ih =>
      obtain ⟨next, stepped, later⟩ := exists_step inside ends away
      rw [ray_of_some stepped]
      exact List.mem_cons_of_mem _ (ih (inside_of_step stepped) later)

/-- A ray ends on the board, after as many steps as it has tiles. -/
theorem exists_end_of_ray (inside : board.Inside start) (direction : Direction) :
    ∃ last, board.Inside last ∧
      Away direction (board.ray start direction).length start last := by
  induction start using ray.induct board direction with
  | case1 start last =>
    rw [ray_of_none last]
    exact ⟨start, inside, .refl direction start⟩
  | case2 start next stepped _ ih =>
    obtain ⟨last, there, away⟩ := ih (inside_of_step stepped)
    rw [ray_of_some stepped, List.length_cons, Nat.add_comm]
    exact ⟨last, there, (step_eq_some_iff.mp stepped).2.trans away⟩

/-- A ray that starts on the board has fewer tiles than the board has rows. -/
theorem length_ray_lt (inside : board.Inside start) (direction : Direction) :
    (board.ray start direction).length < board.size := by
  obtain ⟨last, ends, row, -⟩ := exists_end_of_ray inside direction
  unfold Inside at inside ends
  cases direction <;> simp only [Direction.rowStep] at row <;> omega

/-! ## What stands on a tile -/

/-- What stands on a tile: the player, or else the turret, or else an obstacle. -/
inductive Holds (board : Board) (position : Position) : Sight → Prop
  | player (here : position = board.player.place) : Holds board position (.player position)
  | turret (here : position = board.turret.place) (noPlayer : position ≠ board.player.place) :
      Holds board position (.turret position)
  | obstacle (blocked : board.tile position = .ok .obstacle)
      (noPlayer : position ≠ board.player.place) (noTurret : position ≠ board.turret.place) :
      Holds board position (.obstacle position)

theorem tile_eq_ok_iff {position : Position} {tile : Tile} :
    board.tile position = .ok tile ↔ board.tile? position = some tile := by
  unfold Board.tile
  cases board.tile? position <;> simp

theorem holds_iff {position : Position} :
    board.Holds position sight ↔ board.occupant? position = some sight := by
  rw [occupant?_eq_some_iff]
  constructor
  · intro holds
    cases holds with
    | player here => exact .inl ⟨here, rfl⟩
    | turret here noPlayer => exact .inr (.inl ⟨noPlayer, here, rfl⟩)
    | obstacle blocked noPlayer noTurret =>
      exact .inr (.inr ⟨noPlayer, noTurret, tile_eq_ok_iff.mp blocked, rfl⟩)
  · rintro (⟨here, rfl⟩ | ⟨noPlayer, here, rfl⟩ | ⟨noPlayer, noTurret, blocked, rfl⟩)
    · exact .player here
    · exact .turret here noPlayer
    · exact .obstacle (tile_eq_ok_iff.mpr blocked) noPlayer noTurret

theorem free_iff {position : Position} :
    (∀ sight, ¬board.Holds position sight) ↔ board.occupant? position = none := by
  rw [Option.eq_none_iff_forall_ne_some]
  exact forall_congr' fun sight => not_congr holds_iff

theorem Holds.place_eq {position : Position} (holds : board.Holds position sight) :
    sight.place? = some position := by
  cases holds <;> rfl

/-! ## What is seen -/

/-- The target stands so many steps from the start, on the board. The thing stands there, and
nothing on the tiles before it. -/
structure Nearest (board : Board) (direction : Direction) (start : Position) (sight : Sight)
    (steps : Nat) (target : Position) :
    Prop where
  ahead : 1 ≤ steps
  away : Away direction steps start target
  inside : board.Inside target
  holds : board.Holds target sight
  first : ∀ fewer other, 1 ≤ fewer → fewer < steps → Away direction fewer start other →
    ∀ sight, ¬board.Holds other sight

/-- A ray reaches the tiles of the board with nothing before them. -/
theorem reaches_iff (inside : board.Inside start) :
    board.Reaches direction start target ↔
      board.Inside target ∧ ∃ steps, Away direction (steps + 1) start target ∧
      ∀ fewer < steps, ∀ other, Away direction (fewer + 1) start other →
        board.occupant? other = none := by
  constructor
  · intro reaches
    clear inside
    induction reaches with
    | next stepped =>
      obtain ⟨ends, away⟩ := step_eq_some_iff.mp stepped
      exact ⟨ends, 0, away, fun fewer less => absurd less (Nat.not_lt_zero _)⟩
    | further stepped free later ih =>
      have first := (step_eq_some_iff.mp stepped).2
      obtain ⟨ends, steps, away, clear⟩ := ih
      refine ⟨ends, 1 + steps, first.trans away, fun fewer less other there => ?_⟩
      cases fewer with
      | zero => rwa [there.target_eq first]
      | succ fewer => exact clear fewer (by omega) other (first.tail there)
  · rintro ⟨ends, steps, away, clear⟩
    induction steps generalizing start with
    | zero => exact .next (step_eq_some_iff.mpr ⟨ends, away⟩)
    | succ steps ih =>
      obtain ⟨next, stepped, later⟩ := exists_step inside ends away
      have first := (step_eq_some_iff.mp stepped).2
      refine .further stepped (clear 0 (Nat.succ_pos _) next first)
        (ih (inside_of_step stepped) later ?_)
      intro fewer less other there
      refine clear (fewer + 1) (Nat.succ_lt_succ less) other ?_
      rw [Nat.add_comm (fewer + 1)]
      exact first.trans there

/-- What is seen is what stands on the nearest tile that is taken. -/
theorem look_eq_iff_nearest (inside : board.Inside start) (seen : sight ≠ .edge) :
    board.look start direction = sight ↔
      ∃ steps target, board.Nearest direction start sight steps target := by
  rw [look_eq_iff seen]
  constructor
  · rintro ⟨target, reaches, occupied⟩
    obtain ⟨ends, steps, away, clear⟩ := (reaches_iff inside).mp reaches
    refine ⟨steps + 1, target, Nat.succ_pos _, away, ends, holds_iff.mpr occupied, ?_⟩
    intro fewer other positive less there
    obtain ⟨fewer, rfl⟩ := Nat.exists_eq_succ_of_ne_zero (Nat.ne_of_gt positive)
    exact free_iff.mpr (clear fewer (Nat.lt_of_succ_lt_succ less) other there)
  · rintro ⟨steps, target, ahead, away, ends, holds, first⟩
    obtain ⟨steps, rfl⟩ := Nat.exists_eq_succ_of_ne_zero (Nat.ne_of_gt ahead)
    refine ⟨target,
      (reaches_iff inside).mpr ⟨ends, steps, away, fun fewer less other there => ?_⟩,
        holds_iff.mp holds⟩
    exact free_iff.mp (first (fewer + 1) other (Nat.succ_pos _) (Nat.succ_lt_succ less) there)

/-- The border is seen exactly if nothing stands on the ray. -/
theorem look_eq_edge_iff (inside : board.Inside start) :
    board.look start direction = .edge ↔
      ∀ steps target sight, 1 ≤ steps → Away direction steps start target →
        board.Inside target → ¬board.Holds target sight := by
  have found : board.look start direction = .edge ↔ ∀ target ∈ board.ray start direction,
      board.occupant? target = none := by
    rw [← List.findSome?_eq_none_iff, look]
    cases occupied : (board.ray start direction).findSome? board.occupant? with
    | none => simp
    | some sight =>
      obtain ⟨target, -, here⟩ := List.exists_of_findSome?_eq_some occupied
      have place := (holds_iff.mpr here).place_eq
      simp only [Option.getD_some, reduceCtorEq, iff_false]
      rintro rfl
      cases place
  rw [found]
  constructor
  · intro free steps target sight ahead away ends
    obtain ⟨steps, rfl⟩ := Nat.exists_eq_succ_of_ne_zero (Nat.ne_of_gt ahead)
    exact free_iff.mpr (free target ((mem_ray_iff inside).mpr ⟨ends, steps, away⟩)) sight
  · intro free target member
    obtain ⟨ends, steps, away⟩ := (mem_ray_iff inside).mp member
    exact free_iff.mp fun sight => free (steps + 1) target sight (Nat.succ_pos _) away ends

/-! ## Walking along a ray -/

/-- A walk along a ray of so many rounds at most. A round takes a step and looks at the tile there,
which is read by its index if no robot stands on it. There is no result if the walk has not come to
an end. -/
def walk (board : Board) (direction : Direction) :
    Nat → Position → Except OffBoard (Option Sight)
  | 0, _ => .ok none
  | rounds + 1, position =>
    match board.step position direction with
    | none => .ok (some .edge)
    | some next => do
      match ← board.occupantChecked next with
      | some sight => return some sight
      | none => board.walk direction rounds next

/-- A walk with a round for each tile of the ray and one for the border ends with what is seen. -/
theorem walk_eq {rounds : Nat} (enough : (board.ray start direction).length < rounds) :
    board.walk direction rounds start = .ok (some (board.look start direction)) := by
  induction rounds generalizing start with
  | zero => exact absurd enough (Nat.not_lt_zero _)
  | succ rounds ih =>
    cases stepped : board.step start direction with
    | none => rw [walk, stepped, look_of_none stepped]
    | some next =>
      rw [ray_of_some stepped, List.length_cons] at enough
      simp only [walk, stepped, occupantChecked_eq (inside_of_step stepped)]
      cases standing : board.occupant? next with
      | some sight => rw [look_of_occupied stepped standing]; rfl
      | none =>
        rw [look_of_free stepped standing]
        exact ih (Nat.lt_of_succ_lt_succ enough)

/-- On every board, from every position on it and in every direction:
* a walk along the ray has come to an end after as many rounds as the board has rows, without an
  index that is too large, and what it finds is what is seen;
* a thing is seen exactly if it stands on the nearest tile of the ray that is taken;
* the border is seen exactly if nothing stands on the tiles of the ray, as far as the board goes;
* what stands at the start is not seen. -/
theorem look_nearest (board : Board) {start : Position} (inside : board.Inside start)
    (direction : Direction) :
    (∀ rounds, board.size ≤ rounds →
      board.walk direction rounds start = .ok (some (board.look start direction))) ∧
    (∀ sight, sight ≠ .edge →
      (board.look start direction = sight ↔
        ∃ steps target, board.Nearest direction start sight steps target)) ∧
    (board.look start direction = .edge ↔
      ∀ steps target sight, 1 ≤ steps → Away direction steps start target →
        board.Inside target → ¬board.Holds target sight) ∧
    (board.look start direction).place? ≠ some start := by
  refine ⟨?_, fun sight => look_eq_iff_nearest inside, look_eq_edge_iff inside, ?_⟩
  · intro rounds enough
    exact walk_eq (Nat.lt_of_lt_of_le (length_ray_lt inside direction) enough)
  · by_cases edge : board.look start direction = .edge
    · simp [edge, Sight.place?]
    · obtain ⟨steps, target, ahead, away, -, holds, -⟩ :=
        (look_eq_iff_nearest inside edge).mp rfl
      obtain ⟨steps, rfl⟩ := Nat.exists_eq_succ_of_ne_zero (Nat.ne_of_gt ahead)
      rw [holds.place_eq]
      exact fun same => away.ne (Option.some.inj same).symm

/-- A board with an obstacle between the robots. -/
def screened : Board := (bare 6 ⟨5, 0⟩ ⟨1, 4⟩).block ⟨3, 2⟩

/-- The player sees the obstacle two steps away and not the turret behind it. In the other direction
it sees the border. -/
theorem look_nearest_screened :
    screened.Inside screened.player.place ∧
    screened.look screened.player.place .upRight = .obstacle ⟨3, 2⟩ ∧
    screened.walk .upRight 6 screened.player.place = .ok (some (.obstacle ⟨3, 2⟩)) ∧
    screened.look screened.player.place .downLeft = .edge ∧
    (screened.look screened.turret.place .downLeft).place? ≠ some screened.turret.place := by
  have player : screened.Inside screened.player.place := by decide
  have turret : screened.Inside screened.turret.place := by decide
  obtain ⟨walks, nearest, -, -⟩ := look_nearest screened player .upRight
  have seen : screened.look screened.player.place .upRight = .obstacle ⟨3, 2⟩ := by
    refine (nearest _ Sight.noConfusion).mpr ⟨2, ⟨3, 2⟩, by decide,
      ⟨by decide, by decide⟩, by decide, .obstacle rfl (by decide) (by decide), ?_⟩
    intro fewer other positive less there
    obtain rfl : fewer = 1 := by omega
    have here : other = ⟨4, 1⟩ := there.target_eq ⟨by decide, by decide⟩
    exact free_iff.mpr (here ▸ by decide)
  refine ⟨player, seen, seen ▸ walks 6 (Nat.le_refl _), ?_,
    (look_nearest screened turret .downLeft).2.2.2⟩
  exact look_of_none (by decide)

end Board

end RobotScript.Duel
