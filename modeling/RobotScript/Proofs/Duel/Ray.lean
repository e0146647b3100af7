import RobotScript.Duel.Board

/-!
# Rays

`Board.look` searches the tiles of a ray. Here a ray is taken apart into its steps.

* `step_eq_some_iff`: a step leads to the diagonal neighbour, if that lies on the board.
  `step_opposite`: it can be taken back.
* `Reaches` says that a position is the next one on a ray at which nothing has been met before.
  `Reaches.opposite` turns such a way round, and `Reaches.away` gives its length.
* `look_eq_player_iff`, `look_eq_turret_iff`: a robot is seen exactly if the ray reaches it.
* `look_manned`: what is seen depends on where the robots stand, and on nothing else about them.
-/

namespace RobotScript

namespace Direction

/-- The direction back. -/
def opposite : Direction → Direction
  | upLeft => downRight
  | upRight => downLeft
  | downLeft => upRight
  | downRight => upLeft

@[simp] theorem opposite_opposite (direction : Direction) :
    direction.opposite.opposite = direction := by
  cases direction <;> rfl

@[simp] theorem rowStep_opposite (direction : Direction) :
    direction.opposite.rowStep = -direction.rowStep := by
  cases direction <;> rfl

@[simp] theorem columnStep_opposite (direction : Direction) :
    direction.opposite.columnStep = -direction.columnStep := by
  cases direction <;> rfl

theorem mem_all (direction : Direction) : direction ∈ all := by
  cases direction <;> decide

/-- Of a property that at most one direction has, a search finds that direction. -/
theorem find?_all_eq_some_iff {holds : Direction → Bool}
    (unique : ∀ {one other}, holds one = true → holds other = true → one = other)
    {direction : Direction} :
    all.find? holds = some direction ↔ holds direction = true := by
  constructor
  · exact List.find?_some
  · intro here
    cases found : all.find? holds with
    | none => exact absurd here (List.find?_eq_none.mp found direction direction.mem_all)
    | some other => rw [unique here (List.find?_some found)]

end Direction

namespace Duel

/-! ## Distances -/

/-- The second position is so many steps from the first one in a direction. -/
def Away (direction : Direction) (steps : Nat) (start target : Position) : Prop :=
  (target.row : Int) = start.row + steps * direction.rowStep ∧
    (target.column : Int) = start.column + steps * direction.columnStep

namespace Away

variable {direction : Direction} {start middle target : Position} {steps more : Nat}

theorem trans (here : Away direction steps start middle)
    (there : Away direction more middle target) :
    Away direction (steps + more) start target := by
  obtain ⟨row, column⟩ := here
  obtain ⟨nextRow, nextColumn⟩ := there
  rw [Away, nextRow, nextColumn, row, column, Int.natCast_add, Int.add_mul, Int.add_mul,
    Int.add_assoc, Int.add_assoc]
  exact ⟨rfl, rfl⟩

theorem opposite (away : Away direction steps start target) :
    Away direction.opposite steps target start := by
  obtain ⟨row, column⟩ := away
  rw [Away, Direction.rowStep_opposite, Direction.columnStep_opposite, row, column,
    Int.mul_neg, Int.mul_neg, Int.add_neg_cancel_right, Int.add_neg_cancel_right]
  exact ⟨rfl, rfl⟩

/-- Two ways to the same place, of at least one step, have the same direction and the same
length. -/
theorem unique {other : Direction} (away : Away direction (steps + 1) start target)
    (also : Away other (more + 1) start target) : direction = other ∧ steps = more := by
  obtain ⟨row, column⟩ := away
  obtain ⟨sameRow, sameColumn⟩ := also
  cases direction <;> cases other <;>
    simp only [Direction.rowStep, Direction.columnStep, reduceCtorEq, false_and, true_and] at * <;>
      omega

theorem ne (away : Away direction (steps + 1) start target) : start ≠ target := by
  rintro rfl
  obtain ⟨row, -⟩ := away
  cases direction <;> simp only [Direction.rowStep] at row <;> omega

end Away

namespace Board

variable {board : Board} {start next middle target : Position} {direction : Direction}

/-! ## Steps -/

/-- A step leads to the diagonal neighbour, if that lies on the board. -/
theorem step_eq_some_iff : board.step start direction = some target ↔
    board.Inside target ∧ Away direction 1 start target := by
  unfold step Inside Away
  obtain ⟨row, column⟩ := target
  simp only [Option.ite_none_right_eq_some, Option.some.injEq, Position.mk.injEq]
  omega

/-- A step on the board can be taken back. -/
theorem step_opposite (inside : board.Inside start)
    (stepped : board.step start direction = some next) :
    board.step next direction.opposite = some start :=
  step_eq_some_iff.mpr ⟨inside, (step_eq_some_iff.mp stepped).2.opposite⟩

theorem inside_of_step (stepped : board.step start direction = some next) : board.Inside next :=
  (step_eq_some_iff.mp stepped).1

theorem ray_of_none (last : board.step start direction = none) :
    board.ray start direction = [] := by
  rw [ray]
  split
  · rfl
  · next stepped => rw [last] at stepped; cases stepped

theorem ray_of_some (stepped : board.step start direction = some next) :
    board.ray start direction = next :: board.ray next direction := by
  rw [ray]
  split
  · next last => rw [stepped] at last; cases last
  · next other found =>
    rw [stepped] at found
    cases found
    rfl

/-! ## Ways along a ray -/

/-- The target stands on the ray from a position, and nothing stands on the tiles before it. -/
inductive Reaches (board : Board) (direction : Direction) : Position → Position → Prop
  | next {start target : Position} (stepped : board.step start direction = some target) :
      Reaches board direction start target
  | further {start next target : Position} (stepped : board.step start direction = some next)
      (free : board.occupant? next = none) (later : Reaches board direction next target) :
      Reaches board direction start target

namespace Reaches

/-- A way goes one step further if nothing stands where it ended. -/
theorem snoc (reaches : board.Reaches direction start middle) (free : board.occupant? middle = none)
    (stepped : board.step middle direction = some target) :
    board.Reaches direction start target := by
  induction reaches with
  | next first => exact .further first free (.next stepped)
  | further first empty later ih => exact .further first empty (ih free stepped)

/-- A way can be gone in the opposite direction. -/
theorem opposite (inside : board.Inside start) (reaches : board.Reaches direction start target) :
    board.Reaches direction.opposite target start := by
  -- The first step of the way is the last one of the way back, so that the latter grows at its end.
  induction reaches with
  | next stepped => exact .next (step_opposite inside stepped)
  | further stepped free later ih =>
    exact (ih (inside_of_step stepped)).snoc free (step_opposite inside stepped)

theorem away (reaches : board.Reaches direction start target) :
    ∃ steps, Away direction (steps + 1) start target := by
  induction reaches with
  | next stepped => exact ⟨0, (step_eq_some_iff.mp stepped).2⟩
  | further stepped free later ih =>
    obtain ⟨steps, away⟩ := ih
    exact ⟨1 + steps, (step_eq_some_iff.mp stepped).2.trans away⟩

end Reaches

/-! ## What is seen -/

theorem look_of_none (last : board.step start direction = none) :
    board.look start direction = .edge := by
  rw [look, ray_of_none last]
  rfl

theorem look_of_free (stepped : board.step start direction = some next)
    (free : board.occupant? next = none) :
    board.look start direction = board.look next direction := by
  rw [look, ray_of_some stepped, List.findSome?_cons, free]
  rfl

theorem look_of_occupied {sight : Sight} (stepped : board.step start direction = some next)
    (occupied : board.occupant? next = some sight) : board.look start direction = sight := by
  rw [look, ray_of_some stepped, List.findSome?_cons, occupied]
  rfl

/-- What the ray reaches is seen. -/
theorem Reaches.look_eq {sight : Sight} (reaches : board.Reaches direction start target)
    (occupied : board.occupant? target = some sight) : board.look start direction = sight := by
  induction reaches with
  | next stepped => exact look_of_occupied stepped occupied
  | further stepped free later ih =>
    rw [look_of_free stepped free]
    exact ih occupied

/-- What is seen is the border, or something that the ray reaches. -/
theorem look_cases (board : Board) (start : Position) (direction : Direction) :
    (board.look start direction = .edge ∧ ∀ target, board.Reaches direction start target →
      board.occupant? target = none) ∨
      ∃ target, board.Reaches direction start target ∧
        board.occupant? target = some (board.look start direction) := by
  induction start using ray.induct board direction with
  | case1 start last =>
    refine .inl ⟨look_of_none last, fun target reaches => ?_⟩
    cases reaches with
    | next stepped | further stepped => rw [last] at stepped; cases stepped
  | case2 start next stepped _ ih =>
    cases standing : board.occupant? next with
    | some sight =>
      exact .inr ⟨next, .next stepped, by rw [look_of_occupied stepped standing, standing]⟩
    | none =>
      rw [look_of_free stepped standing]
      rcases ih with ⟨edge, empty⟩ | ⟨target, reaches, occupied⟩
      · refine .inl ⟨edge, fun target reaches => ?_⟩
        cases reaches with
        | next first =>
          rw [stepped] at first
          cases first
          exact standing
        | further first _ later =>
          rw [stepped] at first
          cases first
          exact empty target later
      · exact .inr ⟨target, .further stepped standing reaches, occupied⟩

theorem look_eq_iff {sight : Sight} (seen : sight ≠ .edge) :
    board.look start direction = sight ↔
      ∃ target, board.Reaches direction start target ∧ board.occupant? target = some sight := by
  constructor
  · rintro rfl
    rcases board.look_cases start direction with ⟨edge, -⟩ | found
    · exact absurd edge seen
    · exact found
  · rintro ⟨target, reaches, occupied⟩
    exact reaches.look_eq occupied

/-- What stands at a position: the player, or else the turret, or else an obstacle. -/
theorem occupant?_eq_some_iff {sight : Sight} :
    board.occupant? target = some sight ↔
      target = board.player.place ∧ sight = .player target ∨
      target ≠ board.player.place ∧ target = board.turret.place ∧ sight = .turret target ∨
      target ≠ board.player.place ∧ target ≠ board.turret.place ∧
      board.tile? target = some .obstacle ∧
        sight = .obstacle target := by
  unfold occupant?
  by_cases player : target = board.player.place
  · simp [player, eq_comm]
  · rw [if_neg player]
    by_cases turret : target = board.turret.place
    · subst turret
      simpa [player] using eq_comm
    · simp [player, turret, eq_comm]

/-- The player is seen exactly if the ray reaches it. -/
theorem look_eq_player_iff :
    board.look start direction = .player target ↔
      board.Reaches direction start target ∧ target = board.player.place := by
  rw [look_eq_iff Sight.noConfusion]
  constructor
  · rintro ⟨reached, reaches, occupied⟩
    rcases occupant?_eq_some_iff.mp occupied with ⟨here, same⟩ | ⟨-, -, same⟩ |
      ⟨-, -, -, same⟩ <;> cases same
    exact ⟨reaches, here⟩
  · rintro ⟨reaches, here⟩
    exact ⟨target, reaches, occupant?_eq_some_iff.mpr (.inl ⟨here, rfl⟩)⟩

/-- The turret is seen exactly if the ray reaches it, unless the player stands there. -/
theorem look_eq_turret_iff :
    board.look start direction = .turret target ↔
      board.Reaches direction start target ∧ target = board.turret.place ∧
        target ≠ board.player.place := by
  rw [look_eq_iff Sight.noConfusion]
  constructor
  · rintro ⟨reached, reaches, occupied⟩
    rcases occupant?_eq_some_iff.mp occupied with ⟨-, same⟩ | ⟨apart, here, same⟩ |
      ⟨-, -, -, same⟩ <;> cases same
    exact ⟨reaches, here, apart⟩
  · rintro ⟨reaches, here, apart⟩
    exact ⟨target, reaches, occupant?_eq_some_iff.mpr (.inr (.inl ⟨apart, here, rfl⟩))⟩

/-! ## Other robots on the same tiles -/

/-- The same tiles with other robots. -/
def manned (board : Board) (player turret : Fighter) : Board :=
  { board with player, turret }

section Manned

variable {player turret : Fighter}

@[simp] theorem player_manned : (board.manned player turret).player = player := rfl

@[simp] theorem turret_manned : (board.manned player turret).turret = turret := rfl

@[simp] theorem step_manned : (board.manned player turret).step = board.step := rfl

@[simp] theorem tile?_manned : (board.manned player turret).tile? = board.tile? := rfl

theorem ray_manned :
    (board.manned player turret).ray start direction = board.ray start direction := by
  induction start using ray.induct board direction with
  | case1 start last => rw [ray_of_none last, ray_of_none (by rwa [step_manned])]
  | case2 start next stepped _ ih =>
    rw [ray_of_some stepped, ray_of_some (by rwa [step_manned]), ih]

/-- What is seen depends on where the robots stand, and on nothing else about them. -/
theorem look_manned (samePlayer : player.place = board.player.place)
    (sameTurret : turret.place = board.turret.place) :
    (board.manned player turret).look = board.look := by
  have same : (board.manned player turret).occupant? = board.occupant? := by
    funext position
    unfold occupant?
    rw [tile?_manned, player_manned, turret_manned, samePlayer, sameTurret]
  funext start direction
  rw [look, look, ray_manned, same]

end Manned

end Board

end Duel

end RobotScript
