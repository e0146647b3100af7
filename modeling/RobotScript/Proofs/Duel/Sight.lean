import RobotScript.Proofs.Duel.Combat

/-!
# Lines of sight

The player and the turret search the same diagonal from opposite ends. All that depends on it comes
down to one relation: the ray from the player reaches the turret.

* `playerSees_iff`, `turretSees_iff`: either robot sees the other one exactly if the ray reaches it.
* `detect_eq_some_iff`, `turretAim_eq_some_iff`: a search through all directions finds the only one.
* `hit_of_shoot_iff`, `detect_of_melee`: what an attack needs to hit.
* `turretAim_eq`: the turret aims in the direction from which it is detected.

`sight_symmetric` puts these together for boards on which both robots stand.
-/

namespace RobotScript.Duel

namespace Board

variable {board : Board} {direction : Direction}

/-! ## Seeing -/

theorem playerSees_iff :
    board.playerSees direction = true ↔
      board.Reaches direction board.player.place board.turret.place := by
  unfold playerSees
  constructor
  · intro sees
    cases seen : board.look board.player.place direction with
    | turret position =>
      obtain ⟨reaches, rfl, -⟩ := look_eq_turret_iff.mp seen
      exact reaches
    | player | obstacle | edge =>
      rw [seen] at sees
      cases sees
  · intro reaches
    obtain ⟨steps, away⟩ := reaches.away
    rw [look_eq_turret_iff.mpr ⟨reaches, rfl, away.ne.symm⟩]

theorem turretSees_iff :
    board.turretSees direction = true ↔
      board.Reaches direction board.turret.place board.player.place := by
  unfold turretSees
  constructor
  · intro sees
    cases seen : board.look board.turret.place direction with
    | player position =>
      obtain ⟨reaches, rfl⟩ := look_eq_player_iff.mp seen
      exact reaches
    | turret | obstacle | edge =>
      rw [seen] at sees
      cases sees
  · intro reaches
    rw [look_eq_player_iff.mpr ⟨reaches, rfl⟩]

/-- There is one direction at most in which a ray reaches a target. -/
theorem Reaches.direction_eq {other : Direction} {start target : Position}
    (reaches : board.Reaches direction start target) (also : board.Reaches other start target) :
    direction = other := by
  obtain ⟨steps, away⟩ := reaches.away
  obtain ⟨more, far⟩ := also.away
  exact (away.unique far).1

/-- The player sees the turret exactly in the direction opposite to that in which the turret sees
the player. -/
theorem reaches_opposite_iff (player : board.Inside board.player.place)
    (turret : board.Inside board.turret.place) :
    board.Reaches direction board.player.place board.turret.place ↔
      board.Reaches direction.opposite board.turret.place board.player.place := by
  constructor
  · exact .opposite player
  · intro reaches
    have back := reaches.opposite turret
    rwa [Direction.opposite_opposite] at back

/-! ## Searching -/

theorem detect_eq_some_iff :
    board.detect = some direction ↔
      board.Reaches direction board.player.place board.turret.place := by
  rw [← playerSees_iff]
  exact Direction.find?_all_eq_some_iff fun one other =>
    (playerSees_iff.mp one).direction_eq (playerSees_iff.mp other)

theorem turretAim_eq_some_iff :
    board.turretAim = some direction ↔
      board.turret.isAlive = true ∧
        board.Reaches direction board.turret.place board.player.place := by
  rw [← turretSees_iff, turretAim, Option.ite_none_right_eq_some]
  exact and_congr_right fun _ => Direction.find?_all_eq_some_iff fun one other =>
    (turretSees_iff.mp one).direction_eq (turretSees_iff.mp other)

/-! ## Attacks -/

/-- A shot hits if there is one and the ray reaches the turret. -/
theorem hit_of_shoot_iff :
    (∃ hp, (board.shoot direction).2 = .hit hp) ↔ 0 < board.player.shots ∧
      board.detect = some direction := by
  rw [detect_eq_some_iff, ← playerSees_iff]
  have acts := board.acts_shoot direction
  generalize board.shoot direction = result at acts ⊢
  cases acts with
  | clicked spent => simp [spent]
  | shot loaded sees => simp [loaded, sees]
  | missed loaded blind => simp [blind]

/-- A close attack hits only if the ray reaches the turret, with its first step. -/
theorem detect_of_melee {hp : Nat} (hit : (board.melee direction).2 = .hit hp) :
    board.detect = some direction := by
  have acts := board.acts_melee direction
  generalize board.melee direction = result at acts hit
  cases acts with
  | struck beside => exact detect_eq_some_iff.mpr (.next beside)
  | swung apart => cases hit

/-- The turret fires where it aims. -/
theorem map_fst_turretFire (board : Board) : board.turretFire.2.map Prod.fst = board.turretAim := by
  have fires := board.fires_turretFire
  generalize board.turretFire = result at fires ⊢
  cases fires with
  | fired aims => exact aims.symm
  | held idle => exact idle.symm

theorem turretFire_eq_none_iff : board.turretFire.2 = none ↔ board.turretAim = none := by
  rw [← map_fst_turretFire, Option.map_eq_none_iff]

theorem turretFire_eq_some_iff :
    (∃ hp, board.turretFire.2 = some (direction, hp)) ↔ board.turretAim = some direction := by
  rw [← map_fst_turretFire, Option.map_eq_some_iff]
  constructor
  · rintro ⟨hp, fired⟩
    exact ⟨_, fired, rfl⟩
  · rintro ⟨⟨_, hp⟩, fired, rfl⟩
    exact ⟨hp, fired⟩

/-- While it stands, the turret aims in the direction from which it is detected. -/
theorem turretAim_eq (player : board.Inside board.player.place)
    (turret : board.Inside board.turret.place) (alive : board.turret.isAlive = true) :
    board.turretAim = board.detect.map Direction.opposite := by
  cases found : board.detect with
  | none =>
    refine Option.eq_none_iff_forall_ne_some.mpr fun direction aims => ?_
    obtain ⟨-, reaches⟩ := turretAim_eq_some_iff.mp aims
    have detected := detect_eq_some_iff.mpr (reaches.opposite turret)
    rw [found] at detected
    cases detected
  | some direction =>
    exact turretAim_eq_some_iff.mpr ⟨alive, (detect_eq_some_iff.mp found).opposite player⟩

/-- On a board on which both robots stand, whatever the obstacles, all that depends on the line of
sight agrees.
* The player sees the turret in one direction at most.
* It detects the turret in a direction exactly if the turret sees the player, where it stands, in
  the opposite one.
* So the turret fires, while it stands, in the direction opposite to that in which it is detected,
  and does not fire if it is not.
* A shot hits exactly if there is one left and the turret is detected in its direction.
* A close attack hits only in the direction in which the turret is detected. -/
theorem sight_symmetric (board : Board) (player : board.Inside board.player.place)
    (turret : board.Inside board.turret.place) :
    (∀ one other position also, board.look board.player.place one = .turret position →
      board.look board.player.place other = .turret also → one = other) ∧
    (∀ direction, board.detect = some direction ↔
      board.look board.turret.place direction.opposite = .player board.player.place) ∧
    (board.turret.isAlive = true →
      (∀ direction, (∃ hp, board.turretFire.2 = some (direction.opposite, hp)) ↔
        board.detect = some direction) ∧
      (board.turretFire.2 = none ↔ board.detect = none)) ∧
    (∀ direction, (∃ hp, (board.shoot direction).2 = .hit hp) ↔
      0 < board.player.shots ∧ board.detect = some direction) ∧
    (∀ direction hp, (board.melee direction).2 = .hit hp → board.detect = some direction) := by
  refine ⟨?_, ?_, ?_, fun _ => hit_of_shoot_iff, fun _ _ => detect_of_melee⟩
  · intro one other position also seen seenAlso
    obtain ⟨reaches, rfl, -⟩ := look_eq_turret_iff.mp seen
    obtain ⟨reachesAlso, rfl, -⟩ := look_eq_turret_iff.mp seenAlso
    exact reaches.direction_eq reachesAlso
  · intro direction
    rw [detect_eq_some_iff, reaches_opposite_iff player turret, look_eq_player_iff]
    exact (and_iff_left rfl).symm
  · intro alive
    have aims := turretAim_eq player turret alive
    refine ⟨fun direction => ?_, ?_⟩
    · rw [turretFire_eq_some_iff, aims, Option.map_eq_some_iff]
      constructor
      · rintro ⟨found, detected, same⟩
        rwa [← direction.opposite_opposite, ← same, Direction.opposite_opposite]
      · intro detected
        exact ⟨direction, detected, rfl⟩
    · rw [turretFire_eq_none_iff, aims, Option.map_eq_none_iff]

/-- A board with the player in the lower left corner, the turret on the same diagonal, and an
obstacle beside it. -/
def facing : Board := (bare 6 ⟨5, 0⟩ ⟨2, 3⟩).block ⟨3, 3⟩

/-- The player sees the turret over two free tiles, is fired at from there, and hits it. -/
theorem sight_symmetric_facing :
    facing.Inside facing.player.place ∧ facing.Inside facing.turret.place ∧
    facing.detect = some .upRight ∧
    facing.look facing.turret.place .downLeft = .player ⟨5, 0⟩ ∧
    (∃ hp, facing.turretFire.2 = some (.downLeft, hp)) ∧
    (∃ hp, (facing.shoot .upRight).2 = .hit hp) := by
  have player : facing.Inside facing.player.place := by decide
  have turret : facing.Inside facing.turret.place := by decide
  obtain ⟨-, agrees, fires, hits, -⟩ := sight_symmetric facing player turret
  have detected : facing.detect = some .upRight :=
    detect_eq_some_iff.mpr (.further rfl rfl (.further rfl rfl (.next rfl)))
  exact ⟨player, turret, detected, (agrees .upRight).mp detected,
    ((fires (by decide)).1 .upRight).mpr detected, (hits .upRight).mpr ⟨by decide, detected⟩⟩

end Board

end RobotScript.Duel
