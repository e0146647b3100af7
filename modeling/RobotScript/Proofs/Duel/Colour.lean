import RobotScript.Proofs.Duel.Sight

/-!
# Colours of tiles

Coloured like a chequered board, the tiles of a ray all have one colour. So the player never leaves
the tiles of the colour on which it started, and a turret on the other colour is out of its reach
for ever.

* `Acts.colour_eq`, `colour_perform`: no deed takes the player to a tile of the other colour.
* `Mismatched.spares`, `Mismatched.aimless`: robots on different colours neither see nor hit each
  other.

`colour_kept` puts these together for deeds in a row.
-/

namespace RobotScript.Duel

/-- The colour of a tile, as on a chequered board. -/
def Position.colour (position : Position) : Nat :=
  (position.row + position.column) % 2

theorem Away.colour_eq {direction : Direction} {steps : Nat} {start target : Position}
    (away : Away direction steps start target) : target.colour = start.colour := by
  obtain ⟨row, column⟩ := away
  unfold Position.colour
  cases direction <;> simp only [Direction.rowStep, Direction.columnStep] at row column <;> omega

namespace Board

variable {board : Board} {direction : Direction}

theorem colour_of_step {start target : Position}
    (stepped : board.step start direction = some target) :
    target.colour = start.colour :=
  (step_eq_some_iff.mp stepped).2.colour_eq

theorem Reaches.colour_eq {start target : Position}
    (reaches : board.Reaches direction start target) :
    target.colour = start.colour := by
  obtain ⟨steps, away⟩ := reaches.away
  exact away.colour_eq

/-! ## The player stays on its colour -/

theorem Acts.colour_eq {action : Action} {result : Board × Effect}
    (acts : board.Acts action result) :
    result.1.player.place.colour = board.player.place.colour := by
  cases acts with
  | moved stepped => exact colour_of_step stepped
  | blocked | clicked | shot | missed | struck | swung | reloaded => rfl

theorem Fires.colour_eq {result : Board × Option (Direction × Nat)} (fires : board.Fires result) :
    result.1.player.place.colour = board.player.place.colour := by
  cases fires <;> rfl

theorem colour_perform (board : Board) (deed : Deed) :
    (board.perform deed).1.player.place.colour = board.player.place.colour := by
  cases deed with
  | act action => exact (board.acts_act action).colour_eq
  | turretFire => exact board.fires_turretFire.colour_eq
  | detect | look | render => rfl

theorem colour_afterAll (board : Board) (deeds : List Deed) :
    (board.afterAll deeds).player.place.colour = board.player.place.colour :=
  afterAll_keeps (P := fun other => other.player.place.colour = board.player.place.colour)
    (fun deed same => (colour_perform _ deed).trans same) rfl deeds

/-! ## Robots on different colours -/

/-- The robots stand on tiles of different colours. -/
def Mismatched (board : Board) : Prop :=
  board.player.place.colour ≠ board.turret.place.colour

namespace Mismatched

theorem unreached (apart : board.Mismatched) :
    ¬board.Reaches direction board.player.place board.turret.place :=
  fun reaches => apart reaches.colour_eq.symm

theorem detect_eq (apart : board.Mismatched) : board.detect = none :=
  Option.eq_none_iff_forall_ne_some.mpr fun _ detected =>
    apart.unreached (detect_eq_some_iff.mp detected)

theorem aimless (apart : board.Mismatched) : board.turretAim = none :=
  Option.eq_none_iff_forall_ne_some.mpr fun _ aims =>
    apart (turretAim_eq_some_iff.mp aims).2.colour_eq

/-- No attack of the player hits. -/
theorem unhit (apart : board.Mismatched) {action : Action} {result : Board × Effect}
    (acts : board.Acts action result) (hp : Nat) : result.2 ≠ .hit hp := by
  intro hit
  cases acts with
  | shot loaded sees => exact apart.unreached (playerSees_iff.mp sees)
  | struck beside => exact apart.unreached (.next beside)
  | moved | blocked | clicked | missed | swung | reloaded => cases hit

/-- No action changes the hit points. -/
theorem spares (apart : board.Mismatched) {action : Action} {result : Board × Effect}
    (acts : board.Acts action result) :
    result.1.player.hp = board.player.hp ∧ result.1.turret.hp = board.turret.hp := by
  cases acts with
  | shot loaded sees => exact absurd (playerSees_iff.mp sees) apart.unreached
  | struck beside => exact absurd (.next beside) apart.unreached
  | moved | blocked | clicked | missed | swung | reloaded => exact ⟨rfl, rfl⟩

/-- No deed changes the hit points. -/
theorem spares_perform (apart : board.Mismatched) (deed : Deed) :
    (board.perform deed).1.player.hp = board.player.hp ∧
      (board.perform deed).1.turret.hp = board.turret.hp := by
  cases deed with
  | act action => exact apart.spares (board.acts_act action)
  | turretFire =>
    have held : board.turretFire = (board, none) := by rw [Board.turretFire, apart.aimless]
    rw [Board.perform, held]
    exact ⟨rfl, rfl⟩
  | detect | look | render => exact ⟨rfl, rfl⟩

theorem perform (apart : board.Mismatched) (deed : Deed) : (board.perform deed).1.Mismatched := by
  unfold Mismatched
  rw [colour_perform, (board.frames_perform deed).turret]
  exact apart

/-- Deeds in a row leave the robots on different colours, with the hit points that they had. -/
theorem afterAll (apart : board.Mismatched) (deeds : List Deed) :
    (board.afterAll deeds).Mismatched ∧ (board.afterAll deeds).player.hp = board.player.hp ∧
      (board.afterAll deeds).turret.hp = board.turret.hp := by
  refine afterAll_keeps (P := fun other =>
    other.Mismatched ∧ other.player.hp = board.player.hp ∧
      other.turret.hp = board.turret.hp) ?_ ⟨apart, rfl, rfl⟩ deeds
  intro other deed kept
  obtain ⟨still, player, turret⟩ := kept
  obtain ⟨samePlayer, sameTurret⟩ := still.spares_perform deed
  exact ⟨still.perform deed, samePlayer.trans player, sameTurret.trans turret⟩

end Mismatched

/-- Whatever is done on a board, and however often:
* the player stays on tiles of one colour;
* if the turret stands on the other colour, it is never detected, every shot misses unless there is
  none, every close attack misses, the turret does not fire, and both robots keep their hit
  points. -/
theorem colour_kept (board : Board) (deeds : List Deed) :
    (board.afterAll deeds).player.place.colour = board.player.place.colour ∧
    (board.player.place.colour ≠ board.turret.place.colour →
      (board.afterAll deeds).detect = none ∧
      (∀ direction, ((board.afterAll deeds).shoot direction).2 = .missed ∨
        ((board.afterAll deeds).shoot direction).2 = .outOfAmmo) ∧
      (∀ direction, ((board.afterAll deeds).melee direction).2 = .missed) ∧
      (board.afterAll deeds).turretFire.2 = none ∧
      (board.afterAll deeds).player.hp = board.player.hp ∧
        (board.afterAll deeds).turret.hp = board.turret.hp) := by
  refine ⟨colour_afterAll board deeds, fun apart => ?_⟩
  obtain ⟨still, player, turret⟩ := Mismatched.afterAll apart deeds
  refine ⟨still.detect_eq, ?_, ?_, turretFire_eq_none_iff.mpr still.aimless, player, turret⟩
  · intro direction
    have acts := acts_shoot (board.afterAll deeds) direction
    have unhit := still.unhit acts
    generalize (board.afterAll deeds).shoot direction = result at acts unhit ⊢
    cases acts with
    | clicked => exact .inr rfl
    | shot => exact absurd rfl (unhit _)
    | missed => exact .inl rfl
  · intro direction
    have acts := acts_melee (board.afterAll deeds) direction
    have unhit := still.unhit acts
    generalize (board.afterAll deeds).melee direction = result at acts unhit ⊢
    cases acts with
    | struck => exact absurd rfl (unhit _)
    | swung => rfl

/-- A board with the robots on tiles of different colours. -/
def crossed : Board := bare 4 ⟨3, 1⟩ ⟨1, 2⟩

/-- The player goes to the tile next to the turret and shoots, and nothing comes of it. -/
theorem colour_kept_crossed :
    crossed.player.place.colour ≠ crossed.turret.place.colour ∧
    (crossed.afterAll [.act (.move .upRight), .act (.shoot .upLeft), .turretFire]).player.place =
      ⟨2, 2⟩ ∧
    (crossed.afterAll [.act (.move .upRight), .act (.shoot .upLeft), .turretFire]).detect = none ∧
    (∀ direction,
      ((crossed.afterAll [.act (.move .upRight), .act (.shoot .upLeft), .turretFire]).melee
        direction).2 = .missed) ∧
    (crossed.afterAll [.act (.move .upRight), .act (.shoot .upLeft), .turretFire]).turret.hp =
      50 := by
  have apart : crossed.player.place.colour ≠ crossed.turret.place.colour := by decide
  obtain ⟨detected, -, missed, -, -, turret⟩ :=
    (colour_kept crossed [.act (.move .upRight), .act (.shoot .upLeft), .turretFire]).2 apart
  exact ⟨apart, by decide +kernel, detected, missed, turret⟩

end Board

end RobotScript.Duel
