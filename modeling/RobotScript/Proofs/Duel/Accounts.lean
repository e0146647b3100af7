import RobotScript.Proofs.Duel.Combat
import RobotScript.Proofs.Duel.Setup

/-!
# Accounts of damage and ammunition

Hit points and shots change deed by deed. Here they are read off from the log of all deeds, whatever
was done in between.

* `Board.log` is what deeds in a row have given, and `Duel.spent` the shots in it since the last
  reload.
* `Accounted` says that a log accounts for the hit points and the shots on a board.
  `Accounted.perform` is the step of one deed, and `Accounted.afterAll` is the induction.
* `reports_hp`: what a hit reports is what the robot has left.
* `hp_afterAll_of_destroyed`: a destroyed turret does no more damage.

`deeds_accounted` puts these together for boards with new robots.
-/

namespace RobotScript.Duel

/-! ## Logs -/

/-- A shot that hit. -/
def isShotHit : Deed × Reply → Bool
  | (.act (.shoot _), .effect (.hit _)) => true
  | _ => false

/-- A close attack that hit. -/
def isMeleeHit : Deed × Reply → Bool
  | (.act (.melee _), .effect (.hit _)) => true
  | _ => false

/-- A shot that hit or missed. -/
def isShot : Deed × Reply → Bool
  | (.act (.shoot _), .effect (.hit _)) => true
  | (.act (.shoot _), .effect .missed) => true
  | _ => false

/-- A reload. -/
def isReload : Deed × Reply → Bool
  | (.act .reload, _) => true
  | _ => false

/-- Fire of the turret, which always hits. -/
def isFire : Deed × Reply → Bool
  | (.turretFire, .fired (some _)) => true
  | _ => false

/-- The shots since the last reload. -/
def spent (log : List (Deed × Reply)) : Nat :=
  (log.reverse.takeWhile fun entry => !isReload entry).countP isShot

theorem spent_snoc (log : List (Deed × Reply)) (entry : Deed × Reply) :
    spent (log ++ [entry]) = if isReload entry then 0 else spent log + if isShot entry then
      1 else 0 := by
  unfold spent
  rw [List.reverse_append, List.reverse_singleton, List.singleton_append, List.takeWhile_cons]
  by_cases reloads : isReload entry = true
  · simp [reloads]
  · simp [reloads, List.countP_cons]

namespace Board

/-- Deeds in a row, each with what it gave. -/
def log (board : Board) : List Deed → List (Deed × Reply)
  | [] => []
  | deed :: deeds => (deed, (board.perform deed).2) :: (board.perform deed).1.log deeds

/-- The robots are new: both have all their hit points, and the player has a full magazine. -/
structure New (board : Board) : Prop where
  player : board.player = .player board.player.place
  turret : board.turret = .turret board.turret.place

theorem new_blockAll (size : Nat) (player turret : Position) (obstacles : List Position) :
    ((bare size player turret).blockAll obstacles).New := by
  obtain ⟨-, samePlayer, sameTurret⟩ := blockAll_fields (bare size player turret) obstacles
  refine ⟨?_, ?_⟩
  · rw [samePlayer]
    rfl
  · rw [sameTurret]
    rfl

/-! ## Accounts -/

/-- The log accounts for the hit points and the shots on the board, when the robots were new at its
start. -/
structure Accounted (log : List (Deed × Reply)) (board : Board) : Prop where
  turret : board.turret.hp =
    turretHp - (shotDamage * log.countP isShotHit + meleeDamage * log.countP isMeleeHit)
  player : board.player.hp = playerHp - shotDamage * log.countP isFire
  shots : board.player.shots + spent log = magazine

variable {board : Board} {log : List (Deed × Reply)}

theorem New.accounted (new : board.New) : Accounted [] board where
  turret := by rw [new.turret]; rfl
  player := by rw [new.player]; rfl
  shots := by rw [new.player]; rfl

theorem Accounted.shots_le (accounted : Accounted log board) : board.player.shots ≤ magazine :=
  accounted.shots ▸ Nat.le_add_right _ _

theorem Accounted.shots_add (accounted : Accounted log board) :
    board.player.shots + (magazine - board.player.shots) = magazine :=
  Nat.add_sub_of_le accounted.shots_le

/-- What a deed changes is what its entry in the log stands for. -/
theorem Accounted.snoc {other : Board} {entry : Deed × Reply} (accounted : Accounted log board)
    (turret : other.turret.hp = board.turret.hp - (shotDamage * (if isShotHit entry then 1 else 0) +
      meleeDamage * (if isMeleeHit entry then 1 else 0)))
    (player : other.player.hp = board.player.hp - shotDamage * (if isFire entry then 1 else 0))
    (shots : other.player.shots + (if isReload entry then 0 else (magazine - board.player.shots) +
      if isShot entry then 1 else 0) = magazine) : Accounted (log ++ [entry]) other where
  turret := by
    rw [turret, accounted.turret, List.countP_append, List.countP_append, List.countP_singleton,
      List.countP_singleton, Nat.sub_sub, Nat.mul_add, Nat.mul_add]
    omega
  player := by
    rw [player, accounted.player, List.countP_append, List.countP_singleton,
      Nat.sub_sub, Nat.mul_add]
  shots := by
    have before : spent log = magazine - board.player.shots := by
      have := accounted.shots
      omega
    rw [spent_snoc, before]
    exact shots

/-- An action is accounted for. -/
theorem Accounted.act {action : Action} {result : Board × Effect} (accounted : Accounted log board)
    (acts : board.Acts action result) :
    Accounted (log ++ [(.act action, .effect result.2)]) result.1 := by
  cases acts with
  | moved | blocked | struck | swung | clicked =>
    exact accounted.snoc rfl rfl accounted.shots_add
  | shot loaded | missed loaded =>
    refine accounted.snoc rfl rfl ?_
    have full := accounted.shots_le
    show board.player.shots - 1 + (magazine - board.player.shots + 1) = magazine
    omega
  | reloaded => exact accounted.snoc rfl rfl rfl

theorem Accounted.fire {result : Board × Option (Direction × Nat)}
    (accounted : Accounted log board) (fires : board.Fires result) :
    Accounted (log ++ [(.turretFire, .fired result.2)]) result.1 := by
  cases fires with
  | fired | held => exact accounted.snoc rfl rfl accounted.shots_add

/-- A deed is accounted for by its entry in the log. -/
theorem Accounted.perform (accounted : Accounted log board) (deed : Deed) :
    Accounted (log ++ [(deed, (board.perform deed).2)]) (board.perform deed).1 := by
  cases deed with
  | act action => exact accounted.act (board.acts_act action)
  | turretFire => exact accounted.fire board.fires_turretFire
  | detect | look | render => exact accounted.snoc rfl rfl accounted.shots_add

/-- Deeds in a row are accounted for by their log. -/
theorem Accounted.afterAll (accounted : Accounted log board) (deeds : List Deed) :
    Accounted (log ++ board.log deeds) (board.afterAll deeds) := by
  induction deeds generalizing board log with
  | nil => rwa [Board.log, List.append_nil]
  | cons deed deeds ih =>
    have later := ih (accounted.perform deed)
    rwa [List.append_assoc] at later

/-! ## Reports -/

/-- What a hit reports is what the turret has left. -/
theorem Acts.hp_eq {action : Action} {result : Board × Effect}
    (acts : board.Acts action result) {hp : Nat} (hit : result.2 = .hit hp) :
    hp = result.1.turret.hp := by
  cases acts with
  | shot | struck =>
    cases hit
    rfl
  | moved | blocked | clicked | missed | swung | reloaded => cases hit

/-- What the fire of the turret reports is what the player has left. -/
theorem Fires.hp_eq {result : Board × Option (Direction × Nat)} (fires : board.Fires result)
    {direction : Direction} {hp : Nat} (fired : result.2 = some (direction, hp)) :
    hp = result.1.player.hp := by
  cases fires with
  | fired =>
    cases fired
    rfl
  | held => cases fired

/-- The hit points that a deed reports are those after the deed. -/
theorem reports_hp (board : Board) (deed : Deed) (hp : Nat) :
    ((board.perform deed).2 = .effect (.hit hp) → hp = (board.perform deed).1.turret.hp) ∧
      ∀ direction, (board.perform deed).2 = .fired (some (direction, hp)) →
        hp = (board.perform deed).1.player.hp := by
  cases deed with
  | act action =>
    refine ⟨fun hit => (board.acts_act action).hp_eq (Reply.effect.inj hit),
      fun direction fired => ?_⟩
    cases fired
  | turretFire =>
    refine ⟨fun hit => ?_,
      fun direction fired => board.fires_turretFire.hp_eq (Reply.fired.inj fired)⟩
    cases hit
  | detect | look | render =>
    refine ⟨fun hit => ?_, fun direction fired => ?_⟩
    · cases hit
    · cases fired

/-- A shot is refused exactly if there is none left, and then nothing changes. -/
theorem shoot_eq_outOfAmmo_iff (board : Board) (direction : Direction) :
    ((board.shoot direction).2 = .outOfAmmo ↔ board.player.shots = 0) ∧
      (board.player.shots = 0 → board.shoot direction = (board, .outOfAmmo)) := by
  have acts := board.acts_shoot direction
  generalize board.shoot direction = result at acts ⊢
  cases acts with
  | clicked spent => simp [spent]
  | shot loaded | missed loaded => simp [Nat.ne_of_gt loaded]

/-! ## A destroyed turret -/

/-- The turret is destroyed, and the player has so many hit points. -/
structure Safe (hp : Nat) (board : Board) : Prop where
  destroyed : board.turret.hp = 0
  player : board.player.hp = hp

theorem Safe.act {hp : Nat} {action : Action} {result : Board × Effect} (safe : Safe hp board)
    (acts : board.Acts action result) : Safe hp result.1 := by
  have less : ∀ damage, board.turret.hp - damage = 0 := fun damage => by
    rw [safe.destroyed, Nat.zero_sub]
  cases acts with
  | shot | struck => exact ⟨less _, safe.player⟩
  | moved | blocked | clicked | missed | swung | reloaded => exact ⟨safe.destroyed, safe.player⟩

theorem Safe.fire {hp : Nat} {result : Board × Option (Direction × Nat)} (safe : Safe hp board)
    (fires : board.Fires result) :
    Safe hp result.1 := by
  cases fires with
  | fired aims => simp [turretAim, Fighter.isAlive, safe.destroyed] at aims
  | held => exact safe

theorem Safe.perform {hp : Nat} (safe : Safe hp board) (deed : Deed) :
    Safe hp (board.perform deed).1 := by
  cases deed with
  | act action => exact safe.act (board.acts_act action)
  | turretFire => exact safe.fire board.fires_turretFire
  | detect | look | render => exact safe

/-- When the turret is destroyed, the player keeps its hit points. -/
theorem hp_afterAll_of_destroyed (destroyed : board.turret.hp = 0) (deeds : List Deed) :
    (board.afterAll deeds).player.hp = board.player.hp :=
  (afterAll_keeps (P := Safe board.player.hp) (fun deed safe => safe.perform deed)
    ⟨destroyed, rfl⟩ deeds).player

/-- Whatever is done on a board with new robots, and however often:
* the turret has 50 hit points less 15 for each shot and 25 for each close attack that hit, and not
  less than none;
* the player has 100 hit points less 15 each time the turret fired, and not less than none;
* its shots and those that it has spent since the last reload are three together;
* a shot is refused exactly if three are spent, and then nothing changes;
* a deed reports the hit points as they are after it;
* if the turret is destroyed, the player keeps its hit points whatever is done afterwards. -/
theorem deeds_accounted {board : Board} (new : board.New) (deeds : List Deed) :
    (board.afterAll deeds).turret.hp =
      50 - (15 * (board.log deeds).countP isShotHit + 25 * (board.log deeds).countP isMeleeHit) ∧
    (board.afterAll deeds).player.hp = 100 - 15 * (board.log deeds).countP isFire ∧
    (board.afterAll deeds).player.shots + spent (board.log deeds) = 3 ∧
    (∀ direction,
      (((board.afterAll deeds).shoot direction).2 = .outOfAmmo ↔ spent (board.log deeds) = 3) ∧
      (spent (board.log deeds) = 3 →
        ((board.afterAll deeds).shoot direction).1 = board.afterAll deeds)) ∧
    (∀ deed hp, (((board.afterAll deeds).perform deed).2 = .effect (.hit hp) →
        hp = ((board.afterAll deeds).perform deed).1.turret.hp) ∧
      ∀ direction, ((board.afterAll deeds).perform deed).2 = .fired (some (direction, hp)) →
        hp = ((board.afterAll deeds).perform deed).1.player.hp) ∧
    ((board.afterAll deeds).turret.hp = 0 →
      ∀ more, (board.afterAll (deeds ++ more)).player.hp = (board.afterAll deeds).player.hp) := by
  obtain ⟨turret, player, shots⟩ : Accounted (board.log deeds) (board.afterAll deeds) :=
    new.accounted.afterAll deeds
  refine ⟨turret, player, shots, fun direction => ?_, reports_hp _, fun destroyed more => ?_⟩
  · have empty : spent (board.log deeds) = 3 ↔ (board.afterAll deeds).player.shots = 0 := by
      have : (board.afterAll deeds).player.shots + spent (board.log deeds) = 3 := shots
      omega
    obtain ⟨refused, same⟩ := shoot_eq_outOfAmmo_iff (board.afterAll deeds) direction
    rw [empty]
    exact ⟨refused, fun spent => by rw [same spent]⟩
  · rw [Board.afterAll, List.foldl_append]
    exact hp_afterAll_of_destroyed destroyed more

/-- A board with the robots in opposite corners. -/
def cornered : Board := bare 4 ⟨3, 0⟩ ⟨0, 3⟩

/-- One shot hits, and the turret fires back. Two more shots miss and the fourth is refused. After a
reload the player moves up to the turret and strikes it. -/
def approach : List Deed :=
  [.act (.shoot .upRight), .turretFire, .act (.shoot .upLeft), .act (.shoot .upLeft),
    .act (.shoot .upRight), .act .reload, .act (.move .upRight), .act (.move .upRight),
    .act (.melee .upRight)]

/-- One more shot destroys the turret. -/
def shootout : List Deed :=
  approach ++ [.act (.shoot .upRight)]

/-- A shot and a close attack leave the turret 10 hit points, and one more shot leaves it none. -/
theorem deeds_accounted_shootout :
    cornered.New ∧
    (cornered.log shootout).countP isShotHit = 2 ∧
    (cornered.log shootout).countP isMeleeHit = 1 ∧
    (cornered.afterAll approach).turret.hp = 10 ∧ (cornered.afterAll shootout).turret.hp = 0 ∧
    (cornered.afterAll shootout).player.hp = 85 ∧
    (cornered.afterAll shootout).player.shots + 1 = 3 ∧
    ∀ more, (cornered.afterAll (shootout ++ more)).player.hp = 85 := by
  have new : cornered.New := new_blockAll 4 ⟨3, 0⟩ ⟨0, 3⟩ []
  obtain ⟨hitsBefore, meleesBefore, hits, melees, fires, once⟩ :
      (cornered.log approach).countP isShotHit = 1 ∧
      (cornered.log approach).countP isMeleeHit = 1 ∧
      (cornered.log shootout).countP isShotHit = 2 ∧
      (cornered.log shootout).countP isMeleeHit = 1 ∧
      (cornered.log shootout).countP isFire = 1 ∧
      spent (cornered.log shootout) = 1 := by decide +kernel
  obtain ⟨turretBefore, -⟩ := deeds_accounted new approach
  obtain ⟨turret, player, shots, -, -, kept⟩ := deeds_accounted new shootout
  rw [hitsBefore, meleesBefore] at turretBefore
  rw [hits, melees] at turret
  rw [fires] at player
  rw [once] at shots
  exact ⟨new, hits, melees, turretBefore, turret, player, shots,
    fun more => (kept turret more).trans player⟩

end Board

end RobotScript.Duel
