import RobotScript.Duel.Combat
import RobotScript.Proofs.Duel.Ray

/-!
# What is done on a board

`Acts` lists what can come of an action of the player, and `Fires` what can come of the fire of the
turret, each with the condition under which it happens. `acts_act` and `fires_turretFire` say that
there is nothing else. So a fact about boards is shown for each of these cases once.

A `Deed` is anything that is done on a board, whether it changes something or only looks.
`frames_perform` says what no deed changes: the tiles, and the place of the turret. `afterAll` is
the board after deeds in a row.
-/

namespace RobotScript.Duel

namespace Board

/-! ## Actions and fire -/

/-- What can come of an action of the player. -/
inductive Acts (board : Board) : Action → Board × Effect → Prop
  | moved {direction : Direction} {target : Position}
      (stepped : board.step board.player.place direction = some target)
      (apart : target ≠ board.turret.place) (free : board.tile? target = some .empty) :
      Acts board (.move direction) (board.manned { board.player with place := target } board.turret,
        .moved target)
  | blocked {direction : Direction}
      (stuck : ∀ target, board.step board.player.place direction = some target →
        target = board.turret.place ∨ board.tile? target ≠ some .empty) :
      Acts board (.move direction) (board, .blocked)
  | clicked {direction : Direction} (spent : board.player.shots = 0) :
      Acts board (.shoot direction) (board, .outOfAmmo)
  | shot {direction : Direction} (loaded : 0 < board.player.shots)
      (sees : board.playerSees direction = true) :
      Acts board (.shoot direction)
        (board.manned { board.player with shots := board.player.shots - 1 }
          (board.turret.hurt shotDamage), .hit (board.turret.hurt shotDamage).hp)
  | missed {direction : Direction} (loaded : 0 < board.player.shots)
      (blind : board.playerSees direction = false) :
      Acts board (.shoot direction)
        (board.manned { board.player with shots := board.player.shots - 1 } board.turret, .missed)
  | struck {direction : Direction}
      (beside : board.step board.player.place direction = some board.turret.place) :
      Acts board (.melee direction)
        (board.manned board.player (board.turret.hurt meleeDamage),
          .hit (board.turret.hurt meleeDamage).hp)
  | swung {direction : Direction}
      (apart : board.step board.player.place direction ≠ some board.turret.place) :
      Acts board (.melee direction) (board, .missed)
  | reloaded : Acts board .reload (board.manned board.player.reload board.turret, .reloaded)

/-- What the player sees does not depend on its shots and hit points. -/
theorem playerSees_manned (board : Board) (player : Fighter)
    (same : player.place = board.player.place) (direction : Direction) :
    (board.manned player board.turret).playerSees direction = board.playerSees direction := by
  unfold playerSees
  rw [look_manned same rfl, player_manned, same]

theorem acts_move (board : Board) (direction : Direction) :
    board.Acts (.move direction) (board.move direction) := by
  unfold move
  split
  · next target stepped =>
    split
    · next free => exact .moved stepped free.1 free.2
    · next taken =>
      refine .blocked fun other found => ?_
      rw [stepped] at found
      cases found
      exact Decidable.or_iff_not_imp_left.mpr fun apart free => taken ⟨apart, free⟩
  · next last =>
    refine .blocked fun target stepped => ?_
    rw [last] at stepped
    cases stepped

theorem acts_shoot (board : Board) (direction : Direction) :
    board.Acts (.shoot direction) (board.shoot direction) := by
  unfold shoot Fighter.fire?
  by_cases spent : board.player.shots = 0
  · rw [if_pos spent]
    exact .clicked spent
  · rw [if_neg spent]
    have loaded := Nat.pos_of_ne_zero spent
    let player := { board.player with shots := board.player.shots - 1 }
    show board.Acts _ (if (board.manned player board.turret).playerSees direction then
      (board.manned player board.turret).strike shotDamage else
        (board.manned player board.turret, .missed))
    rw [playerSees_manned board player rfl]
    split
    · next sees => exact .shot loaded sees
    · next blind => exact .missed loaded (Bool.eq_false_iff.mpr blind)

theorem acts_melee (board : Board) (direction : Direction) :
    board.Acts (.melee direction) (board.melee direction) := by
  unfold melee
  split
  · next beside => exact .struck beside
  · next apart => exact .swung apart

/-- Every action comes to one of the cases. -/
theorem acts_act (board : Board) (action : Action) : board.Acts action (board.act action) := by
  cases action with
  | move direction => exact board.acts_move direction
  | shoot direction => exact board.acts_shoot direction
  | melee direction => exact board.acts_melee direction
  | reload => exact .reloaded

/-- What can come of the fire of the turret. -/
inductive Fires (board : Board) : Board × Option (Direction × Nat) → Prop
  | fired {direction : Direction} (aims : board.turretAim = some direction) :
      Fires board (board.manned (board.player.hurt shotDamage) board.turret,
        some (direction, (board.player.hurt shotDamage).hp))
  | held (idle : board.turretAim = none) : Fires board (board, none)

theorem fires_turretFire (board : Board) : board.Fires board.turretFire := by
  unfold turretFire
  split
  · next idle => exact .held idle
  · next direction aims => exact .fired aims

end Board

/-! ## Deeds -/

/-- Something that is done on a board: the player acts, looks for the turret or is shot at, or the
board is looked at. -/
inductive Deed where
  | act (action : Action)
  | detect
  | turretFire
  | look (start : Position) (direction : Direction)
  | render
deriving DecidableEq, Repr

/-- What a deed gives. -/
inductive Reply where
  | effect (effect : Effect)
  | detected (direction : Option Direction)
  | fired (shot : Option (Direction × Nat))
  | seen (sight : Sight)
  | picture (text : String)
deriving DecidableEq, Repr

namespace Board

/-- The board after a deed, and what the deed gives. -/
def perform (board : Board) : Deed → Board × Reply
  | .act action => ((board.act action).1, .effect (board.act action).2)
  | .detect => (board, .detected board.detect)
  | .turretFire => (board.turretFire.1, .fired board.turretFire.2)
  | .look start direction => (board, .seen (board.look start direction))
  | .render => (board, .picture board.render)

/-- The board after deeds in a row. -/
def afterAll (board : Board) (deeds : List Deed) : Board :=
  deeds.foldl (fun board deed => (board.perform deed).1) board

/-- What every deed keeps is kept by deeds in a row. -/
theorem afterAll_keeps {P : Board → Prop}
    (keeps : ∀ {board : Board} (deed : Deed), P board → P (board.perform deed).1)
    {board : Board} (holds : P board) (deeds : List Deed) : P (board.afterAll deeds) := by
  induction deeds generalizing board with
  | nil => exact holds
  | cons deed deeds ih => exact ih (keeps deed holds)

/-! ## What no deed changes -/

/-- The other board has the same tiles and the turret at the same place. -/
structure Frames (board other : Board) : Prop where
  tiles : other = board.manned other.player other.turret
  turret : other.turret.place = board.turret.place

namespace Frames

variable {board middle other : Board}

theorem refl (board : Board) : board.Frames board := ⟨rfl, rfl⟩

theorem trans (here : board.Frames middle) (there : middle.Frames other) : board.Frames other := by
  refine ⟨?_, there.turret.trans here.turret⟩
  rw [there.tiles, here.tiles]
  rfl

end Frames

theorem Acts.frames {board : Board} {action : Action} {result : Board × Effect}
    (acts : board.Acts action result) :
    board.Frames result.1 := by
  cases acts <;> exact ⟨rfl, rfl⟩

theorem Fires.frames {board : Board} {result : Board × Option (Direction × Nat)}
    (fires : board.Fires result) :
    board.Frames result.1 := by
  cases fires <;> exact ⟨rfl, rfl⟩

theorem frames_perform (board : Board) (deed : Deed) : board.Frames (board.perform deed).1 := by
  cases deed with
  | act action => exact (board.acts_act action).frames
  | turretFire => exact board.fires_turretFire.frames
  | detect | look | render => exact .refl board

theorem frames_afterAll (board : Board) (deeds : List Deed) : board.Frames (board.afterAll deeds) :=
  afterAll_keeps (fun deed frames => frames.trans (frames_perform _ deed)) (.refl board) deeds

end Board

end RobotScript.Duel
