import RobotScript.Duel.Match
import RobotScript.Proofs.Duel.Combat
import RobotScript.Proofs.Duel.Setup
import RobotScript.Proofs.Session.Trail

/-!
# Whole matches

A match is a loop in which the session says what the script wants and the board gives it. `Loops`
has a rule for each way in which a pass of this loop can end, and `loops_play` says that
`Match.play` goes through it to the end. What holds of whole matches is then shown along the passes.

* `turn_eq`: a turn is what happens in it, the match after it, and the verdict on that match.
* `Loops.running`: both robots stand at the start of every pass, and there is a turn left.
* `Loops.describes`, `Describes.unique`: the ending describes the final match, and no other one
  does.
* `Loops.countP_isAction`, `Loops.orderly`: the actions are the turns, and the turret fires only to
  return one.
* `Loops.suspensions_le`: every suspension is paid for from the budget of the session.

`played_out` puts these together for a script on a dealt board.
-/

namespace RobotScript.Duel

/-! ## Turns -/

namespace Fighter

theorem isAlive_iff {fighter : Fighter} :
    fighter.isAlive = true ↔ 0 < fighter.hp := decide_eq_true_iff

theorem isAlive_eq_false_iff {fighter : Fighter} : fighter.isAlive = false ↔ fighter.hp = 0 := by
  rw [← Bool.not_eq_true, isAlive_iff, Nat.not_lt, Nat.le_zero]

end Fighter

namespace Board

/-- The board after a turn: the player acts, and the turret fires if it then stands. -/
def afterTurn (board : Board) (action : Action) : Board :=
  if (board.act action).1.turret.isAlive then (board.act action).1.turretFire.1 else
    (board.act action).1

/-- The shot with which the turret returns an action, if it stands and sees the player. -/
def returned (board : Board) (action : Action) : Option (Direction × Nat) :=
  if (board.act action).1.turret.isAlive then (board.act action).1.turretFire.2 else none

/-- The turret is not changed by its own fire. -/
theorem turret_turretFire (board : Board) : board.turretFire.1.turret = board.turret := by
  have fires := board.fires_turretFire
  generalize board.turretFire = result at fires ⊢
  cases fires <;> rfl

theorem turret_afterTurn (board : Board) (action : Action) :
    (board.afterTurn action).turret = (board.act action).1.turret := by
  unfold afterTurn
  split
  · exact turret_turretFire _
  · rfl

end Board

namespace Match

/-- How a match is decided after a turn, if it is. -/
def verdict (turnLimit : Nat) (state : Match) : Option Ending :=
  if state.board.turret.hp = 0 then some .turretDestroyed
  else if state.board.player.hp = 0 then some .playerDestroyed
  else if turnLimit ≤ state.turns then some .outOfTurns
  else none

/-- The match after a turn. -/
def next (state : Match) (action : Action) : Match :=
  ⟨state.board.afterTurn action, state.turns + 1⟩

/-- What happens in a turn: the action, the shot that returns it, and the board afterwards. -/
def turnEvents (state : Match) (action : Action) : List Event :=
  .acted (state.turns + 1) action (state.board.act action).2 ::
    (state.board.returned action).toList.map (fun shot => .turretFired shot.1 shot.2) ++
      [.shown (state.next action).board]

theorem turn_eq (turnLimit : Nat) (state : Match) (action : Action) :
    state.turn turnLimit action =
      (state.turnEvents action, state.next action, (state.next action).verdict turnLimit) := by
  -- The turret is looked at before it fires, which does not change it.
  unfold turn turnEvents verdict next
  rw [Board.turret_afterTurn]
  unfold Board.afterTurn Board.returned
  cases standing : (state.board.act action).1.turret.isAlive with
  | false => simp [standing, Fighter.isAlive_eq_false_iff.mp standing]
  | true =>
    simp [standing, Nat.ne_of_gt (Fighter.isAlive_iff.mp standing), Fighter.isAlive_eq_false_iff]

theorem of_turn {turnLimit : Nat} {state after : Match} {action : Action} {events : List Event}
    {result : Option Ending} (turned : state.turn turnLimit action = (events, after, result)) :
    events = state.turnEvents action ∧ after = state.next action ∧
      (state.next action).verdict turnLimit = result := by
  rw [turn_eq] at turned
  obtain ⟨rfl, rest⟩ := Prod.mk.inj turned
  obtain ⟨rfl, same⟩ := Prod.mk.inj rest
  exact ⟨rfl, rfl, same⟩

/-! ## The loop -/

end Match

/-- One pass of the loop of a match: what the session has said, the match and the session before the
pass, and what happens in it. -/
structure Pass where
  message : Message
  state : Match
  session : Session
  events : List Event

namespace Match

/-- The loop of a match goes by what the session says. The rules are the ways in which a pass can
end.
* A question is answered and the script goes on.
* An action is a turn. The script goes on, or the match is decided.
* The script has ended, has exceeded its budget or has failed. -/
inductive Loops (turnLimit : Nat) :
    Message → Match → Session → List Pass → Ending → Match → Prop
  | asked {state final : Match} {session : Session} {query : Query} {passes : List Pass}
      {ending : Ending} (later : Loops turnLimit (state.answer session query).resume.1 state
        (state.answer session query).resume.2 passes ending final) :
      Loops turnLimit (.suspended (.ask query)) state session
        (⟨.suspended (.ask query), state, session,
          printedSince session (state.answer session query).resume.2⟩ :: passes)
        ending final
  | acted {state next final : Match} {session : Session} {action : Action} {events : List Event}
      {passes : List Pass} {ending : Ending}
      (undecided : state.turn turnLimit action = (events, next, none))
      (later : Loops turnLimit session.resume.1 next session.resume.2 passes ending final) :
      Loops turnLimit (.suspended (.act action)) state session
        (⟨.suspended (.act action), state, session,
          events ++ printedSince session session.resume.2⟩ :: passes)
        ending final
  | decided {state final : Match} {session : Session} {action : Action} {events : List Event}
      {ending : Ending} (decided : state.turn turnLimit action = (events, final, some ending)) :
      Loops turnLimit (.suspended (.act action)) state session
        [⟨.suspended (.act action), state, session, events⟩]
        ending final
  | ended {state : Match} {session : Session} :
      Loops turnLimit .terminated state session [⟨.terminated, state, session, []⟩]
        .scriptEnded state
  | exceeded {state : Match} {session : Session} :
      Loops turnLimit .limitExceeded state session [⟨.limitExceeded, state, session, []⟩]
        .budgetExceeded state
  | failed {state : Match} {session : Session} {errors : List Diagnostic} :
      Loops turnLimit (.failed errors) state session [⟨.failed errors, state, session, []⟩]
        (.scriptFailed errors) state

/-- A message says how the session stands, and one that is suspended is within its limit. -/
structure Heard (message : Message) (session : Session) : Prop where
  standing : message = session.standing
  within : ∀ {suspension}, session.status = .suspended suspension →
    session.budget.used ≤ session.budget.limit

section Sessions

variable {message : Message} {session : Session}

/-- The message comes from a run that began with a budget. If it is a suspension, something has been
paid for it. -/
structure Ran (before : Budget) (message : Message) (after : Session) :
    Prop extends Heard message after where
  limit : after.budget.limit = before.limit
  paid : ∀ {suspension}, after.status = .suspended suspension → before.used < after.budget.used

theorem ran_run (ready : Session) : Ran ready.budget ready.run.1 ready.run.2 := by
  obtain ⟨limit, -, suspended⟩ := ready.run_advances
  refine ⟨⟨ready.run_standing, fun stopped => ?_⟩, limit,
    fun stopped => (suspended _ stopped).1⟩
  rw [limit]
  exact (suspended _ stopped).2

theorem ran_resume {suspension : Suspension} (waiting : session.status = .suspended suspension) :
    Ran session.budget session.resume.1 session.resume.2 := by
  obtain ⟨ready, same, resumed⟩ := Session.resume_suspended waiting
  rw [resumed, ← same]
  exact ran_run ready

theorem ran_answer (state : Match) {query : Query}
    (waiting : session.status = .suspended (.ask query)) :
    Ran session.budget (state.answer session query).resume.1
      (state.answer session query).resume.2 := by
  rw [← answer_budget state session query]
  exact ran_resume ((answer_status ..).trans waiting)

theorem ran_interpret (session : Session) (source : String) :
    Ran session.budget.reset (session.interpret source).1 (session.interpret source).2 := by
  by_cases clean : (Parse.ofSource source).errors = []
  · rw [Session.interpret_eq_run clean]
    exact ran_run (session.started source)
  · rw [Session.interpret_eq_failed clean]
    refine ⟨⟨rfl, ?_⟩, rfl, ?_⟩
    all_goals
      intro suspension stopped
      cases stopped

theorem Heard.message_eq (heard : Heard message session) {suspension : Suspension}
    (waiting : session.status = .suspended suspension) : message = .suspended suspension := by
  rw [heard.standing, Session.standing, waiting]

theorem Heard.waiting {suspension : Suspension} (heard : Heard (.suspended suspension) session) :
    session.status = .suspended suspension :=
  Session.status_of_standing heard.standing.symm

/-- How many more suspensions a session can tell of, with the present one. -/
def room (message : Message) (session : Session) : Nat :=
  if message.isSuspension then session.budget.limit + 1 - session.budget.used else 0

/-- A message from a run leaves less room than there was before the run. -/
theorem room_of_ran {before : Budget} (ran : Ran before message session)
    (within : before.used ≤ before.limit) :
    room message session < before.limit + 1 - before.used := by
  cases message with
  | suspended suspension =>
    have waiting := ran.waiting
    have paid := ran.paid waiting
    have bounded := ran.within waiting
    have limit := ran.limit
    show session.budget.limit + 1 - session.budget.used < _
    omega
  | terminated | limitExceeded | failed => exact Nat.sub_pos_of_lt (Nat.lt_succ_of_le within)

end Sessions

/-- A match that is played goes through the loop to its end, and what happens in the passes is what
happens in the match. -/
theorem loops_play (turnLimit : Nat) (state : Match) {message : Message} {session : Session}
    (heard : Heard message session) :
    ∃ passes, Loops turnLimit message state session passes (play turnLimit state session).ending
        (play turnLimit state session).final ∧
      (play turnLimit state session).events = passes.flatMap Pass.events := by
  fun_induction play turnLimit state session generalizing message with
  | case1 state session query waiting _ resumed rest =>
    rename_i ih
    cases heard.message_eq waiting
    obtain ⟨passes, loops, events⟩ := ih (ran_answer state waiting).toHeard
    exact ⟨_ :: passes, .asked loops, congrArg _ events⟩
  | case2 state session action waiting _ events final ending decided =>
    cases heard.message_eq waiting
    exact ⟨_, .decided decided, (List.append_nil _).symm⟩
  | case3 state session action waiting _ events next undecided resumed rest =>
    rename_i ih
    cases heard.message_eq waiting
    obtain ⟨passes, loops, later⟩ := ih (ran_resume waiting).toHeard
    exact ⟨_ :: passes, .acted undecided loops, congrArg _ later⟩
  | case4 state session exceeded =>
    rw [heard.standing, Session.standing, exceeded]
    exact ⟨_, .exceeded, rfl⟩
  | case5 state session aborted =>
    rw [heard.standing, Session.standing, aborted]
    exact ⟨_, .failed, rfl⟩
  | case6 state session ended =>
    rw [heard.standing, Session.standing, ended]
    exact ⟨_, .ended, rfl⟩
  | case7 state session running =>
    rw [heard.standing, Session.standing, running]
    exact ⟨_, .ended, rfl⟩

/-! ## What holds in every pass -/

/-- The match goes on: both robots stand, and there is a turn left. The first turn is always
played. -/
structure Running (turnLimit : Nat) (state : Match) : Prop where
  player : 0 < state.board.player.hp
  turret : 0 < state.board.turret.hp
  turns : state.turns < max 1 turnLimit

/-- How a match stands at its end, given the last message, for each of the endings. -/
def Describes (turnLimit : Nat) (message : Message) (final : Match) : Ending → Prop
  | .scriptEnded => message = .terminated
  | .budgetExceeded => message = .limitExceeded
  | .scriptFailed errors => message = .failed errors
  | .turretDestroyed => final.board.turret.hp = 0
  | .playerDestroyed => final.board.player.hp = 0 ∧ 0 < final.board.turret.hp
  | .outOfTurns =>
    0 < final.board.player.hp ∧ 0 < final.board.turret.hp ∧ final.turns = max 1 turnLimit

section Endings

variable {turnLimit : Nat} {message : Message} {state final : Match} {action : Action}
  {ending : Ending}

/-- A match that is not decided after a turn goes on. -/
theorem running_of_undecided (undecided : state.verdict turnLimit = none) :
    Running turnLimit state := by
  unfold verdict at undecided
  split at undecided
  · cases undecided
  · next turret =>
    split at undecided
    · cases undecided
    · next player =>
      split at undecided
      · cases undecided
      · next turns =>
        have left : state.turns < turnLimit := Nat.not_le.mp turns
        exact ⟨Nat.pos_of_ne_zero player, Nat.pos_of_ne_zero turret,
          Nat.lt_of_lt_of_le left (Nat.le_max_right ..)⟩

/-- A match that is decided after a turn stands as its ending says. -/
theorem describes_of_decided (first : 1 ≤ state.turns) (within : state.turns ≤ max 1 turnLimit)
    (decided : state.verdict turnLimit = some ending) :
    Describes turnLimit message state ending := by
  unfold verdict at decided
  split at decided
  · next turret =>
    cases decided
    exact turret
  · next turret =>
    split at decided
    · next player =>
      cases decided
      exact ⟨player, Nat.pos_of_ne_zero turret⟩
    · next player =>
      split at decided
      · next turns =>
        cases decided
        exact ⟨Nat.pos_of_ne_zero player, Nat.pos_of_ne_zero turret,
          Nat.le_antisymm within (Nat.max_le.mpr ⟨first, turns⟩)⟩
      · cases decided

/-- The ending that a message tells of, unless it is a suspension. -/
def told? : Message → Option Ending
  | .terminated => some .scriptEnded
  | .limitExceeded => some .budgetExceeded
  | .failed errors => some (.scriptFailed errors)
  | .suspended _ => none

/-- Of a match that could go on, the message tells the ending. -/
theorem Describes.told (running : Running turnLimit final)
    (described : Describes turnLimit message final ending) :
    told? message = some ending := by
  cases ending with
  | scriptEnded | budgetExceeded | scriptFailed =>
    cases described
    rfl
  | turretDestroyed => exact absurd described (Nat.ne_of_gt running.turret)
  | playerDestroyed => exact absurd described.1 (Nat.ne_of_gt running.player)
  | outOfTurns => exact absurd described.2.2 (Nat.ne_of_lt running.turns)

/-- After a suspension, the verdict is the ending. -/
theorem Describes.verdict_eq {suspension : Suspension}
    (described : Describes turnLimit (.suspended suspension) final ending) :
    final.verdict turnLimit = some ending := by
  cases ending with
  | scriptEnded | budgetExceeded | scriptFailed => cases described
  | turretDestroyed => exact if_pos described
  | playerDestroyed =>
    obtain ⟨player, turret⟩ := described
    rw [verdict, if_neg (Nat.ne_of_gt turret), if_pos player]
  | outOfTurns =>
    obtain ⟨player, turret, turns⟩ := described
    have used : turnLimit ≤ final.turns := turns ▸ Nat.le_max_right 1 turnLimit
    rw [verdict, if_neg (Nat.ne_of_gt turret), if_neg (Nat.ne_of_gt player), if_pos used]

/-- The ending of a match is the only one that describes it. -/
theorem Describes.unique {other : Ending}
    (clear : message.isSuspension = false → Running turnLimit final)
    (one : Describes turnLimit message final ending)
    (also : Describes turnLimit message final other) : other = ending := by
  cases message with
  | suspended suspension => exact Option.some.inj (also.verdict_eq.symm.trans one.verdict_eq)
  | terminated | limitExceeded | failed =>
    have running := clear rfl
    exact Option.some.inj ((also.told running).symm.trans (one.told running))

end Endings

namespace Loops

variable {turnLimit : Nat} {message : Message} {state final : Match} {session : Session}
  {passes : List Pass} {ending : Ending}

/-- Both robots stand at the start of every pass, and there is a turn left. -/
theorem running (loops : Loops turnLimit message state session passes ending final)
    (start : Running turnLimit state) :
    ∀ pass ∈ passes, Running turnLimit pass.state := by
  induction loops with
  | asked later ih => exact List.forall_mem_cons.mpr ⟨start, ih start⟩
  | acted turned later ih =>
    obtain ⟨-, rfl, undecided⟩ := of_turn turned
    exact List.forall_mem_cons.mpr ⟨start, ih (running_of_undecided undecided)⟩
  | decided | ended | exceeded | failed => exact List.forall_mem_singleton.mpr start

/-- The last pass and the final match are as the ending says. Unless a turn decides it, the match
could go on. -/
theorem describes (loops : Loops turnLimit message state session passes ending final)
    (start : Running turnLimit state) :
    ∃ last, passes.getLast? = some last ∧ Describes turnLimit last.message final ending ∧
      (last.message.isSuspension = false → Running turnLimit final) ∧
        final.turns ≤ max 1 turnLimit := by
  induction loops with
  | asked later ih =>
    obtain ⟨last, found, described⟩ := ih start
    exact ⟨last, by rw [List.getLast?_cons, found]; rfl, described⟩
  | acted turned later ih =>
    obtain ⟨-, rfl, undecided⟩ := of_turn turned
    obtain ⟨last, found, described⟩ := ih (running_of_undecided undecided)
    exact ⟨last, by rw [List.getLast?_cons, found]; rfl, described⟩
  | @decided state _ _ action _ _ turned =>
    obtain ⟨-, rfl, decided⟩ := of_turn turned
    have within : (state.next action).turns ≤ max 1 turnLimit := start.turns
    refine ⟨_, rfl, describes_of_decided (Nat.le_add_left 1 state.turns) within decided, ?_,
      within⟩
    intro unsuspended
    cases unsuspended
  | ended | exceeded | failed => exact ⟨_, rfl, rfl, fun _ => start, Nat.le_of_lt start.turns⟩

end Loops

end Match

/-! ## What happens in a pass -/

namespace Event

/-- The player acts. -/
def isAction : Event → Bool
  | acted _ _ _ => true
  | _ => false

/-- The turret fires. -/
def isShot : Event → Bool
  | turretFired _ _ => true
  | _ => false

end Event

/-- The player acts once in a pass in which the session has told of an action, and the turret fires
if that shot is returned. Nothing of the kind happens in other passes. -/
def Pass.Orderly (pass : Pass) : Prop :=
  match pass.message with
  | .suspended (.act action) =>
    pass.events.countP Event.isAction = 1 ∧
      pass.events.countP Event.isShot = (pass.state.board.returned action).toList.length
  | _ => pass.events.countP Event.isAction = 0 ∧ pass.events.countP Event.isShot = 0

namespace Match

/-- In a pass with an action the turret fires at most once, and not if the action has destroyed
it. -/
theorem length_returned_le (board : Board) (action : Action) :
    (board.returned action).toList.length ≤ 1 ∧
      ((board.act action).1.turret.hp = 0 → (board.returned action).toList.length = 0) := by
  constructor
  · cases board.returned action with
    | none => exact Nat.zero_le 1
    | some shot => exact Nat.le_refl 1
  · intro destroyed
    rw [Board.returned, Fighter.isAlive_eq_false_iff.mpr destroyed]
    rfl

theorem countP_turnEvents (state : Match) (action : Action) :
    (state.turnEvents action).countP Event.isAction = 1 ∧
      (state.turnEvents action).countP Event.isShot =
        (state.board.returned action).toList.length := by
  unfold turnEvents
  cases state.board.returned action <;> exact ⟨rfl, rfl⟩

theorem countP_printedSince (before after : Session) :
    (printedSince before after).countP Event.isAction = 0 ∧
      (printedSince before after).countP Event.isShot = 0 := by
  unfold printedSince
  constructor <;> simp [List.countP_map, Function.comp_def, Event.isAction, Event.isShot]

namespace Loops

variable {turnLimit : Nat} {message : Message} {state final : Match} {session : Session}
  {passes : List Pass} {ending : Ending}

/-- The turns of a match are the actions that happen in it. -/
theorem countP_isAction (loops : Loops turnLimit message state session passes ending final) :
    state.turns + (passes.flatMap Pass.events).countP Event.isAction = final.turns := by
  induction loops with
  | asked later ih =>
    rw [List.flatMap_cons, List.countP_append, (countP_printedSince ..).1, Nat.zero_add]
    exact ih
  | @acted state _ _ _ action _ _ _ turned later ih =>
    obtain ⟨rfl, rfl, -⟩ := of_turn turned
    rw [List.flatMap_cons, List.countP_append, List.countP_append, (countP_printedSince ..).1,
      (countP_turnEvents ..).1, Nat.add_zero, ← Nat.add_assoc]
    exact ih
  | @decided state _ _ action _ _ turned =>
    obtain ⟨rfl, rfl, -⟩ := of_turn turned
    rw [List.flatMap_cons, List.flatMap_nil, List.append_nil, (countP_turnEvents ..).1]
    rfl
  | ended | exceeded | failed => rfl

/-- The player acts in a pass exactly if the session has told of an action, and the turret fires at
most to return it. -/
theorem orderly (loops : Loops turnLimit message state session passes ending final) :
    ∀ pass ∈ passes, pass.Orderly := by
  induction loops with
  | asked later ih => exact List.forall_mem_cons.mpr ⟨countP_printedSince .., ih⟩
  | @acted state _ _ session action _ _ _ turned later ih =>
    obtain ⟨rfl, -, -⟩ := of_turn turned
    obtain ⟨acts, fires⟩ := state.countP_turnEvents action
    obtain ⟨silent, still⟩ := countP_printedSince session session.resume.2
    refine List.forall_mem_cons.mpr ⟨⟨?_, ?_⟩, ih⟩
    · rw [List.countP_append, acts, silent]
    · rw [List.countP_append, fires, still, Nat.add_zero]
  | @decided state _ _ action _ _ turned =>
    obtain ⟨rfl, -, -⟩ := of_turn turned
    exact List.forall_mem_singleton.mpr (state.countP_turnEvents action)
  | ended | exceeded | failed => exact List.forall_mem_singleton.mpr ⟨rfl, rfl⟩

/-- Every suspension has been paid for, so there are no more passes with one than the budget has
room for. -/
theorem suspensions_le (loops : Loops turnLimit message state session passes ending final)
    (heard : Heard message session) :
    passes.countP (·.message.isSuspension) ≤ room message session := by
  induction loops with
  | @asked state _ _ _ _ _ later ih =>
    have ran := ran_answer state heard.waiting
    rw [List.countP_cons]
    exact Nat.lt_of_le_of_lt (ih ran.toHeard) (room_of_ran ran (heard.within heard.waiting))
  | acted turned later ih =>
    have ran := ran_resume heard.waiting
    rw [List.countP_cons]
    exact Nat.lt_of_le_of_lt (ih ran.toHeard) (room_of_ran ran (heard.within heard.waiting))
  | @decided _ _ session _ _ _ turned =>
    have within := heard.within heard.waiting
    exact Nat.sub_pos_of_lt (Nat.lt_succ_of_le within)
  | ended | exceeded | failed => exact Nat.le_refl 0

end Loops

/-! ## Matches between a script and the turret -/

/-- A dealt board has two robots that stand. -/
theorem running_of_deal {setup : Setup} {picks : Nat → List Nat} {board : Board}
    (dealt : Board.deal setup picks = .ok board) (turnLimit : Nat) :
    Running turnLimit { board } := by
  obtain ⟨player, turret, obstacles, -, rfl⟩ := Board.exists_of_deal dealt
  obtain ⟨-, samePlayer, sameTurret⟩ :=
    Board.blockAll_fields (.bare setup.size player turret) obstacles
  refine ⟨?_, ?_, Nat.lt_of_lt_of_le Nat.zero_lt_one (Nat.le_max_left ..)⟩
  · rw [samePlayer]
    show 0 < playerHp
    decide
  · rw [sameTurret]
    show 0 < turretHp
    decide

/-- A match between any script and the turret, on any dealt board and with any turn limit, comes to
an end.
* The loop goes through the passes to the ending and the final match, and what happens is what
  happens in the passes.
* The actions are counted as turns, and there are no more than the limit, or one.
* The session tells of at most 500 suspensions.
* At the start of every pass both robots stand. So a script that asks whether the turret stands is
  told that it does.
* An action is one turn. The turret fires at most once to return it, and not if the action has
  destroyed it. In the other passes there are neither actions nor shots.
* Exactly one of the endings describes the last message and the final match. -/
theorem played_out {setup : Setup} {picks : Nat → List Nat} {board : Board}
    (dealt : Board.deal setup picks = .ok board) (turnLimit : Nat) (source : String)
    (input : List String) :
    ∃ passes last,
      (Loops turnLimit ((Session.ofInput input).interpret source).1 { board }
          ((Session.ofInput input).interpret source).2 passes
          (ofScript turnLimit board source input).ending
          (ofScript turnLimit board source input).final ∧
        (ofScript turnLimit board source input).events =
          printedSince (.ofInput input) ((Session.ofInput input).interpret source).2 ++
            passes.flatMap Pass.events) ∧
      ((ofScript turnLimit board source input).events.countP Event.isAction =
          (ofScript turnLimit board source input).final.turns ∧
        (ofScript turnLimit board source input).final.turns ≤ max 1 turnLimit) ∧
      passes.countP (·.message.isSuspension) ≤ 500 ∧
      (∀ pass ∈ passes, pass.state.board.player.isAlive = true ∧
        pass.state.board.turret.isAlive = true ∧
        (pass.message = .suspended (.ask .alive) →
          pass.state.answer pass.session .alive = pass.session.answerAlive 1)) ∧
      (∀ pass ∈ passes,
        (∀ action, pass.message = .suspended (.act action) →
          (pass.state.turn turnLimit action).2.1.board = pass.state.board.afterTurn action ∧
          pass.events.countP Event.isAction = 1 ∧ pass.events.countP Event.isShot ≤ 1 ∧
          ((pass.state.board.act action).1.turret.hp = 0 →
            pass.events.countP Event.isShot = 0)) ∧
        ((∀ action, pass.message ≠ .suspended (.act action)) →
          pass.events.countP Event.isAction = 0 ∧ pass.events.countP Event.isShot = 0)) ∧
      passes.getLast? = some last ∧
      ∀ ending,
        Describes turnLimit last.message (ofScript turnLimit board source input).final ending ↔
        ending = (ofScript turnLimit board source input).ending := by
  have ran := ran_interpret (.ofInput input) source
  obtain ⟨passes, loops, events⟩ := loops_play turnLimit { board } ran.toHeard
  have start := running_of_deal dealt turnLimit
  obtain ⟨last, found, described, clear, within⟩ := loops.describes start
  refine ⟨passes, last, ⟨loops, ?_⟩, ⟨?_, within⟩, ?_, ?_, ?_, found, ?_⟩
  · exact congrArg _ events
  · -- What is printed before the first pass is no action.
    show (printedSince _ _ ++ (play turnLimit { board } _).events).countP Event.isAction = _
    rw [events, List.countP_append, (countP_printedSince ..).1]
    exact loops.countP_isAction
  · have budget : room _ _ < 500 + 1 - 0 := room_of_ran ran (Nat.zero_le _)
    exact Nat.le_trans (loops.suspensions_le ran.toHeard) (Nat.le_of_lt_succ budget)
  · intro pass member
    have running := loops.running start pass member
    have alive := Fighter.isAlive_iff.mpr running.turret
    refine ⟨Fighter.isAlive_iff.mpr running.player, alive, fun _ => ?_⟩
    rw [answer, if_pos alive]
  · intro pass member
    have orderly := loops.orderly pass member
    unfold Pass.Orderly at orderly
    refine ⟨fun action acts => ?_, fun rests => ?_⟩
    · rw [acts] at orderly
      obtain ⟨acted, fired⟩ := orderly
      rw [turn_eq, fired]
      exact ⟨rfl, acted, length_returned_le pass.state.board action⟩
    · split at orderly
      · next action acts => exact absurd acts (rests action)
      · exact orderly
  · intro ending
    constructor
    · exact described.unique clear
    · rintro rfl
      exact described

/-- A script that asks whether the turret stands, and reloads as long as it does. -/
def vigil : String := "tantque estVivant()\nrecharger()\nfintantque"

/-- Without any turns the match is called off after the first one, with both robots standing. -/
theorem played_out_vigil :
    ∃ board, Board.deal ⟨2, 0⟩ (List.replicate · 0) = .ok board ∧
      (ofScript 0 board vigil []).ending = .outOfTurns ∧
      (ofScript 0 board vigil []).final.turns = 1 ∧
      0 < (ofScript 0 board vigil []).final.board.player.hp ∧
      (ofScript 0 board vigil []).events.countP Event.isAction = 1 := by
  have dealt : Board.deal ⟨2, 0⟩ (List.replicate · 0) = .ok (.bare 2 ⟨0, 1⟩ ⟨1, 0⟩) :=
    rfl
  obtain ⟨passes, last, -, ⟨count, -⟩, -, -, -, -, described⟩ := played_out dealt 0 vigil []
  have ending : (ofScript 0 (.bare 2 ⟨0, 1⟩ ⟨1, 0⟩) vigil []).ending = .outOfTurns := by
    decide +kernel
  obtain ⟨player, -, turns⟩ := (described .outOfTurns).mpr ending.symm
  exact ⟨_, dealt, ending, turns, player, count.trans turns⟩

end Match

end RobotScript.Duel
