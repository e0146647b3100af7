import RobotScript.Duel.Combat
import RobotScript.Session.Host

/-!
# Matches

A script plays against the turret. Each action of the player is a turn, after which the turret fires
if it still stands. The match is over when a robot is destroyed, the turns are used up, or the
script ends, fails or exceeds its budget.

`Match.play` gives what happens in order. It ends because every action and every question has been
paid for with a statement.
-/

namespace RobotScript.Duel

/-- Something that happens in a match. -/
inductive Event where
  | printed (line : String)
  | acted (turn : Nat) (action : Action) (effect : Effect)
  | turretFired (direction : Direction) (hp : Nat)
  | shown (board : Board)

/-- How a match ends. -/
inductive Ending where
  | scriptEnded
  | budgetExceeded
  | scriptFailed (errors : List Diagnostic)
  | turretDestroyed
  | playerDestroyed
  | outOfTurns
deriving DecidableEq, Repr

/-- A match as it stands: the board and the turns played. -/
structure Match where
  board : Board
  turns : Nat := 0

/-- What a match comes to. -/
structure Record where
  events : List Event
  ending : Ending
  final : Match

namespace Match

/-- One turn: the player acts, then the turret fires if it stands. Gives what happened, the match
afterwards, and its ending if it is over. -/
def turn (turnLimit : Nat) (state : Match) (action : Action) :
    List Event × Match × Option Ending :=
  let (board, effect) := state.board.act action
  let turns := state.turns + 1
  let acted := Event.acted turns action effect
  if board.turret.isAlive then
    let (board, shot) := board.turretFire
    let fired := shot.toList.map fun (direction, hp) => Event.turretFired direction hp
    let ending :=
      if !board.player.isAlive then some .playerDestroyed
      else if turnLimit ≤ turns then some .outOfTurns
      else none
    (acted :: fired ++ [.shown board], ⟨board, turns⟩, ending)
  else ([acted, .shown board], ⟨board, turns⟩, some .turretDestroyed)

/-- What the match answers to a question: the direction of the turret if it is in sight, and whether
it stands. -/
def answer (state : Match) (session : Session) : Query → Session
  | .enemy =>
    match state.board.detect with
    | some direction => session.answerEnemy direction
    | none => session
  | .alive => session.answerAlive (if state.board.turret.isAlive then 1 else 0)

theorem answer_budget (state : Match) (session : Session) (query : Query) :
    (state.answer session query).budget = session.budget := by
  cases query <;> simp only [answer] <;> try split
  all_goals rfl

theorem answer_status (state : Match) (session : Session) (query : Query) :
    (state.answer session query).status = session.status := by
  cases query <;> simp only [answer] <;> try split
  all_goals rfl

theorem patience_answer_lt (state : Match) {session : Session} {query : Query}
    (waiting : session.status = .suspended (.ask query)) :
    (state.answer session query).resume.2.patience < session.patience := by
  have waits : (state.answer session query).status = .suspended (.ask query) := by
    rw [answer_status, waiting]
  have same : (state.answer session query).patience = session.patience := by
    simp only [Session.patience, answer_budget, answer_status]
  exact same ▸ Session.patience_resume_lt waits

/-- The lines that a session printed after another one, as events. -/
def printedSince (before after : Session) : List Event :=
  (after.machine.console.outputSince before.machine.console.output.size).map .printed

/-- Plays a match to its end. -/
def play (turnLimit : Nat) (state : Match) (session : Session) : Record :=
  match waiting : session.status with
  | .suspended (.ask query) =>
    have := patience_answer_lt state waiting
    let resumed := (state.answer session query).resume.2
    let rest := play turnLimit state resumed
    { rest with events := printedSince session resumed ++ rest.events }
  | .suspended (.act action) =>
    have := Session.patience_resume_lt waiting
    match state.turn turnLimit action with
    | (events, state, some ending) => ⟨events, ending, state⟩
    | (events, state, none) =>
      let resumed := session.resume.2
      let rest := play turnLimit state resumed
      { rest with events := events ++ printedSince session resumed ++ rest.events }
  | .limitExceeded => ⟨[], .budgetExceeded, state⟩
  | .aborted => ⟨[], .scriptFailed session.errors.entries, state⟩
  | .terminated | .running => ⟨[], .scriptEnded, state⟩
termination_by session.patience

/-- A match on a board between a script and the turret. -/
def ofScript (turnLimit : Nat) (board : Board) (source : String) (input : List String) : Record :=
  let fresh := Session.ofInput input
  let session := (fresh.interpret source).2
  let record := play turnLimit { board } session
  { record with events := printedSince fresh session ++ record.events }

end Match

end RobotScript.Duel
