import RobotScript.Proofs.Effect
import RobotScript.Proofs.Session.Calls

/-!
# Rounds of a run, and calls in a row

A run executes one statement after the other. `Passes` says that a session comes to another one by
statements that are done within the limit, and `Halts` lists the ways in which a run can stop there.
`run_halts` puts every run together from the two. So a fact about whole runs is a fact about one
statement, and one case for each way to stop.

A call on a session either sets it running or has its effect at once. `begun` is the session that a
call leaves before anything is executed, and `after_eq_settle` says that the call is over when that
session has settled. `Begins` lists what that session can be when a host goes on with a run.

`history` is what a host gets from calls in a row: after each of them the reply, and the session as
it then stands.
-/

namespace RobotScript

namespace Call

/-- The host goes on: it resumes, or leaves an answer. -/
def isAnswer : Call → Bool
  | resume | answerEnemy _ | answerAlive _ => true
  | interpret _ | feed _ | configure _ => false

/-- What a host can do in the course of a run: it goes on, or gives the script a line to read. -/
def isReaction : Call → Bool
  | resume | answerEnemy _ | answerAlive _ | feed _ => true
  | interpret _ | configure _ => false

/-- The call is answered with a message. -/
def isSpoken : Call → Bool
  | interpret _ | resume => true
  | answerEnemy _ | answerAlive _ | feed _ | configure _ => false

end Call

namespace Session

/-! ## Runs -/

/-- An attempt is an effect of its statement, paid for, and without answers unless it asks. -/
theorem attempt_effect (session : Session) (statement : Statement) :
    ∃ machine outcome, session.program.Effect session.machine statement (machine, outcome) ∧
      session.attempt statement =
        ({ session with
            machine := if outcome.isQuestion then machine else machine.holding []
            budget := session.budget.spend }, outcome) :=
  ⟨_, _, session.program.effect_execute session.machine statement, attempt_eq rfl⟩

/-- A statement that acts is its own action, and nothing but the answers has changed when it
waits. -/
theorem attempt_acts {session : Session} {statement : Statement} {action : Action}
    (acts : (session.attempt statement).2 = .act action) :
    (session.attempt statement).1.machine = session.machine.advance.holding [] ∧
      statement.action? session.machine.store = some action := by
  obtain ⟨machine, outcome, effect, same⟩ := session.attempt_effect statement
  rw [same] at acts ⊢
  cases effect with
  | act known =>
    cases acts
    exact ⟨rfl, known⟩
  | done | ask | unknownLabel | unset => cases acts

/-- A statement that asks lacks an answer, also after it is set back to be executed again. -/
theorem attempt_asks {session : Session} {statement : Statement} {query : Query}
    (asks : (session.attempt statement).2 = .ask query) :
    session.program.Lacks ((session.attempt statement).1.machine.jump session.machine.pc)
      statement query := by
  obtain ⟨machine, outcome, effect, same⟩ := session.attempt_effect statement
  rw [same] at asks ⊢
  cases effect with
  | @ask asked _ place lacks =>
    cases asks
    have back : asked.advance.jump session.machine.pc = asked := by
      rw [← place]
      rfl
    exact back ▸ lacks
  | done | act | unknownLabel | unset => cases asks

theorem attempt_within_iff {session : Session} {statement : Statement} :
    (session.attempt statement).1.budget.exceeded = false ↔
      session.budget.used < session.budget.limit := by
  show decide (session.budget.limit < session.budget.used + 1) = false ↔ _
  rw [decide_eq_false_iff_not]
  omega

/-- The second session comes about from the first by statements that are done within the limit. -/
inductive Passes : Session → Session → Prop
  | refl (session : Session) : Passes session session
  | step {session last : Session} {statement : Statement}
      (found : session.program.statements[session.machine.pc]? = some statement)
      (within : (session.attempt statement).1.budget.exceeded = false)
      (done : (session.attempt statement).2 = .done)
      (later : Passes (session.attempt statement).1 last) : Passes session last

/-- The ways in which a run can stop, with what it says and leaves: there is no statement left, the
statement is past the limit, it acts, it asks, or it is at fault. -/
inductive Halts (session : Session) : Message × Session → Prop
  | ended (ended : session.program.statements[session.machine.pc]? = none) :
      Halts session (.terminated, { session with status := .terminated })
  | exceeded {statement : Statement}
      (found : session.program.statements[session.machine.pc]? = some statement)
      (past : (session.attempt statement).1.budget.exceeded = true) :
      Halts session
        (.limitExceeded, { (session.attempt statement).1 with status := .limitExceeded })
  | acted {statement : Statement} {action : Action}
      (found : session.program.statements[session.machine.pc]? = some statement)
      (within : (session.attempt statement).1.budget.exceeded = false)
      (acts : (session.attempt statement).2 = .act action) :
      Halts session ((session.attempt statement).1.suspend (.act action))
  | asked {statement : Statement} {query : Query}
      (found : session.program.statements[session.machine.pc]? = some statement)
      (within : (session.attempt statement).1.budget.exceeded = false)
      (asks : (session.attempt statement).2 = .ask query) :
      Halts session ({ (session.attempt statement).1 with
        machine :=
          (session.attempt statement).1.machine.jump session.machine.pc }.suspend (.ask query))
  | failed {statement : Statement} {diagnostic : Diagnostic}
      (found : session.program.statements[session.machine.pc]? = some statement)
      (within : (session.attempt statement).1.budget.exceeded = false)
      (fails : (session.attempt statement).2 = .fault diagnostic) :
      Halts session ((session.attempt statement).1.abort diagnostic)

/-- Every run passes some statements and halts. -/
theorem run_halts (session : Session) :
    ∃ last, Passes session last ∧ Halts last session.run := by
  fun_induction run session with
  | case1 session ended => exact ⟨session, .refl _, .ended ended⟩
  | case2 session statement found attempted past =>
    exact ⟨session, .refl _, .exceeded found past⟩
  | case3 session statement found attempted within _ outcome ih =>
    obtain ⟨last, passes, halts⟩ := ih
    exact ⟨last, .step found (Bool.eq_false_iff.mpr within) outcome passes, halts⟩
  | case4 session statement found attempted within _ action outcome =>
    exact ⟨session, .refl _, .acted found (Bool.eq_false_iff.mpr within) outcome⟩
  | case5 session statement found attempted within _ query outcome =>
    exact ⟨session, .refl _, .asked found (Bool.eq_false_iff.mpr within) outcome⟩
  | case6 session statement found attempted within _ diagnostic outcome =>
    exact ⟨session, .refl _, .failed found (Bool.eq_false_iff.mpr within) outcome⟩

/-- What every statement within the limit keeps is kept by all that a run passes. -/
theorem Passes.keeps {P : Session → Prop} {session last : Session} (passes : Passes session last)
    (keeps : ∀ {session : Session} {statement : Statement}, P session →
      session.program.statements[session.machine.pc]? = some statement →
      session.budget.used < session.budget.limit → (session.attempt statement).2 = .done →
      P (session.attempt statement).1)
    (holds : P session) : P last := by
  induction passes with
  | refl session => exact holds
  | step found within done later ih =>
    exact ih (keeps holds found (attempt_within_iff.mp within) done)

/-! ## Messages -/

/-- What a session has to say as it stands. -/
def standing (session : Session) : Message :=
  match session.status with
  | .suspended suspension => .suspended suspension
  | .limitExceeded => .limitExceeded
  | .aborted => .failed session.errors.entries
  | .terminated | .running => .terminated

/-- The message of a run says how the session then stands. -/
theorem run_standing (session : Session) : session.run.1 = session.run.2.standing := by
  obtain ⟨last, -, halts⟩ := session.run_halts
  generalize session.run = ran at halts
  cases halts <;> rfl

/-- The message with which a call is answered. -/
def reply (session : Session) : Call → Option Message
  | .interpret source => some (session.interpret source).1
  | .resume => some session.resume.1
  | .answerEnemy _ | .answerAlive _ | .feed _ | .configure _ => none

/-- The message of a call says how the session then stands. -/
theorem reply_eq (session : Session) (call : Call) :
    session.reply call = if call.isSpoken then some (session.after call).standing else none := by
  cases call with
  | interpret source =>
    show some (session.interpret source).1 = some (session.interpret source).2.standing
    by_cases clean : (Parse.ofSource source).errors = []
    · rw [interpret_eq_run clean, run_standing]
    · rw [interpret_eq_failed clean]
      rfl
  | resume =>
    show some session.resume.1 = some session.resume.2.standing
    cases stands : session.status with
    | suspended suspension =>
      cases suspension with
      | act action => rw [resume_act stands, run_standing]
      | ask query => rw [resume_ask stands, run_standing]
    | running =>
      simp only [resume, stands]
      rw [run_standing]
    | terminated | limitExceeded | aborted => simp only [resume, stands, standing]
  | answerEnemy direction => rfl
  | answerAlive answer => rfl
  | feed line => rfl
  | configure limit => rfl

theorem standing_of_reply {session : Session} {call : Call} {message : Message}
    (replied : session.reply call = some message) : message = (session.after call).standing := by
  rw [reply_eq] at replied
  split at replied
  · exact (Option.some.inj replied).symm
  · cases replied

/-! ## Calls -/

/-- The session that a call leaves before any statement is executed. -/
def begun (session : Session) : Call → Session
  | .interpret source =>
    if (Parse.ofSource source).errors = [] then session.started source
    else { session.started source with status := .aborted }
  | .resume =>
    match session.status with
    | .suspended (.ask query) => session.accept query
    | .suspended (.act _) => { session with status := .running }
    | .running | .terminated | .limitExceeded | .aborted => session
  | .answerEnemy direction => session.answerEnemy direction
  | .answerAlive answer => session.answerAlive answer
  | .feed line => session.feed line
  | .configure limit => session.configure limit

/-- The session when its run, if it is running, has stopped. -/
def settle (session : Session) : Session :=
  if session.status = .running then session.run.2 else session

theorem settle_running {session : Session} (running : session.status = .running) :
    session.settle = session.run.2 :=
  if_pos running

theorem settle_resting {session : Session} (resting : session.status ≠ .running) :
    session.settle = session :=
  if_neg resting

theorem settle_status (session : Session) : session.settle.status ≠ .running := by
  by_cases running : session.status = .running
  · rw [settle_running running]
    obtain ⟨last, -, halts⟩ := session.run_halts
    generalize session.run = ran at halts
    cases halts <;> simp [suspend, abort]
  · rw [settle_resting running]
    exact running

theorem accept_status (session : Session) (query : Query) :
    (session.accept query).status = .running := by
  cases query <;> rfl

/-- A script is started, whatever the session was before, and has been run when the session has
settled. -/
theorem interpret_eq_settle (session : Session) (source : String) :
    session.after (.interpret source) = (session.begun (.interpret source)).settle := by
  simp only [after, begun]
  by_cases clean : (Parse.ofSource source).errors = []
  · rw [if_pos clean, interpret_eq_run clean]
    exact (settle_running rfl).symm
  · rw [if_neg clean, interpret_eq_failed clean]
    refine (settle_resting fun running => ?_).symm
    cases running

/-- A call is over when the session has settled. -/
theorem after_eq_settle {session : Session} (resting : session.status ≠ .running) (call : Call) :
    session.after call = (session.begun call).settle := by
  have atOnce : ∀ {left : Session}, left.status ≠ .running → left = left.settle :=
    fun resting => (settle_resting resting).symm
  cases call with
  | interpret source => exact session.interpret_eq_settle source
  | resume =>
    simp only [after, begun]
    cases stands : session.status with
    | suspended suspension =>
      cases suspension with
      | act action =>
        rw [resume_act stands]
        exact (settle_running rfl).symm
      | ask query =>
        rw [resume_ask stands]
        exact (settle_running (session.accept_status query)).symm
    | running => exact absurd stands resting
    | terminated | limitExceeded | aborted =>
      simp only [resume, stands]
      exact atOnce resting
  | answerEnemy direction => exact atOnce resting
  | answerAlive answer => exact atOnce resting
  | feed line => exact atOnce resting
  | configure limit =>
    refine atOnce fun running => ?_
    cases running

/-- What a host does in the course of a run sets a waiting session running, or changes only what is
left for later. -/
inductive Begins (session : Session) : Session → Prop
  | asked {query : Query} (waiting : session.status = .suspended (.ask query)) :
      Begins session (session.accept query)
  | acted {action : Action} (waiting : session.status = .suspended (.act action)) :
      Begins session { session with status := .running }
  | left (enemy : Option Direction) (alive : Option Int) (console : Console) :
      Begins session { session with enemy, alive, machine.console := console }

theorem begins_of_reaction (session : Session) {call : Call} (reacts : call.isReaction = true) :
    session.Begins (session.begun call) := by
  cases call with
  | resume =>
    cases stands : session.status with
    | suspended suspension =>
      cases suspension with
      | act action =>
        simp only [begun, stands]
        exact .acted stands
      | ask query =>
        simp only [begun, stands]
        exact .asked stands
    | running | terminated | limitExceeded | aborted =>
      simp only [begun, stands]
      exact .left session.enemy session.alive session.machine.console
  | answerEnemy direction => exact .left (some direction) session.alive session.machine.console
  | answerAlive answer => exact .left session.enemy (some answer) session.machine.console
  | feed line => exact .left session.enemy session.alive (session.machine.console.feed line)
  | interpret | configure => cases reacts

/-! ## Calls in a row -/

/-- The session after calls in a row. -/
def afterAll (session : Session) (calls : List Call) : Session :=
  calls.foldl after session

/-- The reply to each of the calls in a row, with the session as it stands after the call. -/
def history (session : Session) : List Call → List (Option Message × Session)
  | [] => []
  | call :: calls => (session.reply call, session.after call) :: (session.after call).history calls

/-- A session without a script, with a limit and with lines to read. -/
def fresh (lines : List String) (limit : Nat) : Session :=
  (Session.ofInput lines).configure limit

@[simp] theorem afterAll_nil (session : Session) : session.afterAll [] = session := rfl

@[simp] theorem afterAll_cons (session : Session) (call : Call) (calls : List Call) :
    session.afterAll (call :: calls) = (session.after call).afterAll calls := rfl

theorem afterAll_append (session : Session) (calls more : List Call) :
    session.afterAll (calls ++ more) = (session.afterAll calls).afterAll more :=
  List.foldl_append

/-- What every call keeps is kept by calls in a row. -/
theorem afterAll_keeps {P : Session → Prop} {calls : List Call}
    (keeps : ∀ {session : Session} {call : Call}, P session → call ∈ calls →
      P (session.after call))
    {session : Session} (holds : P session) : P (session.afterAll calls) := by
  induction calls generalizing session with
  | nil => exact holds
  | cons call calls ih =>
    have here := keeps holds List.mem_cons_self
    exact ih (fun holds member => keeps holds (List.mem_cons_of_mem _ member)) here

end Session

end RobotScript
