import RobotScript.Session

/-!
# Calls on a session

What a host can do with a session, and what `run` and `resume` do in each case.

`run_eq` opens one round of `run`: the statement that is due is attempted, and `conclude` says what
follows from how it ended. `resume_ask` and `resume_act` say what a resumed session runs.
`run_spends_answers` is the fact about whole runs that the rest needs: a session that waits for an
action holds no answers.
-/

namespace RobotScript

/-! ## Calls -/

/-- A call that a host makes on a session. -/
inductive Call where
  | interpret (source : String)
  | resume
  | answerEnemy (direction : Direction)
  | answerAlive (answer : Int)
  | feed (line : String)
  | configure (limit : Nat)
deriving DecidableEq, Repr

namespace Session

/-- The session after a call. -/
def after (session : Session) : Call → Session
  | .interpret source => (session.interpret source).2
  | .resume => session.resume.2
  | .answerEnemy direction => session.answerEnemy direction
  | .answerAlive answer => session.answerAlive answer
  | .feed line => session.feed line
  | .configure limit => session.configure limit

/-- The session comes about by calls on a new one. -/
inductive Reachable : Session → Prop
  | initial (lines : List String) : Reachable (.ofInput lines)
  | after {session : Session} (reached : Reachable session) (call : Call) :
      Reachable (session.after call)

/-- The session with a script that has been read and is about to run. -/
def started (session : Session) (source : String) : Session :=
  { program := (Parse.ofSource source).program
    machine := { console := session.machine.console }
    budget := session.budget.reset
    status := .running
    errors := ⟨(Parse.ofSource source).errors⟩ }

theorem interpret_eq_run {session : Session} {source : String}
    (clean : (Parse.ofSource source).errors = []) :
    session.interpret source = (session.started source).run := by
  unfold interpret
  simp only [Log.hasEntries, clean, List.isEmpty_nil, Bool.not_true, Bool.false_eq_true, if_false]
  unfold started
  rw [clean]

theorem interpret_eq_failed {session : Session} {source : String}
    (faulty : (Parse.ofSource source).errors ≠ []) :
    session.interpret source =
      (.failed (Parse.ofSource source).errors,
        { session.started source with status := .aborted }) := by
  unfold interpret
  simp only [Log.hasEntries, List.isEmpty_eq_false_iff.mpr faulty, Bool.not_false, if_true]
  rfl

/-- The value that the host has left for a question, or zero. -/
def answerTo (session : Session) : Query → Value
  | .enemy => (session.enemy.map Value.direction).getD (.number 0.0)
  | .alive => .number (Decimal.ofInt (session.alive.getD 0))

/-- The session with the answer to the question that it waits for, about to run. -/
def accept (session : Session) : Query → Session
  | .enemy => { session.deliver (session.answerTo .enemy) with enemy := none, status := .running }
  | .alive => { session.deliver (session.answerTo .alive) with alive := none, status := .running }

theorem resume_ask {session : Session} {query : Query}
    (waiting : session.status = .suspended (.ask query)) :
    session.resume = (session.accept query).run := by
  unfold resume
  rw [waiting]
  cases query <;> rfl

theorem resume_act {session : Session} {action : Action}
    (waiting : session.status = .suspended (.act action)) :
    session.resume = { session with status := .running }.run := by
  unfold resume
  rw [waiting]

@[simp] theorem accept_program (session : Session) (query : Query) :
    (session.accept query).program = session.program := by
  cases query <;> rfl

@[simp] theorem accept_budget (session : Session) (query : Query) :
    (session.accept query).budget = session.budget := by
  cases query <;> rfl

@[simp] theorem accept_machine (session : Session) (query : Query) :
    (session.accept query).machine =
      { session.machine with answers := session.machine.answers ++ [session.answerTo query] } := by
  cases query <;> rfl

/-! ## One round of a run -/

/-- What a run does after a statement within the limit, depending on how the statement ended. -/
def conclude (session attempted : Session) : Outcome → Message × Session
  | .done => attempted.run
  | .act action => attempted.suspend (.act action)
  | .ask query =>
    { attempted with machine := attempted.machine.jump session.machine.pc }.suspend (.ask query)
  | .fault diagnostic => attempted.abort diagnostic

theorem run_ended {session : Session}
    (ended : session.program.statements[session.machine.pc]? = none) :
    session.run = (.terminated, { session with status := .terminated }) := by
  rw [run, ended]

theorem run_exceeded {session : Session} {statement : Statement}
    (found : session.program.statements[session.machine.pc]? = some statement)
    (past : (session.attempt statement).1.budget.exceeded = true) :
    session.run =
      (.limitExceeded, { (session.attempt statement).1 with status := .limitExceeded }) := by
  rw [run, found]
  simp only [past, dite_true]

theorem run_eq {session : Session} {statement : Statement}
    (found : session.program.statements[session.machine.pc]? = some statement)
    (within : (session.attempt statement).1.budget.exceeded = false) :
    session.run = session.conclude (session.attempt statement).1 (session.attempt statement).2 := by
  rw [run, found]
  simp only [within, Bool.false_eq_true, dite_false]
  cases (session.attempt statement).2 <;> rfl

/-- An attempt is the execution of its statement, paid for, and without answers unless it asks. -/
theorem attempt_eq {session : Session} {statement : Statement} {machine : Machine}
    {outcome : Outcome} (executed : session.program.execute
      (session.machine.jump (session.machine.pc + 1)) session.machine.pc statement =
      (machine, outcome)) :
    session.attempt statement =
      ({ session with
          machine := if outcome.isQuestion then machine else { machine with answers := [] }
          budget := session.budget.spend }, outcome) := by
  simp only [attempt, executed]

/-- Unless it asks, a statement leaves no answers. -/
theorem attempt_answers {session : Session} {statement : Statement}
    (closed : (session.attempt statement).2.isQuestion = false) :
    (session.attempt statement).1.machine.answers = [] := by
  unfold attempt at closed ⊢
  simp only at closed ⊢
  rw [closed]
  rfl

/-- A run that stops for an action holds no answers. -/
theorem run_spends_answers (session : Session) {action : Action}
    (waiting : session.run.2.status = .suspended (.act action)) :
    session.run.2.machine.answers = [] := by
  fun_induction run session with
  | case1 session ended => cases waiting
  | case2 session statement found attempted past => cases waiting
  | case3 session statement found attempted within _ outcome ih => exact ih waiting
  | case4 session statement found attempted within _ other outcome =>
    exact attempt_answers (by rw [outcome]; rfl)
  | case5 session statement found attempted within _ query outcome => cases waiting
  | case6 session statement found attempted within _ diagnostic outcome => cases waiting

/-- A reachable session that waits for an action holds no answers. -/
theorem Reachable.answers_of_act {session : Session} (reached : Reachable session) {action : Action}
    (waiting : session.status = .suspended (.act action)) : session.machine.answers = [] := by
  induction reached with
  | initial lines => rfl
  | @after session reached call ih =>
    cases call with
    | interpret source =>
      by_cases clean : (Parse.ofSource source).errors = []
      · rw [Session.after, interpret_eq_run clean] at waiting ⊢
        exact run_spends_answers _ waiting
      · rw [Session.after, interpret_eq_failed clean] at waiting
        exact nomatch waiting
    | resume =>
      rw [Session.after] at waiting ⊢
      cases stands : session.status with
      | suspended suspension =>
        cases suspension with
        | act other =>
          rw [resume_act stands] at waiting ⊢
          exact run_spends_answers _ waiting
        | ask query =>
          rw [resume_ask stands] at waiting ⊢
          exact run_spends_answers _ waiting
      | running =>
        simp only [resume, stands] at waiting ⊢
        exact run_spends_answers _ waiting
      | terminated | limitExceeded | aborted =>
        simp only [resume, stands] at waiting
        exact nomatch waiting
    | answerEnemy direction => exact ih waiting
    | answerAlive answer => exact ih waiting
    | feed line => exact ih waiting
    | configure limit => rfl

end Session

end RobotScript
