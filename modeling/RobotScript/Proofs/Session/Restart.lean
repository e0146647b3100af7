import RobotScript.Proofs.Session.Rounds

/-!
# A new script forgets the past

Nothing that a session does depends on what it has printed. `precededBy` puts lines in front of what
was printed, and one lemma for each level says that this commutes with everything:
`execute_precededBy` for a statement, `run_precededBy` for a run, `after_precededBy` for a call,
`history_precededBy` for calls in a row.

A script that is started takes from the session before it only the limit and the console. So up to
the lines that were printed before, it is started on a fresh session. `interpret_forgets` puts the
two together.
-/

namespace RobotScript

/-! ## Statements -/

/-- The console as if it had printed some lines before. -/
def Console.precededBy (console : Console) (lines : Array String) : Console :=
  { console with output := lines ++ console.output }

/-- The machine as if it had printed some lines before. -/
def Machine.precededBy (machine : Machine) (lines : Array String) : Machine :=
  { machine with console := machine.console.precededBy lines }

/-- The result of a statement as if some lines had been printed before. -/
def Outcome.precededBy (result : Machine × Outcome) (lines : Array String) : Machine × Outcome :=
  (result.1.precededBy lines, result.2)

namespace Machine

variable (machine : Machine) (lines : Array String)

theorem print_precededBy (line : String) :
    { machine.precededBy lines with console := (machine.console.precededBy lines).print line } =
      { machine with console := machine.console.print line }.precededBy lines := by
  simp [precededBy, Console.precededBy, Console.print]

theorem readInto_precededBy (name : String) :
    (machine.precededBy lines).readInto name = (machine.readInto name).precededBy lines := by
  have input : (machine.precededBy lines).console.input = machine.console.input := rfl
  cases rest : machine.console.input with
  | nil => simp only [readInto, Console.readLine, input, rest]
  | cons line others =>
    simp only [readInto, Console.readLine, input, rest]
    rfl

variable {machine lines}

theorem withValue_precededBy {expr : Expr} {following later : Value → Machine × Outcome}
    (same : ∀ value, later value = Outcome.precededBy (following value) lines) :
    (machine.precededBy lines).withValue expr later =
      Outcome.precededBy (machine.withValue expr following) lines := by
  have read : (machine.precededBy lines).value expr = machine.value expr := rfl
  cases known : machine.value expr with
  | ok value => rw [withValue_ok known, withValue_ok (read.trans known), same]
  | error query =>
    rw [withValue_error known, withValue_error (read.trans known)]
    rfl

theorem withLabel_precededBy {labels : Table String Nat} {label : String}
    {following later : Nat → Machine × Outcome}
    (same : ∀ target, later target = Outcome.precededBy (following target) lines) :
    (machine.precededBy lines).withLabel labels label later =
      Outcome.precededBy (machine.withLabel labels label following) lines := by
  cases known : labels.get? label with
  | some target => rw [withLabel_some known, withLabel_some known, same]
  | none =>
    rw [withLabel_none known, withLabel_none known]
    rfl

theorem withBearing_precededBy {bearing : Bearing}
    {following later : Direction → Machine × Outcome}
    (same : ∀ direction, later direction = Outcome.precededBy (following direction) lines) :
    (machine.precededBy lines).withBearing bearing later =
      Outcome.precededBy (machine.withBearing bearing following) lines := by
  cases bearing with
  | toward direction => exact same direction
  | held name =>
    have read : (machine.precededBy lines).store.get? name = machine.store.get? name := rfl
    cases known : machine.store.get? name with
    | some value => simp only [withBearing, read, known, same]
    | none =>
      simp only [withBearing, read, known]
      rfl

theorem prepareLoop_precededBy (index : Nat) (init step : Assignment) :
    (machine.precededBy lines).prepareLoop index init step =
      (machine.prepareLoop index init step).map (·.precededBy lines) := by
  have settled : ∀ assignment : Assignment, (machine.precededBy lines).value assignment.value =
      machine.value assignment.value := fun _ => rfl
  have phases : (machine.precededBy lines).loops = machine.loops := rfl
  simp only [prepareLoop, phases, settled]
  cases machine.loops.get? index with
  | none => cases machine.value init.value <;> rfl
  | some phase =>
    cases phase with
    | iterating => cases machine.value step.value <;> rfl
    | checking => rfl

end Machine

/-- What a statement does does not depend on the lines that were printed before it. -/
theorem Program.execute_precededBy (program : Program) (machine : Machine)
    (lines : Array String) (index : Nat) (statement : Statement) :
    program.execute (machine.precededBy lines) index statement =
      Outcome.precededBy (program.execute machine index statement) lines := by
  cases statement with
  | print expr =>
    refine Machine.withValue_precededBy fun value => ?_
    exact congrArg (·, Outcome.done) (machine.print_precededBy lines value.write)
  | input name => exact congrArg (·, Outcome.done) (machine.readInto_precededBy lines name)
  | assign assignment => exact Machine.withValue_precededBy fun value => rfl
  | goto label => exact Machine.withLabel_precededBy fun target => rfl
  | si condition otherwise finish =>
    refine Machine.withLabel_precededBy fun target => Machine.withValue_precededBy fun value => ?_
    cases otherwise with
    | none => split <;> rfl
    | some label =>
      split
      · rfl
      · exact Machine.withLabel_precededBy fun target => rfl
  | tantque condition start finish =>
    refine Machine.withLabel_precededBy fun target => Machine.withValue_precededBy fun value => ?_
    split <;> rfl
  | pour init condition step start finish =>
    refine Machine.withLabel_precededBy fun target => ?_
    rw [Machine.prepareLoop_precededBy]
    cases machine.prepareLoop index init step with
    | error query => rfl
    | ok prepared =>
      refine Machine.withValue_precededBy fun value => ?_
      split <;> rfl
  | move bearing => exact Machine.withBearing_precededBy fun direction => rfl
  | shoot bearing => exact Machine.withBearing_precededBy fun direction => rfl
  | melee direction => rfl
  | reload => rfl

namespace Session

/-! ## Runs and calls -/

/-- The session as if it had printed some lines before. -/
def precededBy (session : Session) (lines : Array String) : Session :=
  { session with machine := session.machine.precededBy lines }

/-- A reply and a session as if the session had printed some lines before. -/
def entryPrecededBy (lines : Array String) (entry : Option Message × Session) :
    Option Message × Session :=
  (entry.1, entry.2.precededBy lines)

variable (session : Session) (lines : Array String)

theorem attempt_precededBy (statement : Statement) :
    (session.precededBy lines).attempt statement =
      ((session.attempt statement).1.precededBy lines, (session.attempt statement).2) := by
  have same :=
    session.program.execute_precededBy (session.machine.jump (session.machine.pc + 1)) lines
    session.machine.pc statement
  cases executed : session.program.execute (session.machine.jump (session.machine.pc + 1))
    session.machine.pc statement with
  | mk machine outcome =>
    rw [executed] at same
    rw [attempt_eq executed, attempt_eq same]
    cases outcome <;> rfl

/-- One round of a run with lines printed before it. -/
theorem round_precededBy {session : Session} {statement : Statement}
    (found : session.program.statements[session.machine.pc]? = some statement)
    (within : ¬(session.attempt statement).1.budget.exceeded = true) :
    (session.precededBy lines).run =
      session.conclude ((session.attempt statement).1.precededBy lines)
        (session.attempt statement).2 := by
  have same := session.attempt_precededBy lines statement
  have opened : (session.precededBy lines).run = _ :=
    run_eq found (by rw [same]; exact Bool.eq_false_iff.mpr within)
  rw [opened, same]
  cases (session.attempt statement).2 <;> rfl

/-- What a run says and does does not depend on the lines that were printed before it. -/
theorem run_precededBy :
    (session.precededBy lines).run = (session.run.1, session.run.2.precededBy lines) := by
  fun_induction run session with
  | case1 session ended => exact run_ended ended
  | case2 session statement found attempted past =>
    have same := session.attempt_precededBy lines statement
    have opened : (session.precededBy lines).run = _ :=
      run_exceeded found (by rw [same]; exact past)
    rw [opened, same]
    rfl
  | case3 session statement found attempted within _ outcome ih =>
    rw [round_precededBy lines found within, outcome]
    exact ih
  | case4 session statement found attempted within _ action outcome =>
    rw [round_precededBy lines found within, outcome]
    rfl
  | case5 session statement found attempted within _ query outcome =>
    rw [round_precededBy lines found within, outcome]
    rfl
  | case6 session statement found attempted within _ diagnostic outcome =>
    rw [round_precededBy lines found within, outcome]
    rfl

theorem accept_precededBy (query : Query) :
    (session.precededBy lines).accept query = (session.accept query).precededBy lines := by
  cases query <;> rfl

/-- What a call leaves and how it is answered do not depend on the lines that were printed before
it. -/
theorem after_precededBy (call : Call) :
    (session.precededBy lines).reply call = session.reply call ∧
      (session.precededBy lines).after call = (session.after call).precededBy lines := by
  -- a call that runs nothing changes no line, and one that runs is a run from the same session
  have ofRun : ∀ started : Session, some (started.precededBy lines).run.1 = some started.run.1 ∧
      (started.precededBy lines).run.2 = started.run.2.precededBy lines := by
    intro started
    rw [run_precededBy]
    exact ⟨rfl, rfl⟩
  cases call with
  | interpret source =>
    simp only [reply, after]
    by_cases clean : (Parse.ofSource source).errors = []
    · rw [interpret_eq_run clean, interpret_eq_run clean]
      exact ofRun (session.started source)
    · rw [interpret_eq_failed clean, interpret_eq_failed clean]
      exact ⟨rfl, rfl⟩
  | resume =>
    have status : (session.precededBy lines).status = session.status := rfl
    simp only [reply, after]
    cases stands : session.status with
    | suspended suspension =>
      cases suspension with
      | act action =>
        rw [resume_act stands, resume_act (status.trans stands)]
        exact ofRun { session with status := .running }
      | ask query =>
        rw [resume_ask stands, resume_ask (status.trans stands), accept_precededBy]
        exact ofRun (session.accept query)
    | running =>
      simp only [resume, status, stands]
      exact ofRun session
    | terminated | limitExceeded | aborted => simp [resume, precededBy, stands]
  | answerEnemy direction => exact ⟨rfl, rfl⟩
  | answerAlive answer => exact ⟨rfl, rfl⟩
  | feed line => exact ⟨rfl, rfl⟩
  | configure limit => exact ⟨rfl, rfl⟩

/-- Calls in a row are answered the same whatever was printed before them. -/
theorem history_precededBy (calls : List Call) :
    (session.precededBy lines).history calls =
      (session.history calls).map (entryPrecededBy lines) := by
  induction calls generalizing session with
  | nil => rfl
  | cons call calls ih =>
    obtain ⟨replied, left⟩ := session.after_precededBy lines call
    show (_, _) :: _ = (_, _) :: _
    rw [replied, left, ih]

/-! ## Starting a script -/

/-- A script takes the limit and the console from the session that it is started on, and nothing
else. -/
theorem interpret_eq_fresh (source : String) :
    session.interpret source =
      ((fresh session.machine.console.input session.budget.limit).precededBy
        session.machine.console.output).interpret source := by
  have same : session.started source =
      ((fresh session.machine.console.input session.budget.limit).precededBy
        session.machine.console.output).started source := by
    simp [started, precededBy, Machine.precededBy, Console.precededBy, fresh, configure, ofInput,
      Console.ofInput, Budget.reset, Budget.ofLimit]
  by_cases clean : (Parse.ofSource source).errors = []
  · rw [interpret_eq_run clean, interpret_eq_run clean, same]
  · rw [interpret_eq_failed clean, interpret_eq_failed clean, same]

/-- To start a script forgets the past, in whatever way the session stands.
* From there on, whatever the host calls, it gets the replies of a fresh session with the same limit
  and the same lines to read, and after every call the session is the fresh one, but for the lines
  that were printed before.
* A script with errors is not run: nothing is executed, no variable is set, and the console stays as
  it is. -/
theorem interpret_forgets (source : String) (calls : List Call) :
    session.history (.interpret source :: calls) =
        ((fresh session.machine.console.input session.budget.limit).history
          (.interpret source :: calls)).map (entryPrecededBy session.machine.console.output) ∧
      ((Parse.ofSource source).errors ≠ [] →
        (session.after (.interpret source)).budget.used = 0 ∧
          (session.after (.interpret source)).machine.store = {} ∧
            (session.after (.interpret source)).machine.console = session.machine.console) := by
  constructor
  · rw [← history_precededBy]
    simp only [history, reply, after]
    rw [← interpret_eq_fresh]
  · intro faulty
    rw [after, interpret_eq_failed faulty]
    exact ⟨rfl, rfl, rfl⟩

/-- Calls that leave a counted loop in its step, with one answer held and another one left. -/
def interrupted : List Call :=
  [.interpret
    "print 2\npour (i = 0; i < 2; i = estVivant() + detecterEnnemi())\nrecharger()\nfinpour",
    .resume, .answerAlive 1, .resume, .answerEnemy .upRight]

/-- A script with an error on a session that was interrupted: nothing more is printed, and no line
is read. -/
theorem interpret_forgets_interrupted :
    let session := (Session.ofInput ["3"]).afterAll interrupted
    (session.status = .suspended (.ask .enemy) ∧ session.machine.answers.length = 1 ∧
      session.budget.limit = 500 ∧
      session.machine.console = { output := #["2"], input := ["3"] }) ∧
    session.history [.interpret "finsi", .resume] =
      ((fresh ["3"] 500).history [.interpret "finsi", .resume]).map (entryPrecededBy #["2"]) ∧
    (Parse.ofSource "finsi").errors ≠ [] ∧
    (session.after (.interpret "finsi")).machine.console =
      { output := #["2"], input := ["3"] } := by
  intro session
  have stands : session.status = .suspended (.ask .enemy) ∧ session.machine.answers.length = 1 ∧
      session.budget.limit = 500 ∧
        session.machine.console = { output := #["2"], input := ["3"] } := by
    decide +kernel
  have faulty : (Parse.ofSource "finsi").errors ≠ [] := by decide +kernel
  have ⟨_, _, limit, console⟩ := stands
  obtain ⟨same, failed⟩ := session.interpret_forgets "finsi" [.resume]
  rw [console, limit] at same
  exact ⟨stands, same, faulty, (failed faulty).2.2.trans console⟩

end Session

end RobotScript
