import RobotScript.Proofs.Dialogue
import RobotScript.Proofs.Session.Calls

/-!
# A statement that asks takes effect once

A statement that lacks an answer is started over when the answer has come. So a statement with `k`
questions is attempted `k + 1` times, and the answers are kept as one list that several expressions
share.

`replays_once` says that this cannot be told from executing the statement once: its questions come
in order, each gets its own answer, nothing is printed, read or written twice, and no answer is left
over for the next statement.

The induction is over the exchanges with the host. What carries it is `Program.Replays`: the
statement, attempted with the answers so far, stands where its dialogue stands.
-/

namespace RobotScript

namespace Session

/-! ## Sessions about to execute a statement -/

mutual

/-- A statement is about to be executed for the first time since control came to it: a script was
just started, the host has acted, or the statement before is done. -/
inductive Due : Session → Prop
  | started {session : Session} {source : String} (reached : Reachable session)
      (clean : (Parse.ofSource source).errors = []) : Due (session.started source)
  | acted {session : Session} {action : Action} (reached : Reachable session)
      (waiting : session.status = .suspended (.act action)) :
      Due { session with status := .running }
  | followed {session : Session} {statement : Statement} (executing : Executing session)
      (found : session.program.statements[session.machine.pc]? = some statement)
      (within : (session.attempt statement).1.budget.exceeded = false)
      (done : (session.attempt statement).2 = .done) : Due (session.attempt statement).1

/-- A statement is about to be executed, for the first time or again with one more answer. -/
inductive Executing : Session → Prop
  | due {session : Session} (due : Due session) : Executing session
  | answered {session : Session} {query : Query} (reached : Reachable session)
      (waiting : session.status = .suspended (.ask query)) : Executing (session.accept query)

end

/-- No answer survives into the next statement. -/
theorem Due.answers {session : Session} (due : Due session) : session.machine.answers = [] := by
  cases due with
  | started reached clean => rfl
  | acted reached waiting => exact reached.answers_of_act waiting
  | followed executing found within done => exact attempt_answers (by rw [done]; rfl)

/-! ## Questions and answers -/

/-- The session with other answers left by the host. -/
def leaving (session : Session) (enemy : Option Direction) (alive : Option Int) : Session :=
  { session with enemy, alive }

/-- A question of a statement: the message to the host, the session that waits, and the answer it
gets. -/
structure Exchange where
  message : Message
  suspended : Session
  answer : Value

/-- `Interview statement session exchanges last`: the statement is due in `session`, asks the
questions of the exchanges within the limit, and each time the host leaves answers and resumes. The
session `last` is the one that runs after the last of these answers. -/
inductive Interview (statement : Statement) : Session → List Exchange → Session → Prop
  | finished (session : Session) : Interview statement session [] session
  | asked {session last : Session} {query : Query} {rest : List Exchange} (enemy : Option Direction)
      (alive : Option Int) (asks : (session.attempt statement).2 = .ask query)
      (within : (session.attempt statement).1.budget.exceeded = false)
      (later : Interview statement ((session.run.2.leaving enemy alive).accept query) rest last) :
      Interview statement session
        (⟨session.run.1, session.run.2, (session.run.2.leaving enemy alive).answerTo query⟩ ::
          rest) last

/-- The message that asks a question. -/
def asking (query : Query) : Message :=
  .suspended (.ask query)

/-! ## Attempts follow the dialogue -/

/-- An attempt that asks suspends the session at the same statement. -/
theorem run_asks {session : Session} {statement : Statement} {asked : Machine} {query : Query}
    {held : List Value} (found : session.program.statements[session.machine.pc]? = some statement)
    (executed : session.program.execute session.machine.advance session.machine.pc statement =
      (asked.advance.holding held, .ask query))
    (here : asked.pc = session.machine.pc)
    (within : (session.attempt statement).1.budget.exceeded = false) :
    session.run = (asking query,
      { session with
        machine := asked.holding held
        budget := session.budget.spend
        status := .suspended (.ask query) }) := by
  rw [run_eq found within, attempt_eq executed]
  simp only [conclude, suspend, asking, ← here]
  rfl

/-- An attempt that does not ask leaves what the statement made of the machine, without answers. -/
theorem attempt_closed {session : Session} {statement : Statement} {result : Machine}
    {outcome : Outcome} {spent : List Value} (closed : outcome.isQuestion = false)
    (executed : session.program.execute session.machine.advance session.machine.pc statement =
      (result.holding spent, outcome)) :
    session.attempt statement =
      ({ session with machine := result.holding [], budget := session.budget.spend }, outcome) := by
  rw [attempt_eq executed, closed]
  rfl

/-- What the exchanges of a statement come to, for any dialogue that its attempts follow. -/
theorem Interview.follows {statement : Statement} {session last : Session}
    {exchanges : List Exchange} (interview : Interview statement session exchanges last)
    (found : session.program.statements[session.machine.pc]? = some statement)
    (completed : (last.attempt statement).2.isQuestion = false)
    {dialogue : Dialogue (Machine × Outcome)}
    (replays : session.program.Replays statement session.machine dialogue)
    {queries : List Query} (asks : dialogue.Asks queries) {P : List Value → Machine → Prop}
    (rests : dialogue.Rests P) :
    exchanges.map Exchange.message = queries.map asking ∧
      (∃ result, dialogue.resolve (exchanges.map Exchange.answer) =
        some (result, (last.attempt statement).2) ∧
        (last.attempt statement).1.machine = result.holding []) ∧
      (∀ index exchange, exchanges[index]? = some exchange →
        ∃ asked held, exchange.suspended.machine = asked.holding held ∧
          asked.pc = session.machine.pc ∧
          P ((exchanges.map Exchange.answer).take index) asked) ∧
      (last.attempt statement).1.budget.used = session.budget.used + exchanges.length + 1 := by
  induction interview generalizing dialogue queries P with
  | finished session =>
    cases dialogue with
    | done final =>
      obtain ⟨result, outcome⟩ := final
      obtain ⟨closed, spent, executed⟩ := replays
      obtain rfl : queries = [] := asks
      rw [attempt_closed closed executed]
      refine ⟨rfl, ⟨result, rfl, rfl⟩, fun index exchange present => ?_, rfl⟩
      rw [List.getElem?_nil] at present
      exact nomatch present
    | ask asked query reply =>
      obtain ⟨here, held, executed, later⟩ := replays
      rw [attempt_eq executed] at completed
      exact nomatch completed
  | @asked session last query rest enemy alive questioned within later ih =>
    cases dialogue with
    | done final =>
      obtain ⟨result, outcome⟩ := final
      obtain ⟨closed, spent, executed⟩ := replays
      rw [attempt_closed closed executed] at questioned
      obtain rfl : outcome = .ask query := questioned
      exact nomatch closed
    | ask asked other reply =>
      obtain ⟨here, held, executed, following⟩ := replays
      obtain ⟨others, rfl, each⟩ := asks
      obtain ⟨now, afterwards⟩ := rests
      have ran := run_asks found executed here within
      rw [attempt_eq executed] at questioned
      obtain rfl : other = query := Outcome.ask.inj questioned
      rw [ran] at ih ⊢
      -- The session that waits stands at the question, and the one that runs on holds one more
      -- answer.
      have moved : ∀ waiting : Session, waiting.machine = asked.holding held →
          (waiting.accept other).machine = asked.holding (held ++ [waiting.answerTo other]) := by
        intro waiting same
        rw [accept_machine, same]
        rfl
      have again := moved
        ({ session with
            machine := asked.holding held
            budget := session.budget.spend
            status := .suspended (.ask other) }.leaving enemy alive) rfl
      obtain ⟨messages, ⟨result, resolved, final⟩, standing, count⟩ := ih
        (by rw [again, accept_program]; exact here ▸ found) completed
        (by rw [again, accept_program]; exact following _) (each _) (afterwards _)
      rw [again] at standing
      refine ⟨congrArg (asking other :: ·) messages, ⟨result, resolved, final⟩,
        fun index exchange present => ?_, ?_⟩
      · cases index with
        | zero =>
          obtain rfl := Option.some.inj present
          exact ⟨asked, held, rfl, here, now⟩
        | succ index =>
          obtain ⟨stage, kept, same, at', stands⟩ := standing index exchange present
          exact ⟨stage, kept, same, at'.trans here, stands⟩
      · rw [accept_budget] at count
        rw [count, List.length_cons]
        show session.budget.used + 1 + rest.length + 1 = _
        omega

/-! ## Once and for all -/

/-- A statement that asks takes effect once. For a statement that is due and that ends after some
exchanges with the host:
* the messages to the host are its questions in the order of evaluation;
* the machine it leaves, and how it ends, are those of one execution in which each question gets its
  own answer;
* at each question the machine stands at the statement, as before it, except that a counted loop
  keeps the assignment it has made;
* no answer is left over, and each attempt is paid for. -/
theorem replays_once {session last : Session} {statement : Statement} {exchanges : List Exchange}
    (due : Due session) (found : session.program.statements[session.machine.pc]? = some statement)
    (interview : Interview statement session exchanges last)
    (completed : (last.attempt statement).2.isQuestion = false) :
    exchanges.map Exchange.message =
      (session.program.questions session.machine statement).map asking ∧
      (∃ result,
        (session.program.perform session.machine statement).resolve
          (exchanges.map Exchange.answer) = some (result, (last.attempt statement).2) ∧
        (last.attempt statement).1.machine = result.holding []) ∧
      (∀ index exchange, exchanges[index]? = some exchange →
        exchange.suspended.machine.pc = session.machine.pc ∧
          session.machine.StandsAt statement ((exchanges.map Exchange.answer).take index)
            (exchange.suspended.machine.holding [])) ∧
      (last.attempt statement).1.machine.answers = [] ∧
      (last.attempt statement).1.budget.used = session.budget.used + exchanges.length + 1 := by
  have fresh := due.answers
  obtain ⟨messages, ⟨result, resolved, final⟩, standing, count⟩ :=
    interview.follows found completed
      (session.program.replays_perform fresh statement)
      (session.program.asks_perform session.machine statement)
      (session.program.rests_perform session.machine statement)
  refine ⟨messages, ⟨result, resolved, final⟩, fun index exchange present => ?_,
    attempt_answers completed, count⟩
  obtain ⟨asked, held, same, here, stands⟩ := standing index exchange present
  rw [same]
  refine ⟨here, ?_⟩
  show session.machine.StandsAt statement _ (asked.holding [])
  rw [Machine.holding_nil (Machine.StandsAt.answers fresh stands)]
  exact stands

/-- A counted loop with a question in its first assignment and one in its condition. -/
def questioningLoop : Statement :=
  .pour ⟨"i", .ask .alive⟩ (.binary .less (.var "i") (.ask .enemy))
    ⟨"i", .ask .alive⟩ "0" "1"

/-- On entry the loop asks both questions and is paid for three times. -/
theorem questioningLoop_replays_once : ∃ session exchanges last,
    Due session ∧ Interview questioningLoop session exchanges last ∧
      exchanges.map Exchange.message = [asking .alive, asking .enemy] ∧
      (last.attempt questioningLoop).1.machine.answers = [] ∧
      (last.attempt questioningLoop).1.budget.used = 3 := by
  let session := (Session.ofInput []).started
    "pour (i = estVivant() ; i < detecterEnnemi() ; i = estVivant())\nfinpour"
  have due : Due session := .started (.initial []) (by decide +kernel)
  have found : session.program.statements[session.machine.pc]? = some questioningLoop := by
    decide +kernel
  let answered := (session.run.2.leaving none (some 1)).accept .alive
  have interview := Interview.asked none (some 1)
    (show (session.attempt questioningLoop).2 = .ask .alive by decide +kernel) (by decide +kernel)
    (.asked (some .upLeft) none
      (show (answered.attempt questioningLoop).2 = .ask .enemy by decide +kernel)
      (by decide +kernel) (.finished _))
  obtain ⟨messages, _, _, answers, count⟩ :=
    replays_once due found interview (by decide +kernel)
  refine ⟨session, _, _, due, interview, messages.trans ?_, answers, count⟩
  decide +kernel

end Session

end RobotScript
