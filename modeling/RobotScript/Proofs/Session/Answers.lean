import RobotScript.Proofs.Session.Consistency

/-!
# Every question gets its own answer

A host can leave an answer to each of the two questions whenever it likes. The answer stays until it
is used up: by a script that asks the question and is resumed, or by a new script. `left` is what is
left for a question, and `takes` says which calls use it up.

* `left_after`: a call that does not use it up keeps what is left, or leaves something else.
* `left_afterAll`: after calls that do not use it up, the last answer is left.
* `exists_since`: when a session waits for an answer, some call was the last one to use one up.
* `Consistent.receives`: a session that is resumed gives the answer to the question at which its
  statement is stuck.

`answers_reach_questions` puts these together.
-/

namespace RobotScript

/-- The answer to a question that a call leaves. -/
def Call.answer? (query : Query) (call : Call) : Option Value :=
  match query, call with
  | .enemy, .answerEnemy direction => some (.direction direction)
  | .alive, .answerAlive answer => some (.number (Decimal.ofInt answer))
  | _, _ => none

/-- The call leaves an answer. -/
def Call.isLeaving : Call → Bool
  | answerEnemy _ | answerAlive _ => true
  | interpret _ | resume | feed _ | configure _ => false

/-- The last answer to a question that calls in a row leave. -/
def lastAnswer (query : Query) (calls : List Call) : Option Value :=
  calls.reverse.findSome? (Call.answer? query)

/-- A dialogue that asks has used up its answers. -/
theorem Dialogue.rest_of_feed {α : Type} {dialogue : Dialogue α} {answers rest : List Value}
    {machine : Machine} {query : Query} {reply : Value → Dialogue α}
    (asks : dialogue.feed answers = (.ask machine query reply, rest)) :
    rest = [] := by
  induction dialogue generalizing answers with
  | done result => simp [feed] at asks
  | ask first other further ih =>
    cases answers with
    | nil => exact (Prod.mk.inj asks).2.symm
    | cons answer answers => exact ih answer asks

namespace Session

/-- The answer that is left for a question. -/
def left (session : Session) : Query → Option Value
  | .enemy => session.enemy.map .direction
  | .alive => session.alive.map fun answer => .number (Decimal.ofInt answer)

/-- The call uses up what is left for a question: it starts a script, or goes on after that
question. -/
def takes (session : Session) (query : Query) : Call → Bool
  | .interpret _ => true
  | .resume => session.status = .suspended (.ask query)
  | .answerEnemy _ | .answerAlive _ | .feed _ | .configure _ => false

/-- None of the calls in a row uses up what is left for a question. -/
def Spares (query : Query) : Session → List Call → Prop
  | _, [] => True
  | session, call :: calls =>
    session.takes query call = false ∧ Spares query (session.after call) calls

/-- The later ones of the calls are those since the last call that used up what was left for a
question. -/
def Since (start : Session) (query : Query) (calls later : List Call) : Prop :=
  ∃ earlier call, calls = earlier ++ call :: later ∧
    (start.afterAll earlier).takes query call = true ∧
    Spares query ((start.afterAll earlier).after call) later

/-- To go on gives an answer to the question at which the session waits. The answer comes after
those that the expression has used up, and the expression goes on from the question with it. -/
def Receives (session : Session) (query : Query) (answer : Value) : Prop :=
  session.resume = (session.accept query).run ∧
    (session.accept query).machine =
      session.machine.holding (session.machine.answers ++ [answer]) ∧
    ∃ statement expr asked reply, session.program.statements[session.machine.pc]? =
      some statement ∧
      session.machine.due statement = some expr ∧
      (session.machine.evaluate expr).feed session.machine.answers =
        (.ask asked query reply, []) ∧
      (session.machine.evaluate expr).feed (session.machine.answers ++ [answer]) =
        (reply answer, [])

variable {session : Session} {query : Query}

/-! ## What is left -/

theorem answerTo_eq (session : Session) (query : Query) :
    session.answerTo query = (session.left query).getD (.number 0.0) := by
  cases query with
  | enemy => rfl
  | alive =>
    have zero : Decimal.ofInt 0 = 0.0 := by decide +kernel
    unfold answerTo left
    cases session.alive with
    | none => exact congrArg Value.number zero
    | some answer => rfl

/-- A run uses up nothing. -/
theorem run_left (session : Session) (query : Query) :
    session.run.2.left query = session.left query := by
  obtain ⟨last, passes, halts⟩ := session.run_halts
  have same : last.left query = session.left query :=
    passes.keeps (P := fun later => later.left query = session.left query)
      (fun same _ _ _ => same) rfl
  generalize session.run = ran at halts
  cases halts with
  | ended | exceeded | acted | asked | failed => exact same

theorem settle_left (session : Session) (query : Query) :
    session.settle.left query = session.left query := by
  unfold settle
  split
  · exact session.run_left query
  · rfl

/-- The session takes what was left for its question, and nothing else. -/
theorem accept_left (session : Session) (query other : Query) :
    (session.accept query).left other = if other = query then none else session.left other := by
  cases query <;> cases other <;> rfl

/-- What is left for a question when a call has begun. -/
theorem begun_left (session : Session) (query : Query) (call : Call) :
    (session.begun call).left query =
      if session.takes query call then none else (call.answer? query).or (session.left query) := by
  cases call with
  | interpret source =>
    have nothing : (session.started source).left query = none := by cases query <;> rfl
    rw [takes, if_pos rfl]
    simp only [begun]
    split
    · exact nothing
    · exact nothing
  | resume =>
    have silent : Call.resume.answer? query = none := by cases query <;> rfl
    rw [silent, Option.none_or]
    cases stands : session.status with
    | suspended suspension =>
      cases suspension with
      | act action =>
        have spared : session.takes query .resume = false := by simp [takes, stands]
        rw [spared, begun, stands]
        rfl
      | ask other =>
        have taken : session.takes query .resume = decide (query = other) := by
          simp [takes, stands, eq_comm]
        rw [taken, begun, stands, accept_left]
        simp only [decide_eq_true_eq]
    | running | terminated | limitExceeded | aborted =>
      have spared : session.takes query .resume = false := by simp [takes, stands]
      rw [spared, begun, stands]
      rfl
  | answerEnemy | answerAlive | feed | configure => cases query <;> rfl

theorem left_after (resting : session.status ≠ .running) (query : Query) (call : Call) :
    (session.after call).left query =
      if session.takes query call then none else (call.answer? query).or (session.left query) := by
  rw [after_eq_settle resting, settle_left, begun_left]

/-- After calls that do not use it up, the last answer is left. -/
theorem left_afterAll (resting : session.status ≠ .running) {calls : List Call}
    (spares : Spares query session calls) :
    (session.afterAll calls).left query = (lastAnswer query calls).or (session.left query) := by
  induction calls generalizing session with
  | nil => rfl
  | cons call calls ih =>
    obtain ⟨spared, later⟩ := spares
    have rests : (session.after call).status ≠ .running :=
      after_eq_settle resting call ▸ settle_status _
    have first :
        lastAnswer query (call :: calls) = (lastAnswer query calls).or (call.answer? query) := by
      simp [lastAnswer, List.findSome?_append]
    rw [afterAll_cons, ih rests later, left_after resting, spared, first, Option.or_assoc]
    rfl

/-! ## Since the last answer was used up -/

theorem Since.cons {call : Call} {calls later : List Call}
    (since : Since (session.after call) query calls later) :
    Since session query (call :: calls) later := by
  obtain ⟨earlier, last, same, taken, spares⟩ := since
  exact ⟨call :: earlier, last, by rw [same, List.cons_append], taken, spares⟩

theorem spares_or_since (session : Session) (query : Query) (calls : List Call) :
    Spares query session calls ∨ ∃ later, Since session query calls later := by
  induction calls generalizing session with
  | nil => exact .inl trivial
  | cons call calls ih =>
    rcases ih (session.after call) with spares | ⟨later, since⟩
    · cases taken : session.takes query call with
      | true => exact .inr ⟨calls, [], call, rfl, taken, spares⟩
      | false => exact .inl ⟨taken, spares⟩
    · exact .inr ⟨later, since.cons⟩

/-- Only a script sets a session going. -/
theorem over_of_spares (closed : session.status.isOver = true) {calls : List Call}
    (spares : Spares query session calls) :
    (session.afterAll calls).status.isOver = true := by
  induction calls generalizing session with
  | nil => exact closed
  | cons call calls ih =>
    obtain ⟨spared, later⟩ := spares
    refine ih ?_ later
    cases call with
    | interpret source => cases spared
    | resume =>
      have answers : Call.resume.isAnswer = true := rfl
      obtain ⟨enemy, alive, same⟩ := after_over closed answers
      rw [same]
      exact closed
    | answerEnemy | answerAlive | feed => exact closed
    | configure limit => rfl

theorem exists_since (lines : List String) {calls : List Call} {suspension : Suspension}
    (waiting : ((Session.ofInput lines).afterAll calls).status = .suspended suspension)
    (query : Query) :
    ∃ later, Since (.ofInput lines) query calls later := by
  rcases (Session.ofInput lines).spares_or_since query calls with spares | since
  · have closed : ((Session.ofInput lines).afterAll calls).status.isOver = true :=
      over_of_spares rfl spares
    rw [waiting] at closed
    cases closed
  · exact since

/-- What is left for a question is the last answer since one was used up. -/
theorem Since.left_eq {start : Session} {calls later : List Call}
    (since : Since start query calls later) (consistent : start.Consistent) :
    (start.afterAll calls).left query = lastAnswer query later := by
  obtain ⟨earlier, call, rfl, taken, spares⟩ := since
  have rests := (consistent.afterAll earlier).resting
  have nothing := left_after rests query call
  rw [taken, if_pos rfl] at nothing
  rw [afterAll_append, afterAll_cons,
    left_afterAll ((consistent.afterAll earlier).after call).resting spares, nothing,
    Option.or_none]

/-! ## Questions -/

/-- A session that waits for an answer gives what is left to the question at which its statement is
stuck. -/
theorem Consistent.receives (consistent : session.Consistent)
    (waiting : session.status = .suspended (.ask query)) :
    session.Receives query (session.answerTo query) := by
  obtain ⟨-, statement, found, lacks, -⟩ := consistent.asks query waiting
  obtain ⟨expr, due, lacking⟩ := lacks.asks
  refine ⟨resume_ask waiting, accept_machine session query, statement, expr, ?_⟩
  have evaluated : (expr.eval session.machine.store session.machine.answers).1 = .error query :=
    lacking
  rw [Expr.eval_eq_feed session.machine] at evaluated
  rcases fed : (session.machine.evaluate expr).feed session.machine.answers with
    ⟨_ | ⟨asked, other, reply⟩, rest⟩
  · rw [fed] at evaluated
    cases evaluated
  · rw [fed] at evaluated
    cases evaluated
    obtain rfl := Dialogue.rest_of_feed fed
    exact ⟨asked, reply, found, due, rfl, Dialogue.feed_snoc fed _⟩

/-- Answers alone change nothing but what is left. -/
theorem afterAll_leaving (session : Session) {calls : List Call}
    (leaves : ∀ call ∈ calls, call.isLeaving = true) :
    ∃ enemy alive, session.afterAll calls = session.leaving enemy alive := by
  refine afterAll_keeps (P := fun later => ∃ enemy alive, later = session.leaving enemy alive) ?_
    ⟨session.enemy, session.alive, rfl⟩
  rintro _ call ⟨enemy, alive, rfl⟩ member
  have leaves := leaves call member
  cases call with
  | answerEnemy direction => exact ⟨some direction, alive, rfl⟩
  | answerAlive answer => exact ⟨enemy, some answer, rfl⟩
  | interpret | resume | feed | configure => cases leaves

/-- Whatever calls a host has made on a session, and in whatever order:
* To go on after a question gives it the last answer that the host has left since it was used up, by
  a new script or by going on after the same question. If the host has left none, the question gets
  zero. Then nothing is left for it.
* To go on in any other way keeps what is left for the question.
* Answers alone change nothing but what is left. -/
theorem answers_reach_questions (lines : List String) (calls : List Call) (query : Query) :
    (((Session.ofInput lines).afterAll calls).status = .suspended (.ask query) →
      (∃ later, Since (.ofInput lines) query calls later) ∧
      (∀ later, Since (.ofInput lines) query calls later →
        ((Session.ofInput lines).afterAll calls).Receives query
          ((lastAnswer query later).getD (.number 0.0))) ∧
      (((Session.ofInput lines).afterAll calls).after .resume).left query = none) ∧
    (((Session.ofInput lines).afterAll calls).status ≠ .suspended (.ask query) →
      (((Session.ofInput lines).afterAll calls).after .resume).left query =
        ((Session.ofInput lines).afterAll calls).left query) ∧
    ∀ answers, (∀ call ∈ answers, call.isLeaving = true) →
      ∃ enemy alive, ((Session.ofInput lines).afterAll calls).afterAll answers =
        ((Session.ofInput lines).afterAll calls).leaving enemy alive := by
  have new := consistent_ofInput lines
  have consistent := new.afterAll calls
  have resumed := left_after consistent.resting query .resume
  refine ⟨fun waiting => ⟨exists_since lines waiting query, fun later since => ?_, ?_⟩,
    fun elsewhere => ?_, ?_⟩
  · have received := consistent.receives waiting
    rwa [answerTo_eq, since.left_eq new] at received
  · rw [resumed, takes, waiting]
    simp
  · have silent : Call.resume.answer? query = none := by cases query <;> rfl
    rw [resumed, takes, decide_eq_false elsewhere, silent]
    rfl
  · exact fun answers leaves => afterAll_leaving _ leaves

/-- A script with three questions. -/
def questionnaire : String :=
  "d = detecterEnnemi()\na = estVivant()\nd = detecterEnnemi()"

/-- Calls that leave an answer for the old script, an early answer, and two answers to the same
question. -/
def hastyCalls : List Call :=
  [.answerAlive 7, .interpret questionnaire, .answerAlive 1, .answerEnemy .upLeft,
    .answerEnemy .downRight, .resume]

/-- The early answer waits while the other question is answered. It is used once. -/
theorem answers_reach_questions_hastyCalls :
    ((Session.ofInput []).afterAll hastyCalls).status = .suspended (.ask .alive) ∧
      ((Session.ofInput []).afterAll hastyCalls).Receives .alive (.number 1.0) ∧
      (((Session.ofInput []).afterAll hastyCalls).after .resume).left .alive = none := by
  have waiting : ((Session.ofInput []).afterAll hastyCalls).status = .suspended (.ask .alive) := by
    decide +kernel
  obtain ⟨-, receives, nothing⟩ := (answers_reach_questions [] hastyCalls .alive).1 waiting
  have other :
      ((((Session.ofInput []).afterAll [.answerAlive 7]).after (.interpret questionnaire)).afterAll
      [.answerAlive 1, .answerEnemy .upLeft, .answerEnemy .downRight]).takes .alive .resume =
        false := by decide +kernel
  have received := receives [.answerAlive 1, .answerEnemy .upLeft, .answerEnemy .downRight, .resume]
    ⟨[.answerAlive 7], .interpret questionnaire, rfl, rfl, rfl, rfl, rfl, other, trivial⟩
  have one : (lastAnswer .alive [.answerAlive 1, .answerEnemy .upLeft, .answerEnemy .downRight,
      .resume]).getD (.number 0.0) = .number 1.0 := by decide +kernel
  exact ⟨waiting, one ▸ received, nothing⟩

end Session

end RobotScript
