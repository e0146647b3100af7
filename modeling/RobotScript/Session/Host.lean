import RobotScript.Session

/-!
# Hosts

A host answers the questions of a script. `Session.converse` lets a session and a host talk to each
other until the run is over. It ends because every suspension has been paid for with a statement.
-/

namespace RobotScript

/-- How to answer questions, from a state that the answers may change. Without an answer the
question reads as zero. -/
structure Host (σ : Type) where
  enemy : σ → Option Direction × σ
  alive : σ → Option Int × σ

namespace Host

variable {σ : Type}

/-- The session with the answer to what it waits for, and the host afterwards. -/
def attend (host : Host σ) (state : σ) (session : Session) : Suspension → Session × σ
  | .ask .enemy =>
    match host.enemy state with
    | (some direction, state) => (session.answerEnemy direction, state)
    | (none, state) => (session, state)
  | .ask .alive =>
    match host.alive state with
    | (some answer, state) => (session.answerAlive answer, state)
    | (none, state) => (session, state)
  | .act _ => (session, state)

/-- A host that always gives the same answers. -/
def constant (enemy : Option Direction) (alive : Option Int) : Host Unit where
  enemy _ := (enemy, ())
  alive _ := (alive, ())

/-- A host that gives prepared answers to either question, one after the other. -/
def prepared : Host (List (Option Direction) × List (Option Int)) where
  enemy state := (state.1.headD none, state.1.tail, state.2)
  alive state := (state.2.headD none, state.1, state.2.tail)

theorem attend_budget (host : Host σ) (state : σ) (session : Session) (suspension : Suspension) :
    (host.attend state session suspension).1.budget = session.budget := by
  rcases suspension with action | query
  · rfl
  · cases query <;> simp only [attend] <;> split <;> rfl

theorem attend_status (host : Host σ) (state : σ) (session : Session) (suspension : Suspension) :
    (host.attend state session suspension).1.status = session.status := by
  rcases suspension with action | query
  · rfl
  · cases query <;> simp only [attend] <;> split <;> rfl

end Host

namespace Session

/-- Resuming a suspended session is a run with the same budget. -/
theorem resume_suspended {session : Session} {suspension : Suspension}
    (waiting : session.status = .suspended suspension) :
    ∃ ready : Session, ready.budget = session.budget ∧ session.resume = ready.run := by
  rcases suspension with action | query
  · exact ⟨{ session with status := .running }, rfl, by simp [resume, waiting]⟩
  · cases query
    · exact ⟨{ session.deliver ((session.enemy.map Value.direction).getD (.number 0.0)) with
        enemy := none, status := .running }, rfl, by simp [resume, waiting]⟩
    · exact ⟨{ session.deliver (.number (Decimal.ofInt (session.alive.getD 0))) with
        alive := none, status := .running }, rfl, by simp [resume, waiting]⟩

/-- What is left of the budget, a suspension counting for half a statement. It shrinks with every
exchange. -/
def patience (session : Session) : Nat :=
  2 * (session.budget.limit + 1 - session.budget.used) +
    match session.status with
    | .suspended _ => 1
    | _ => 0

theorem patience_resume_lt {session : Session} {suspension : Suspension}
    (waiting : session.status = .suspended suspension) :
    session.resume.2.patience < session.patience := by
  obtain ⟨ready, same, resumed⟩ := resume_suspended waiting
  obtain ⟨limit, used, suspended⟩ := ready.run_advances
  rw [resumed]
  rw [same] at limit used suspended
  cases stopped : ready.run.2.status with
  | suspended other =>
    obtain ⟨more, bounded⟩ := suspended other stopped
    simp only [patience, stopped, waiting, limit]
    omega
  | running | terminated | limitExceeded | aborted =>
    simp only [patience, stopped, waiting, limit]
    omega

theorem patience_attend_lt {σ : Type} (host : Host σ) (state : σ) {session : Session}
    {suspension : Suspension} (waiting : session.status = .suspended suspension) :
    (host.attend state session suspension).1.resume.2.patience < session.patience := by
  have waits : (host.attend state session suspension).1.status = .suspended suspension := by
    rw [Host.attend_status, waiting]
  have same : (host.attend state session suspension).1.patience = session.patience := by
    simp only [patience, Host.attend_budget, Host.attend_status]
  exact same ▸ patience_resume_lt waits

/-- Everything a session says, each time with how it stands, while a host answers its questions. -/
def converse {σ : Type} (host : Host σ) (state : σ) (message : Message) (session : Session) :
    List (Message × Session) :=
  match waiting : session.status with
  | .suspended suspension =>
    have := patience_attend_lt host state waiting
    let attended := host.attend state session suspension
    (message, session) :: converse host attended.2 attended.1.resume.1 attended.1.resume.2
  | _ => [(message, session)]
termination_by session.patience

end Session

end RobotScript
