import RobotScript.Budget
import RobotScript.Machine
import RobotScript.Program.Layout

/-!
# Sessions

A session is an interpreter as its host sees it. The host starts a script with `interpret`. Whenever
the script acts or asks, the session is suspended and says why in a message. The host acts, or
leaves an answer, and calls `resume`.

`run` executes statements until the script is suspended, ends, fails, or exceeds its budget. It ends
because every statement is paid for: `run_advances` says what a run does to the budget.
-/

namespace RobotScript

/-- Why a session waits for its host. -/
inductive Suspension where
  | act (action : Action)
  | ask (query : Query)
deriving DecidableEq, Repr

/-- How a session stands. -/
inductive Status where
  | running
  | suspended (suspension : Suspension)
  | terminated
  | limitExceeded
  | aborted
deriving DecidableEq, Repr

/-- What a session tells its host. -/
inductive Message where
  | suspended (suspension : Suspension)
  | terminated
  | limitExceeded
  | failed (errors : List Diagnostic)
deriving DecidableEq, Repr

/-- Resuming can make progress. -/
def Message.isSuspension : Message → Bool
  | suspended _ => true
  | _ => false

/-- A script with everything about its run, and the answers that the host has left for the next
questions. -/
structure Session where
  program : Program := {}
  machine : Machine := {}
  budget : Budget := {}
  status : Status := .terminated
  errors : Log := {}
  enemy : Option Direction := none
  alive : Option Int := none
deriving DecidableEq

namespace Session

/-- A session without a script, with lines to read. -/
def ofInput (lines : List String) : Session :=
  { machine.console := .ofInput lines }

/-- Sets the statement limit and forgets the run so far, but not the script, its errors, the console
and the answers. -/
def configure (session : Session) (limit : Nat) : Session :=
  { session with
    machine := { console := session.machine.console }
    budget := .ofLimit limit
    status := .terminated }

/-- Leaves the answer to the next question for the enemy. -/
def answerEnemy (session : Session) (direction : Direction) : Session :=
  { session with enemy := some direction }

/-- Leaves the answer to the next question whether the enemy is alive. -/
def answerAlive (session : Session) (answer : Int) : Session :=
  { session with alive := some answer }

/-- Gives the script one more line to read. -/
def feed (session : Session) (line : String) : Session :=
  { session with machine.console := session.machine.console.feed line }

/-! ## Running -/

/-- Executes one statement and pays for it. Unless it waits for an answer, the answers it was given
are spent. A statement that waits is due again. -/
def attempt (session : Session) (statement : Statement) : Session × Outcome :=
  let index := session.machine.pc
  let (machine, outcome) :=
    session.program.execute (session.machine.jump (index + 1)) index statement
  let machine := if outcome.isQuestion then machine else { machine with answers := [] }
  ({ session with machine, budget := session.budget.spend }, outcome)

/-- Suspends the session. -/
def suspend (session : Session) (suspension : Suspension) : Message × Session :=
  (.suspended suspension, { session with status := .suspended suspension })

/-- Ends the run with a fault. -/
def abort (session : Session) (diagnostic : Diagnostic) : Message × Session :=
  let errors := session.errors.add diagnostic
  (.failed errors.entries, { session with errors, status := .aborted })

/-- Executes statements until the host is needed or the run is over. A statement past the limit
takes effect, but how it ended is not told. -/
def run (session : Session) : Message × Session :=
  match session.program.statements[session.machine.pc]? with
  | none => (.terminated, { session with status := .terminated })
  | some statement =>
    let attempted := (session.attempt statement).1
    if past : attempted.budget.exceeded then
      (.limitExceeded, { attempted with status := .limitExceeded })
    else
      have : session.budget.used + 1 ≤ session.budget.limit := Budget.used_le_limit past
      match (session.attempt statement).2 with
      | .done => attempted.run
      | .act action => attempted.suspend (.act action)
      | .ask query =>
        { attempted with machine := attempted.machine.jump session.machine.pc }.suspend (.ask query)
      | .fault diagnostic => attempted.abort diagnostic
termination_by session.budget.limit + 1 - session.budget.used
decreasing_by
  show session.budget.limit + 1 - (session.budget.used + 1) <
    session.budget.limit + 1 - session.budget.used
  omega

/-- Reads a script and runs it from its first statement. A faulty script is not run. -/
def interpret (session : Session) (source : String) : Message × Session :=
  let parse := Parse.ofSource source
  let fresh : Session :=
    { program := parse.program
      machine := { console := session.machine.console }
      budget := session.budget.reset
      status := .running
      errors := ⟨parse.errors⟩ }
  if fresh.errors.hasEntries then
    (.failed parse.errors, { fresh with status := .aborted })
  else fresh.run

/-- The session with one more answer to the questions of the current statement. -/
def deliver (session : Session) (answer : Value) : Session :=
  { session with machine.answers := session.machine.answers ++ [answer] }

/-- Runs on after a suspension. A question is answered by what the host left for it, or by zero. A
run that is over stays as it is. -/
def resume (session : Session) : Message × Session :=
  match session.status with
  | .suspended (.ask .enemy) =>
    let answer := (session.enemy.map Value.direction).getD (.number 0.0)
    { session.deliver answer with enemy := none, status := .running }.run
  | .suspended (.ask .alive) =>
    let answer := Value.number (Decimal.ofInt (session.alive.getD 0))
    { session.deliver answer with alive := none, status := .running }.run
  | .suspended (.act _) => { session with status := .running }.run
  | .running => session.run
  | .terminated => (.terminated, session)
  | .limitExceeded => (.limitExceeded, session)
  | .aborted => (.failed session.errors.entries, session)

/-! ## What a run does to the budget -/

/-- A run keeps the limit and pays for what it executes. If it ends suspended it has executed
something and is within the limit. -/
theorem run_advances (session : Session) :
    session.run.2.budget.limit = session.budget.limit ∧
      session.budget.used ≤ session.run.2.budget.used ∧
      ∀ suspension, session.run.2.status = .suspended suspension →
        session.budget.used < session.run.2.budget.used ∧
          session.run.2.budget.used ≤ session.budget.limit := by
  fun_induction run session with
  | case1 session ended => exact ⟨rfl, Nat.le_refl _, fun _ stopped => nomatch stopped⟩
  | case2 session statement found attempted past =>
    exact ⟨rfl, Nat.le_succ _, fun _ stopped => nomatch stopped⟩
  | case3 session statement found attempted within _ outcome ih =>
    obtain ⟨limit, used, suspended⟩ := ih
    refine ⟨limit, Nat.le_trans (Nat.le_succ _) used, fun suspension stopped => ?_⟩
    obtain ⟨more, bounded⟩ := suspended suspension stopped
    exact ⟨Nat.lt_trans (Nat.lt_succ_self _) more, bounded⟩
  | case4 session statement found attempted within _ action outcome =>
    exact ⟨rfl, Nat.le_succ _, fun _ _ => ⟨Nat.lt_succ_self _, Budget.used_le_limit within⟩⟩
  | case5 session statement found attempted within _ query outcome =>
    exact ⟨rfl, Nat.le_succ _, fun _ _ => ⟨Nat.lt_succ_self _, Budget.used_le_limit within⟩⟩
  | case6 session statement found attempted within _ diagnostic outcome =>
    exact ⟨rfl, Nat.le_succ _, fun _ stopped => nomatch stopped⟩

end Session

end RobotScript
