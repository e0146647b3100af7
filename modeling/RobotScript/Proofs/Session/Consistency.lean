import RobotScript.Proofs.Replay
import RobotScript.Proofs.Session.Rounds
import RobotScript.Proofs.Wiring

/-!
# Sessions are consistent

Whatever calls a host makes, and in whatever order, the parts of a session fit together after each
of them: its status, its place in the program, its count of statements, its errors, and the question
or the action that it waits for.

* `Consistent` is the invariant between calls, and `Ready` the invariant in the middle of a run,
  before a statement.
* `Ready.attempt`: a statement within the limit keeps a session ready.
* `Ready.run`: a run of a ready session leaves a consistent one, whichever way it stops.
* `Consistent.after`: every call keeps a session consistent.
* `history_over`: a run that is over stays over.

`consistent_after_calls` is what these come to.
-/

namespace RobotScript

/-- Labels lead to a statement or to the end. -/
def Program.Targeted (program : Program) : Prop :=
  ∀ label target, program.labels.get? label = some target → target ≤ program.statements.size

theorem Parse.targeted (source : String) : (Parse.ofSource source).program.Targeted := by
  have wired : (Draft.ofItems (itemsOf source)).Wired :=
    Draft.wired_foldl Draft.wired_empty (sound_readAll _)
  exact fun label target known => wired.targets known

/-- A statement of a program whose labels lead into it goes on in the program or at its end. -/
theorem Program.Effect.place_le {program : Program} {machine result : Machine}
    {statement : Statement} {outcome : Outcome}
    (effect : program.Effect machine statement (result, outcome)) (targeted : program.Targeted)
    (found : program.statements[machine.pc]? = some statement) :
    result.pc ≤ program.statements.size := by
  have next : machine.pc + 1 ≤ program.statements.size := (Array.getElem?_eq_some_iff.mp found).1
  cases effect with
  | done place =>
    rcases place with same | ⟨label, -, known⟩
    · exact same ▸ next
    · exact targeted label _ known
  | @ask asked _ place lacks =>
    show asked.pc + 1 ≤ _
    rw [place]
    exact next
  | act | unknownLabel | unset => exact next

/-- The run is over, and nothing but a new script can set it going. -/
def Status.isOver : Status → Bool
  | terminated | limitExceeded | aborted => true
  | running | suspended _ => false

namespace Session

/-! ## Between calls -/

/-- The parts of a session fit together.

* It is not running, and it stands at a statement of its program or at the end.
* It has executed at most one statement past the limit, and that one only if it says so.
* While it waits, or when the limit is exceeded, it has no errors. When it has failed it has some.
* When it asks, the statement at its place lacks the answer to that question and is stuck without
  it.
* When it acts, the statement before its place is that action. -/
structure Consistent (session : Session) : Prop where
  resting : session.status ≠ .running
  targeted : session.program.Targeted
  place : session.machine.pc ≤ session.program.statements.size
  used : session.budget.used ≤ session.budget.limit + 1
  exceeded : session.budget.used = session.budget.limit + 1 ↔ session.status = .limitExceeded
  clean : (∃ suspension, session.status = .suspended suspension) ∨
    session.status = .limitExceeded →
    session.errors.entries = []
  faulty : session.status = .aborted → session.errors.entries ≠ []
  asks : ∀ query, session.status = .suspended (.ask query) →
    session.machine.pc < session.program.statements.size ∧
    ∃ statement, session.program.statements[session.machine.pc]? = some statement ∧
      session.program.Lacks session.machine statement query ∧
      session.program.execute session.machine.advance session.machine.pc statement =
        (session.machine.advance, .ask query)
  acts : ∀ action, session.status = .suspended (.act action) → ∃ index statement,
    session.machine.pc = index + 1 ∧ session.program.statements[index]? = some statement ∧
      statement.action? session.machine.store = some action

/-! ## In the middle of a run -/

/-- The session can execute the next statement of a script that was read without an error. -/
structure Ready (session : Session) : Prop where
  targeted : session.program.Targeted
  place : session.machine.pc ≤ session.program.statements.size
  clean : session.errors.entries = []
  within : session.budget.used ≤ session.budget.limit

variable {session : Session} {statement : Statement}

theorem attempt_place_le (targeted : session.program.Targeted)
    (found : session.program.statements[session.machine.pc]? = some statement) :
    (session.attempt statement).1.machine.pc ≤ session.program.statements.size := by
  obtain ⟨machine, outcome, effect, same⟩ := session.attempt_effect statement
  have place := effect.place_le targeted found
  rw [same]
  dsimp only
  split
  · exact place
  · exact place

/-- A statement within the limit keeps a session ready. -/
theorem Ready.attempt (ready : session.Ready)
    (found : session.program.statements[session.machine.pc]? = some statement)
    (less : session.budget.used < session.budget.limit) : (session.attempt statement).1.Ready where
  targeted := ready.targeted
  place := attempt_place_le ready.targeted found
  clean := ready.clean
  within := less

/-- A ready session that stops within the limit and without a fault is consistent, if what it waits
for is. -/
theorem Ready.consistent (ready : session.Ready) (resting : session.status ≠ .running)
    (notExceeded : session.status ≠ .limitExceeded) (notAborted : session.status ≠ .aborted)
    (asks : ∀ query, session.status = .suspended (.ask query) → ∃ statement,
      session.program.statements[session.machine.pc]? = some statement ∧
        session.program.Lacks session.machine statement query)
    (acts : ∀ action, session.status = .suspended (.act action) → ∃ index statement,
      session.machine.pc = index + 1 ∧ session.program.statements[index]? = some statement ∧
        statement.action? session.machine.store = some action) : session.Consistent where
  resting := resting
  targeted := ready.targeted
  place := ready.place
  used := Nat.le_succ_of_le ready.within
  exceeded := iff_of_false (Nat.ne_of_lt (Nat.lt_succ_of_le ready.within)) notExceeded
  clean := fun _ => ready.clean
  faulty := fun aborted => absurd aborted notAborted
  asks := by
    intro query stands
    obtain ⟨statement, found, lacks⟩ := asks query stands
    exact ⟨(Array.getElem?_eq_some_iff.mp found).1, statement, found, lacks, lacks.stuck⟩
  acts := acts

/-- The statement past the limit takes effect, and the count says that there was one. -/
theorem Ready.consistent_exceeded (ready : session.Ready)
    (found : session.program.statements[session.machine.pc]? = some statement)
    (past : (session.attempt statement).1.budget.exceeded = true) :
    { (session.attempt statement).1 with status := .limitExceeded }.Consistent where
  resting := by simp
  targeted := ready.targeted
  place := attempt_place_le ready.targeted found
  used := Nat.succ_le_succ ready.within
  exceeded := by
    have more : session.budget.limit < session.budget.used + 1 := of_decide_eq_true past
    have count : session.budget.used + 1 = session.budget.limit + 1 :=
      congrArg (· + 1) (Nat.le_antisymm ready.within (Nat.le_of_lt_succ more))
    exact iff_of_true count rfl
  clean := fun _ => ready.clean
  faulty := by simp
  asks := by simp
  acts := by simp

/-- A statement at fault leaves its fault in the log. -/
theorem Ready.consistent_failed (ready : session.Ready)
    (found : session.program.statements[session.machine.pc]? = some statement)
    (less : session.budget.used < session.budget.limit) (diagnostic : Diagnostic) :
    ((session.attempt statement).1.abort diagnostic).2.Consistent where
  resting := by simp [abort]
  targeted := ready.targeted
  place := attempt_place_le ready.targeted found
  used := Nat.le_succ_of_le less
  exceeded := iff_of_false (Nat.ne_of_lt (Nat.succ_lt_succ less)) (by simp [abort])
  clean := by simp [abort]
  faulty := by simp [abort, Log.add]
  asks := by simp [abort]
  acts := by simp [abort]

/-- Whichever way the run of a ready session stops, it leaves a consistent one. -/
theorem Ready.run (ready : session.Ready) : session.run.2.Consistent := by
  obtain ⟨last, passes, halts⟩ := session.run_halts
  have ready : last.Ready := passes.keeps (fun ready found less _ => ready.attempt found less) ready
  generalize session.run = ran at halts
  cases halts with
  | ended ended =>
    have stays : { last with status := .terminated }.Ready :=
      ⟨ready.1, ready.2, ready.3, ready.4⟩
    exact stays.consistent (by simp) (by simp) (by simp) (by simp) (by simp)
  | exceeded found past => exact ready.consistent_exceeded found past
  | @acted statement action found within acts =>
    have after := ready.attempt found (attempt_within_iff.mp within)
    have stays : ((last.attempt statement).1.suspend (.act action)).2.Ready :=
      ⟨after.1, after.2, after.3, after.4⟩
    refine stays.consistent (by simp [suspend]) (by simp [suspend]) (by simp [suspend])
      (by simp [suspend]) ?_
    intro other stands
    cases stands
    obtain ⟨machine, known⟩ := attempt_acts acts
    refine ⟨last.machine.pc, statement, ?_, found, ?_⟩
    · exact congrArg Machine.pc machine
    · exact (congrArg (fun machine => statement.action? machine.store) machine).trans known
  | @asked statement query found within asks =>
    have after := ready.attempt found (attempt_within_iff.mp within)
    have stays : ({ (last.attempt statement).1 with
        machine :=
          (last.attempt statement).1.machine.jump last.machine.pc }.suspend (.ask query)).2.Ready :=
      ⟨after.1, ready.2, after.3, after.4⟩
    refine stays.consistent (by simp [suspend]) (by simp [suspend]) (by simp [suspend])
      ?_ (by simp [suspend])
    intro other stands
    cases stands
    have lacks := attempt_asks asks
    dsimp only [suspend, Machine.jump] at lacks ⊢
    exact ⟨statement, found, lacks⟩
  | failed found within fails =>
    exact ready.consistent_failed found (attempt_within_iff.mp within) _

/-! ## Calls -/

theorem ready_started (session : Session) {source : String}
    (clean : (Parse.ofSource source).errors = []) :
    (session.started source).Ready :=
  ⟨Parse.targeted source, Nat.zero_le _, clean, Nat.zero_le _⟩

/-- A script with an error is not run. -/
theorem consistent_failed (session : Session) {source : String}
    (faulty : (Parse.ofSource source).errors ≠ []) :
    { session.started source with status := .aborted }.Consistent where
  resting := by simp
  targeted := Parse.targeted source
  place := Nat.zero_le _
  used := Nat.zero_le _
  exceeded := iff_of_false (Nat.succ_ne_zero _).symm (by simp)
  clean := by simp
  faulty := fun _ => faulty
  asks := by simp
  acts := by simp

theorem consistent_configure (targeted : session.program.Targeted) (limit : Nat) :
    (session.configure limit).Consistent where
  resting := by simp [configure]
  targeted := targeted
  place := Nat.zero_le _
  used := Nat.zero_le _
  exceeded := iff_of_false (Nat.succ_ne_zero _).symm (by simp [configure])
  clean := by simp [configure]
  faulty := by simp [configure]
  asks := by simp [configure]
  acts := by simp [configure]

theorem consistent_ofInput (lines : List String) : (Session.ofInput lines).Consistent where
  resting := by simp [ofInput]
  targeted := by
    intro label target known
    cases known
  place := Nat.zero_le _
  used := Nat.zero_le _
  exceeded := by simp [ofInput]
  clean := by simp [ofInput]
  faulty := by simp [ofInput]
  asks := by simp [ofInput]
  acts := by simp [ofInput]

/-- The answers that a host leaves do not matter while the session waits. -/
theorem Consistent.leaving (consistent : session.Consistent) (enemy : Option Direction)
    (alive : Option Int) :
    (session.leaving enemy alive).Consistent :=
  ⟨consistent.resting, consistent.targeted, consistent.place, consistent.used,
    consistent.exceeded, consistent.clean, consistent.faulty, consistent.asks, consistent.acts⟩

/-- Neither do the lines that it can read. -/
theorem Consistent.feed (consistent : session.Consistent) (line : String) :
    (session.feed line).Consistent where
  resting := consistent.resting
  targeted := consistent.targeted
  place := consistent.place
  used := consistent.used
  exceeded := consistent.exceeded
  clean := consistent.clean
  faulty := consistent.faulty
  asks := by
    intro query stands
    obtain ⟨inside, statement, found, lacks, -⟩ := consistent.asks query stands
    have lacks : (session.feed line).program.Lacks (session.feed line).machine statement query :=
      ⟨lacks.asks, lacks.ends⟩
    exact ⟨inside, statement, found, lacks, lacks.stuck⟩
  acts := consistent.acts

/-- A consistent session that waits can run on. -/
theorem Consistent.ready (consistent : session.Consistent) {suspension : Suspension}
    (waiting : session.status = .suspended suspension) : session.Ready where
  targeted := consistent.targeted
  place := consistent.place
  clean := consistent.clean (.inl ⟨suspension, waiting⟩)
  within := by
    have notExceeded : session.budget.used ≠ session.budget.limit + 1 := by
      intro count
      rw [consistent.exceeded.mp count] at waiting
      cases waiting
    exact Nat.le_of_lt_succ (Nat.lt_of_le_of_ne consistent.used notExceeded)

/-- A script leaves a consistent session, whatever the session was before. -/
theorem consistent_interpret (session : Session) (source : String) :
    (session.after (.interpret source)).Consistent := by
  by_cases clean : (Parse.ofSource source).errors = []
  · rw [Session.after, interpret_eq_run clean]
    exact (session.ready_started clean).run
  · rw [Session.after, interpret_eq_failed clean]
    exact session.consistent_failed clean

/-- Every call keeps a session consistent. -/
theorem Consistent.after (consistent : session.Consistent) (call : Call) :
    (session.after call).Consistent := by
  cases call with
  | interpret source => exact session.consistent_interpret source
  | resume =>
    rw [Session.after]
    cases stands : session.status with
    | suspended suspension =>
      have ready := consistent.ready stands
      cases suspension with
      | act action =>
        rw [resume_act stands]
        exact Ready.run ⟨ready.1, ready.2, ready.3, ready.4⟩
      | ask query =>
        rw [resume_ask stands]
        cases query with
        | enemy => exact Ready.run ⟨ready.1, ready.2, ready.3, ready.4⟩
        | alive => exact Ready.run ⟨ready.1, ready.2, ready.3, ready.4⟩
    | running => exact absurd stands consistent.resting
    | terminated | limitExceeded | aborted =>
      simp only [resume, stands]
      exact consistent
  | answerEnemy direction => exact consistent.leaving (some direction) session.alive
  | answerAlive answer => exact consistent.leaving session.enemy (some answer)
  | feed line => exact consistent.feed line
  | configure limit => exact consistent_configure consistent.targeted limit

theorem Consistent.afterAll (consistent : session.Consistent) (calls : List Call) :
    (session.afterAll calls).Consistent :=
  afterAll_keeps (fun consistent _ => consistent.after _) consistent

/-! ## Runs that are over -/

/-- When the run is over, to go on only changes what is left for the next script. -/
theorem after_over (closed : session.status.isOver = true) {call : Call}
    (answers : call.isAnswer = true) :
    ∃ enemy alive, session.after call = session.leaving enemy alive := by
  cases call with
  | resume =>
    refine ⟨session.enemy, session.alive, ?_⟩
    show session.resume.2 = session
    cases stands : session.status with
    | running | suspended =>
      rw [stands] at closed
      cases closed
    | terminated | limitExceeded | aborted => simp only [resume, stands]
  | answerEnemy direction => exact ⟨some direction, session.alive, rfl⟩
  | answerAlive answer => exact ⟨session.enemy, some answer, rfl⟩
  | interpret | feed | configure => cases answers

/-- A run that is over stays over: every message is the same, and all but the answers for the next
script stays. -/
theorem history_over (closed : session.status.isOver = true) {calls : List Call}
    (answers : ∀ call ∈ calls, call.isAnswer = true) :
    ∀ entry ∈ session.history calls,
      (∀ message, entry.1 = some message → message = session.standing) ∧
      ∃ enemy alive, entry.2 = session.leaving enemy alive := by
  induction calls generalizing session with
  | nil =>
    intro entry member
    cases member
  | cons call calls ih =>
    obtain ⟨enemy, alive, same⟩ := after_over closed (answers call List.mem_cons_self)
    intro entry member
    rcases List.mem_cons.mp member with rfl | later
    · refine ⟨fun message replied => ?_, enemy, alive, same⟩
      have spoken := standing_of_reply replied
      rw [same] at spoken
      exact spoken
    · have stays : (session.after call).status.isOver = true := by
        rw [same]
        exact closed
      have rest :=
        ih stays (fun call member => answers call (List.mem_cons_of_mem _ member)) entry later
      rw [same] at rest
      exact rest

/-- Whatever calls are made on a new session:
* its parts fit together after each of them;
* the reply to each says how the session then stands;
* once the run is over, to resume or to leave answers any number of times gives the same message and
  changes neither the program, nor the variables and the console, nor the count, nor the errors. -/
theorem consistent_after_calls (lines : List String) (calls : List Call) :
    let session := (Session.ofInput lines).afterAll calls
    session.Consistent ∧
      (∀ call message, session.reply call = some message →
        message = (session.after call).standing) ∧
      (session.status.isOver = true → ∀ further : List Call,
        (∀ call ∈ further, call.isAnswer = true) →
        ∀ entry ∈ session.history further,
          (∀ message, entry.1 = some message → message = session.standing) ∧
          entry.2.program = session.program ∧ entry.2.machine = session.machine ∧
          entry.2.budget = session.budget ∧ entry.2.errors = session.errors ∧
            entry.2.status = session.status) := by
  intro session
  have consistent : session.Consistent := (consistent_ofInput lines).afterAll calls
  -- Nothing else depends on how the session came about.
  clear_value session
  refine ⟨consistent, fun call message replied => standing_of_reply replied, ?_⟩
  intro closed further answers entry member
  obtain ⟨messages, enemy, alive, same⟩ := history_over closed answers entry member
  rw [same]
  exact ⟨messages, rfl, rfl, rfl, rfl, rfl⟩

/-- A script asks for two numbers, and gets the first. -/
def firstAnswer : List Call :=
  [.interpret "x = estVivant() + detecterEnnemi()", .answerAlive 1, .resume]

/-- A script jumps to a label that it does not have. -/
def strayJump : List Call :=
  [.interpret "goto nowhere"]

/-- The script that has one of its two answers lacks the other, and the script that has failed stays
as it is. -/
theorem firstAnswer_lacks_and_strayJump_stays :
    (∃ statement, ((Session.ofInput []).afterAll firstAnswer).status =
      .suspended (.ask .enemy) ∧
      ((Session.ofInput []).afterAll firstAnswer).program.Lacks
        ((Session.ofInput []).afterAll firstAnswer).machine statement .enemy) ∧
    ((Session.ofInput []).afterAll strayJump).status.isOver = true ∧
    ∀ entry ∈
      ((Session.ofInput []).afterAll strayJump).history [.resume, .answerAlive 1, .resume],
        entry.2.errors = ((Session.ofInput []).afterAll strayJump).errors := by
  have waiting : ((Session.ofInput []).afterAll firstAnswer).status = .suspended (.ask .enemy) := by
    decide +kernel
  obtain ⟨-, statement, -, lacks, -⟩ :=
    (consistent_after_calls [] firstAnswer).1.asks .enemy waiting
  have closed : ((Session.ofInput []).afterAll strayJump).status.isOver = true := by decide +kernel
  have stays :=
    (consistent_after_calls [] strayJump).2.2 closed [.resume, .answerAlive 1, .resume] (by decide)
  exact ⟨⟨statement, waiting, lacks⟩, closed,
    fun entry member => (stays entry member).2.2.2.2.1⟩

end Session

end RobotScript
