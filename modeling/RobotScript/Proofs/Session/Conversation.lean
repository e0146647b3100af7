import RobotScript.Proofs.Meaning
import RobotScript.Proofs.Replay

/-!
# The conversation of a running program

`Session.tale` is all that a host hears of a program that runs on from some machine, together with
what it heard before. A statement that is executed within the limit changes where the program stands
and what has been heard, but not the tale. `tale_perform` says this for one statement with all its
questions: it follows from `Program.replays_perform`, by induction on the dialogue of the statement.
-/

namespace RobotScript

variable {σ α β : Type}

/-- What a host sees of a session that has said something. -/
def Moment.ofSaid (said : Message × Session) : Moment :=
  ⟨said.1, said.2.machine.store, said.2.machine.console⟩

/-- The result of a dialogue with a host, and the host afterwards. -/
def Dialogue.play (host : Host σ) : Dialogue α → Audience σ → α × Audience σ
  | done result, audience => (result, audience)
  | ask machine query reply, audience =>
    let (value, audience) := audience.ask host query machine.store machine.console
    (reply value).play host audience

/-- A dialogue with a host goes on with its result. -/
theorem Dialogue.play_andThen {host : Host σ} {dialogue : Dialogue α}
    {following : α → Dialogue β} {audience after : Audience σ} {result : α}
    (played : dialogue.play host audience = (result, after)) :
    (dialogue.andThen following).play host audience = (following result).play host after := by
  induction dialogue generalizing audience with
  | done value =>
    obtain ⟨rfl, rfl⟩ := Prod.mk.inj played
    rfl
  | ask machine query reply ih => exact ih _ played

namespace Session

/-! ## Conversations -/

theorem converse_suspended (host : Host σ) (state : σ) (message : Message) {session : Session}
    {suspension : Suspension} (waiting : session.status = .suspended suspension) :
    converse host state message session =
      (message, session) ::
        converse host (host.attend state session suspension).2
          (host.attend state session suspension).1.resume.1
          (host.attend state session suspension).1.resume.2 := by
  rw [converse]
  split
  · next other same =>
    obtain rfl : suspension = other := Status.suspended.inj (waiting.symm.trans same)
    rfl
  · next noSuspension => exact absurd waiting (noSuspension suspension)

theorem converse_over (host : Host σ) (state : σ) (message : Message) {session : Session}
    (ended : ∀ suspension, session.status ≠ .suspended suspension) :
    converse host state message session = [(message, session)] := by
  rw [converse]
  split
  · next suspension same => exact absurd same (ended suspension)
  · rfl

/-! ## The tale of a running program -/

section Tale

variable (program : Program) (host : Host σ) (limit : Nat)

/-- A session in the middle of a run, for which the host has left no answers. -/
def running (machine : Machine) (used : Nat) : Session :=
  { program, machine, budget := { used, limit }, status := .running }

/-- A session that waits for its host in the middle of a run. -/
def waiting (machine : Machine) (used : Nat) (suspension : Suspension) : Session :=
  { running program limit machine used with status := .suspended suspension }

/-- All that a host has heard and will hear of a program that runs on from a machine. -/
def tale (audience : Audience σ) (machine : Machine) (used : Nat) : List Moment :=
  let ran := (running program limit machine used).run
  audience.heard ++ (converse host audience.state ran.1 ran.2).map Moment.ofSaid

/-- What a host has heard and will hear after a statement that ended in some way. -/
def sequel (audience : Audience σ) (machine : Machine) (used : Nat) : Outcome → List Moment
  | .done => tale program host limit audience (machine.holding []) used
  | .act action =>
    tale program host limit (audience.hear (.suspended (.act action)) machine.store machine.console)
      (machine.holding []) used
  | .ask _ => audience.heard
  | .fault diagnostic => (audience.hear (.failed [diagnostic]) machine.store machine.console).heard

/-- The limit was not exceeded in a tale. -/
def Within (moments : List Moment) : Prop :=
  ∀ moment ∈ moments, moment.message ≠ .limitExceeded

variable {program host limit} {audience : Audience σ} {machine : Machine} {used : Nat}
  {statement : Statement}

/-- A run that ends the conversation is told by its last message. -/
theorem tale_over {message : Message} {session : Session}
    (ran : (running program limit machine used).run = (message, session))
    (ended : ∀ suspension, session.status ≠ .suspended suspension) :
    tale program host limit audience machine used =
      (audience.hear message session.machine.store session.machine.console).heard := by
  simp only [tale, ran, converse_over host audience.state message ended]
  rfl

/-- A run that waits for its host goes on when the host has attended to it. -/
theorem tale_suspended {message : Message} {session : Session} {suspension : Suspension}
    {next : Machine} {state : σ} {later : Nat}
    (ran : (running program limit machine used).run = (message, session))
    (waits : session.status = .suspended suspension)
    (resumed : (host.attend audience.state session suspension).1.resume =
      (running program limit next later).run)
    (attended : (host.attend audience.state session suspension).2 = state) :
    tale program host limit audience machine used =
      tale program host limit
        { audience.hear message session.machine.store session.machine.console with state }
        next later := by
  simp only [tale, ran, converse_suspended host audience.state message waits, resumed, attended,
    Audience.hear, List.map_cons, List.append_assoc, List.cons_append, List.nil_append]
  rfl

/-- A program that has no statement left terminates. -/
theorem tale_ended (ended : program.statements[machine.pc]? = none) :
    tale program host limit audience machine used =
      (audience.hear .terminated machine.store machine.console).heard :=
  tale_over (run_ended ended) nofun

/-- A statement past the limit is told as such. -/
theorem tale_exceeded (found : program.statements[machine.pc]? = some statement)
    (past : limit ≤ used) :
    ¬ Within (tale program host limit audience machine used) := by
  intro within
  have exceeded :
      ((running program limit machine used).attempt statement).1.budget.exceeded = true :=
    decide_eq_true (Nat.lt_succ_of_le past)
  rw [tale_over (run_exceeded found exceeded) nofun] at within
  exact within _ (List.mem_append_right _ List.mem_cons_self) rfl

/-- Before a statement of a tale within the limit, some of the limit is left. -/
theorem Within.used_lt (within : Within (tale program host limit audience machine used))
    (found : program.statements[machine.pc]? = some statement) : used < limit :=
  Nat.lt_of_not_le fun past => tale_exceeded found past within

theorem attempt_within (less : used < limit) (statement : Statement) :
    ((running program limit machine used).attempt statement).1.budget.exceeded = false :=
  decide_eq_false (Nat.not_lt.mpr less)

/-- A host that is asked answers, and the program runs on with the answer. -/
theorem attend_ask (program : Program) (limit : Nat) (host : Host σ) (state : σ)
    (machine : Machine) (used : Nat) (query : Query) :
    (host.attend state (waiting program limit machine used (.ask query)) (.ask query)).1.accept
        query =
      running program limit (machine.holding (machine.answers ++ [(host.answer state query).1]))
        used ∧
    (host.attend state (waiting program limit machine used (.ask query)) (.ask query)).2 =
        (host.answer state query).2 := by
  cases query with
  | enemy =>
    simp only [Host.attend, Host.answer]
    rcases host.enemy state with ⟨_ | direction, later⟩ <;> exact ⟨rfl, rfl⟩
  | alive =>
    simp only [Host.attend, Host.answer]
    rcases host.alive state with ⟨_ | answer, later⟩ <;> exact ⟨rfl, rfl⟩

/-- After a question the statement is executed again, with one more answer. -/
theorem tale_ask {asked : Machine} {query : Query} {held : List Value} (less : used < limit)
    (found : program.statements[machine.pc]? = some statement) (here : asked.pc = machine.pc)
    (executed : program.execute machine.advance machine.pc statement =
      (asked.advance.holding held, .ask query)) :
    tale program host limit audience machine used =
      tale program host limit (audience.ask host query asked.store asked.console).2
        (asked.holding (held ++ [(audience.ask host query asked.store asked.console).1]))
        (used + 1) := by
  have ran : (running program limit machine used).run =
      (asking query, waiting program limit (asked.holding held) (used + 1) (.ask query)) :=
    run_asks found executed here (attempt_within less _)
  obtain ⟨ready, attended⟩ :=
    attend_ask program limit host audience.state (asked.holding held) (used + 1) query
  refine tale_suspended ran rfl ?_ attended
  rw [resume_ask (Host.attend_status ..), ready]
  rfl

/-- A statement that does not ask ends, and what follows depends on how. -/
theorem tale_closed {result : Machine} {outcome : Outcome} {spent : List Value}
    (less : used < limit) (found : program.statements[machine.pc]? = some statement)
    (closed : outcome.isQuestion = false) (executed : program.execute machine.advance machine.pc
      statement = (result.holding spent, outcome)) :
    tale program host limit audience machine used =
      sequel program host limit audience result (used + 1) outcome := by
  have attempted : (running program limit machine used).attempt statement =
      (running program limit (result.holding []) (used + 1), outcome) :=
    attempt_closed closed executed
  have ran : (running program limit machine used).run = _ :=
    run_eq found (attempt_within less statement)
  rw [attempted] at ran
  cases outcome with
  | done =>
    simp only [tale, sequel, ran]
    rfl
  | act action => exact tale_suspended ran rfl (resume_act rfl) rfl
  | ask query => cases closed
  | fault diagnostic =>
    refine tale_over ran fun suspension stopped => ?_
    cases stopped

/-- A statement that follows a dialogue comes to what the dialogue with the host comes to. -/
theorem tale_replays {dialogue : Dialogue (Machine × Outcome)}
    (found : program.statements[machine.pc]? = some statement)
    (replays : program.Replays statement machine dialogue)
    (within : Within (tale program host limit audience machine used)) :
    ∃ later, used < later ∧
      tale program host limit audience machine used =
        sequel program host limit (dialogue.play host audience).2
          (dialogue.play host audience).1.1 later (dialogue.play host audience).1.2 := by
  -- Each question of the dialogue is one more attempt at the same statement.
  induction dialogue generalizing machine audience used with
  | done final =>
    obtain ⟨closed, spent, executed⟩ := replays
    exact ⟨used + 1, Nat.lt_succ_self used,
      tale_closed (within.used_lt found) found closed executed⟩
  | ask asked query reply ih =>
    obtain ⟨here, held, executed, following⟩ := replays
    have told : tale program host limit audience machine used = _ :=
      tale_ask (within.used_lt found) found here executed
    rw [told] at within ⊢
    have again : program.statements[(asked.holding (held ++
        [(audience.ask host query asked.store asked.console).1])).pc]? = some statement :=
      here ▸ found
    obtain ⟨later, more, same⟩ := ih _ again (following _) within
    exact ⟨later, Nat.lt_of_succ_lt more, same⟩

/-- A statement that is executed within the limit leaves the tale as it is: it comes to what its
dialogue with the host comes to. -/
theorem tale_perform (fresh : machine.answers = [])
    (found : program.statements[machine.pc]? = some statement)
    (within : Within (tale program host limit audience machine used)) :
    ∃ later, used < later ∧
      tale program host limit audience machine used =
        sequel program host limit ((program.perform machine statement).play host audience).2
          ((program.perform machine statement).play host audience).1.1 later
          ((program.perform machine statement).play host audience).1.2 :=
  tale_replays found (program.replays_perform fresh statement) within

end Tale

end Session

end RobotScript
