import RobotScript.Proofs.Session.Limit

/-!
# The trail of a run

`trail` is the session before each of the statements that a run executes, and `executed` and
`executedAll` are the same for a call and for calls in a row. Statements that are started over for
an answer stand in the trail once for each attempt.

* `used_run`: the count of statements grows by the length of the trail.
* `used_executedAll`: after a script and what a host does in the course of its run, the count is the
  length of the trail.
* `used_of_suspended`: a call that is answered with a suspension has executed something and is
  within the limit.
* `suspensions_le`: so no more calls are answered with a suspension than the limit allows
  statements.
* `exchange_ends`: a host that resumes as long as it is told of a suspension comes to an end.

`runs_end` puts these together: whatever the host does, a run of a script ends.
-/

namespace RobotScript

/-- What a host can do before it resumes: it leaves answers and gives the script lines to read. -/
def Call.isPreparation : Call → Bool
  | answerEnemy _ | answerAlive _ | feed _ => true
  | interpret _ | resume | configure _ => false

namespace Session

/-! ## Statements that are executed -/

/-- The session before each of the statements that a run executes, in order. -/
def trail (session : Session) : List Session :=
  match session.program.statements[session.machine.pc]? with
  | none => []
  | some statement =>
    if past : (session.attempt statement).1.budget.exceeded then [session]
    else
      have : session.budget.used + 1 ≤ session.budget.limit := Budget.used_le_limit past
      match (session.attempt statement).2 with
      | .done => session :: (session.attempt statement).1.trail
      | .act _ | .ask _ | .fault _ => [session]
termination_by session.budget.limit + 1 - session.budget.used
decreasing_by
  show session.budget.limit + 1 - (session.budget.used + 1) <
    session.budget.limit + 1 - session.budget.used
  omega

/-- The session before each of the statements that a call executes. -/
def executed (session : Session) (call : Call) : List Session :=
  if (session.begun call).status = .running then (session.begun call).trail else []

/-- The session before each of the statements that calls in a row execute. -/
def executedAll (session : Session) : List Call → List Session
  | [] => []
  | call :: calls => session.executed call ++ (session.after call).executedAll calls

variable {session : Session}

/-- The count of statements grows by those that are executed. -/
theorem used_run (session : Session) :
    session.run.2.budget.used = session.budget.used + session.trail.length := by
  fun_induction trail session with
  | case1 session ended =>
    rw [run_ended ended]
    rfl
  | case2 session statement found past =>
    rw [run_exceeded found past]
    rfl
  | case3 session statement found within _ done ih =>
    rw [run_eq found (Bool.eq_false_iff.mpr within), done]
    show (session.attempt statement).1.run.2.budget.used = _
    rw [ih, List.length_cons]
    exact Nat.succ_add_eq_add_succ ..
  | case4 session statement found within _ action acts =>
    rw [run_eq found (Bool.eq_false_iff.mpr within), acts]
    rfl
  | case5 session statement found within _ query asks =>
    rw [run_eq found (Bool.eq_false_iff.mpr within), asks]
    rfl
  | case6 session statement found within _ diagnostic fails =>
    rw [run_eq found (Bool.eq_false_iff.mpr within), fails]
    rfl

theorem used_after {call : Call} (settles : session.after call = (session.begun call).settle) :
    (session.after call).budget.used =
      (session.begun call).budget.used + (session.executed call).length := by
  rw [settles]
  unfold executed
  split
  · next running => rw [settle_running running, used_run]
  · next settled => rw [settle_resting settled, List.length_nil, Nat.add_zero]

theorem used_reactions (resting : session.status ≠ .running) {reactions : List Call}
    (reacts : ∀ call ∈ reactions, call.isReaction = true) :
    (session.afterAll reactions).budget.used =
      session.budget.used + (session.executedAll reactions).length := by
  induction reactions generalizing session with
  | nil => rfl
  | cons call reactions ih =>
    have settles := after_eq_settle resting call
    have rests : (session.after call).status ≠ .running := settles ▸ settle_status _
    rw [afterAll_cons, ih rests fun call member => reacts call (List.mem_cons_of_mem _ member),
      used_after settles, begun_budget (reacts call List.mem_cons_self), executedAll,
      List.length_append, Nat.add_assoc]

/-- The count after a script and what a host does in the course of its run is the number of
statements executed. -/
theorem used_executedAll (session : Session) (source : String) {reactions : List Call}
    (reacts : ∀ call ∈ reactions, call.isReaction = true) :
    (session.afterAll (.interpret source :: reactions)).budget.used =
      (session.executedAll (.interpret source :: reactions)).length := by
  have settles := session.interpret_eq_settle source
  have rests : (session.after (.interpret source)).status ≠ .running :=
    settles ▸ settle_status _
  have none : session.budget.reset.used = 0 := rfl
  rw [afterAll_cons, used_reactions rests reacts, used_after settles, begun_interpret_budget,
    none, Nat.zero_add, executedAll, List.length_append]

/-! ## Suspensions -/

/-- The reply of an entry tells of a suspension. -/
def tellsSuspension (entry : Option Message × Session) : Bool :=
  entry.1.any Message.isSuspension

theorem status_of_standing {suspension : Suspension}
    (stands : session.standing = .suspended suspension) :
    session.status = .suspended suspension := by
  unfold standing at stands
  cases status : session.status with
  | suspended other =>
    rw [status] at stands
    cases stands
    rfl
  | running | terminated | limitExceeded | aborted =>
    rw [status] at stands
    cases stands

/-- A call that does not run anything tells of no suspension. -/
theorem begun_unsuspended {call : Call} (spoken : call.isSpoken = true)
    (resting : (session.begun call).status ≠ .running) (suspension : Suspension) :
    (session.begun call).status ≠ .suspended suspension := by
  cases call with
  | interpret source =>
    simp only [begun]
    split <;> simp [started]
  | resume =>
    unfold begun at resting ⊢
    cases stands : session.status with
    | suspended other =>
      cases other with
      | ask query => simp [stands, accept_status] at resting
      | act action => simp [stands] at resting
    | running | terminated | limitExceeded | aborted => simp [stands]
  | answerEnemy | answerAlive | feed | configure => cases spoken

/-- A call that is answered with a suspension has executed something and is within the limit. -/
theorem used_of_suspended {call : Call} {suspension : Suspension}
    (settles : session.after call = (session.begun call).settle)
    (replied : session.reply call = some (.suspended suspension)) :
    (session.begun call).budget.used < (session.after call).budget.used ∧
      (session.after call).budget.used ≤ (session.begun call).budget.limit := by
  have stands := status_of_standing (standing_of_reply replied).symm
  have spoken : call.isSpoken = true := by
    cases call with
    | interpret | resume => rfl
    | answerEnemy | answerAlive | feed | configure => cases replied
  rw [settles] at stands ⊢
  by_cases running : (session.begun call).status = .running
  · rw [settle_running running] at stands ⊢
    exact (session.begun call).run_advances.2.2 suspension stands
  · rw [settle_resting running] at stands
    exact absurd stands (begun_unsuspended spoken running suspension)

/-- A reply that tells of a suspension is one. -/
theorem exists_of_tellsSuspension {call : Call}
    (tells : tellsSuspension (session.reply call, session.after call) = true) :
    ∃ suspension, session.reply call = some (.suspended suspension) := by
  unfold tellsSuspension at tells
  cases replied : session.reply call with
  | none =>
    rw [replied] at tells
    cases tells
  | some message =>
    cases message with
    | suspended suspension => exact ⟨suspension, rfl⟩
    | terminated | limitExceeded | failed =>
      rw [replied] at tells
      cases tells

/-- What a call adds to the suspensions is paid for. -/
theorem suspensions_cons_le {call : Call} {calls : List Call}
    (settles : session.after call = (session.begun call).settle)
    (later : ((session.after call).history calls).countP tellsSuspension ≤
      (session.after call).budget.limit - (session.after call).budget.used) :
    (session.history (call :: calls)).countP tellsSuspension ≤
      (session.begun call).budget.limit - (session.begun call).budget.used := by
  have limit : (session.after call).budget.limit = (session.begun call).budget.limit := by
    rw [settles, settle_limit]
  have used : (session.begun call).budget.used ≤ (session.after call).budget.used := by
    rw [settles]
    exact used_le_settle _
  rw [history, List.countP_cons]
  split
  · next tells =>
    obtain ⟨suspension, replied⟩ := exists_of_tellsSuspension tells
    obtain ⟨more, within⟩ := used_of_suspended settles replied
    omega
  · omega

theorem suspensions_reactions_le (resting : session.status ≠ .running) {reactions : List Call}
    (reacts : ∀ call ∈ reactions, call.isReaction = true) :
    (session.history reactions).countP tellsSuspension ≤
      session.budget.limit - session.budget.used := by
  induction reactions generalizing session with
  | nil => exact Nat.zero_le _
  | cons call reactions ih =>
    have settles := after_eq_settle resting call
    have rests : (session.after call).status ≠ .running := settles ▸ settle_status _
    have later := ih rests fun call member => reacts call (List.mem_cons_of_mem _ member)
    have first := suspensions_cons_le settles later
    rwa [begun_budget (reacts call List.mem_cons_self)] at first

/-- Of a script and what a host does in the course of its run, no more calls are answered with a
suspension than the limit allows statements. -/
theorem suspensions_le (session : Session) (source : String) {reactions : List Call}
    (reacts : ∀ call ∈ reactions, call.isReaction = true) :
    (session.history (.interpret source :: reactions)).countP tellsSuspension ≤
      session.budget.limit := by
  have settles := session.interpret_eq_settle source
  have rests : (session.after (.interpret source)).status ≠ .running :=
    settles ▸ settle_status _
  have first := suspensions_cons_le settles (suspensions_reactions_le rests reacts)
  rwa [begun_interpret_budget] at first

/-! ## The loop of a host -/

/-- What a host gets that starts a script and then resumes again and again, after the calls of a
turn. -/
def exchange (session : Session) (source : String) (turns : Nat → List Call) :
    Nat → Message × Session
  | 0 => session.interpret source
  | turn + 1 => ((session.exchange source turns turn).2.afterAll (turns turn)).resume

section Loop

variable {source : String} {turns : Nat → List Call}

/-- What a host does before it resumes changes neither the budget nor the status. -/
theorem afterAll_prepared (session : Session) {calls : List Call}
    (prepares : ∀ call ∈ calls, call.isPreparation = true) :
    (session.afterAll calls).budget = session.budget ∧
      (session.afterAll calls).status = session.status := by
  refine afterAll_keeps (P := fun later => later.budget = session.budget ∧
    later.status = session.status) ?_ ⟨rfl, rfl⟩
  intro later call same member
  have prepares := prepares call member
  cases call with
  | answerEnemy | answerAlive | feed => exact same
  | interpret | resume | configure => cases prepares

/-- A turn of the loop is a call on a session with the same budget and status. -/
theorem exchange_succ (session : Session) (source : String)
    (prepares : ∀ turn, ∀ call ∈ turns turn, call.isPreparation = true) (turn : Nat) :
    ∃ waiting : Session, waiting.budget = (session.exchange source turns turn).2.budget ∧
      waiting.status = (session.exchange source turns turn).2.status ∧
      session.exchange source turns (turn + 1) = waiting.resume := by
  obtain ⟨budget, status⟩ :=
    (session.exchange source turns turn).2.afterAll_prepared (prepares turn)
  exact ⟨_, budget, status, rfl⟩

theorem exchange_rests (session : Session) (source : String)
    (prepares : ∀ turn, ∀ call ∈ turns turn, call.isPreparation = true) (turn : Nat) :
    (session.exchange source turns turn).2.status ≠ .running ∧
      (session.exchange source turns turn).2.budget.limit = session.budget.limit := by
  induction turn with
  | zero =>
    obtain ⟨consistent, limit⟩ := afterAll_interpret session source (List.forall_mem_nil _)
    exact ⟨consistent.resting, limit⟩
  | succ turn ih =>
    obtain ⟨rests, limit⟩ := ih
    obtain ⟨waiting, budget, status, same⟩ := session.exchange_succ source prepares turn
    have settles : waiting.resume.2 = (waiting.begun .resume).settle :=
      after_eq_settle (status ▸ rests) .resume
    have reacts : Call.resume.isReaction = true := rfl
    rw [same, settles, settle_limit, begun_budget reacts, budget, limit]
    exact ⟨settle_status _, rfl⟩

/-- As long as every message tells of a suspension, every turn is paid for. -/
theorem exchange_used (prepares : ∀ turn, ∀ call ∈ turns turn, call.isPreparation = true)
    {turn : Nat} (suspended : ∀ earlier ≤ turn,
      (session.exchange source turns earlier).1.isSuspension = true) :
    turn < (session.exchange source turns turn).2.budget.used ∧
      (session.exchange source turns turn).2.budget.used ≤ session.budget.limit := by
  have telling : ∀ {message : Message}, message.isSuspension = true →
      ∃ suspension, message = .suspended suspension := by
    intro message tells
    cases message with
    | suspended suspension => exact ⟨suspension, rfl⟩
    | terminated | limitExceeded | failed => cases tells
  obtain ⟨suspension, here⟩ := telling (suspended turn (Nat.le_refl _))
  induction turn generalizing suspension with
  | zero =>
    have replied : session.reply (.interpret source) = some (.suspended suspension) :=
      congrArg some here
    have paid := used_of_suspended (session.interpret_eq_settle source) replied
    rw [begun_interpret_budget] at paid
    exact paid
  | succ turn ih =>
    have before : ∀ earlier ≤ turn,
        (session.exchange source turns earlier).1.isSuspension = true :=
      fun earlier le => suspended earlier (Nat.le_succ_of_le le)
    obtain ⟨other, last⟩ := telling (before turn (Nat.le_refl _))
    obtain ⟨more, -⟩ := ih before other last
    obtain ⟨rests, limit⟩ := session.exchange_rests source prepares turn
    obtain ⟨waiting, budget, status, same⟩ := session.exchange_succ source prepares turn
    rw [same] at here ⊢
    have reacts : Call.resume.isReaction = true := rfl
    have replied : waiting.reply .resume = some (.suspended suspension) := congrArg some here
    obtain ⟨paid, within⟩ :=
      used_of_suspended (after_eq_settle (status ▸ rests) .resume) replied
    rw [begun_budget reacts, budget] at paid within
    exact ⟨Nat.lt_of_le_of_lt more paid, limit ▸ within⟩

/-- The loop of a host ends: there is a first message that tells of no suspension, after no more
turns than the limit. -/
theorem exchange_ends (session : Session) (source : String)
    (prepares : ∀ turn, ∀ call ∈ turns turn, call.isPreparation = true) :
    ∃ turn ≤ session.budget.limit,
      (∀ earlier < turn, (session.exchange source turns earlier).1.isSuspension = true) ∧
      (session.exchange source turns turn).1.isSuspension = false := by
  refine Classical.byContradiction fun endless => ?_
  -- Without such a message every turn up to the limit is a suspension, and these are too many.
  have all : ∀ turn ≤ session.budget.limit,
      (session.exchange source turns turn).1.isSuspension = true := by
    intro turn
    induction turn using Nat.strongRecOn with
    | ind turn ih =>
      intro within
      refine Bool.not_eq_false _ |>.mp fun ends =>
        endless ⟨turn, within, fun earlier less => ?_, ends⟩
      exact ih earlier less (Nat.le_trans (Nat.le_of_lt less) within)
  obtain ⟨more, within⟩ := exchange_used prepares all
  exact absurd more (Nat.not_lt.mpr within)

end Loop

/-- Whatever the session was before and whatever the host does in the course of the run, a script
comes to an end.
* The statements that all calls execute are counted, and they are at most one more than the limit.
* A call that is answered with a suspension has executed a statement: the count is higher than when
  it began, where a new script begins with zero.
* So no more calls are answered with a suspension than the limit allows statements.
* A host that resumes as long as it is told of a suspension, and leaves what it likes before that,
  does so no more often than the limit. The last message says that the script has ended, that the
  limit is exceeded, or what is wrong. -/
theorem runs_end (session : Session) (source : String) {reactions : List Call}
    (reacts : ∀ call ∈ reactions, call.isReaction = true) {turns : Nat → List Call}
    (prepares : ∀ turn, ∀ call ∈ turns turn, call.isPreparation = true) :
    ((session.executedAll (.interpret source :: reactions)).length =
        (session.afterAll (.interpret source :: reactions)).budget.used ∧
      (session.executedAll (.interpret source :: reactions)).length ≤
        session.budget.limit + 1) ∧
    (∀ earlier call later suspension,
      .interpret source :: reactions = earlier ++ call :: later →
      (session.afterAll earlier).reply call = some (.suspended suspension) →
      ((session.afterAll earlier).begun call).budget.used <
        (session.afterAll (earlier ++ [call])).budget.used) ∧
    (session.history (.interpret source :: reactions)).countP tellsSuspension ≤
      session.budget.limit ∧
    ∃ turn ≤ session.budget.limit,
      (∀ earlier < turn, (session.exchange source turns earlier).1.isSuspension = true) ∧
      ((session.exchange source turns turn).1 = .terminated ∨
        (session.exchange source turns turn).1 = .limitExceeded ∨
        ∃ errors, (session.exchange source turns turn).1 = .failed errors) := by
  have count := used_executedAll session source reacts
  obtain ⟨consistent, limit⟩ := afterAll_interpret session source reacts
  refine ⟨⟨count.symm, ?_⟩, ?_, suspensions_le session source reacts, ?_⟩
  · rw [← count, ← limit]
    exact consistent.used
  · intro earlier call later suspension divided replied
    rw [afterAll_append]
    refine (used_of_suspended ?_ replied).1
    cases earlier with
    | nil =>
      cases divided
      exact session.interpret_eq_settle source
    | cons first earlier =>
      cases divided
      have before := afterAll_interpret session source fun call member =>
        reacts call (List.mem_append_left _ member)
      exact after_eq_settle before.1.resting call
  · obtain ⟨turn, within, suspended, last⟩ := session.exchange_ends source prepares
    refine ⟨turn, within, suspended, ?_⟩
    cases message : (session.exchange source turns turn).1 with
    | terminated => exact .inl rfl
    | limitExceeded => exact .inr (.inl rfl)
    | failed errors => exact .inr (.inr ⟨errors, rfl⟩)
    | suspended suspension =>
      rw [message] at last
      cases last

/-- A script that reloads for ever. -/
def endlessReload : String := "tantque 1\nrecharger()\nfintantque"

/-- Under a limit of three the script reloads once. The fourth statement is the last one. -/
theorem runs_end_endlessReload :
    ((fresh [] 3).executedAll [.interpret endlessReload, .resume]).length = 4 ∧
    (fresh [] 3).reply (.interpret endlessReload) = some (.suspended (.act .reload)) ∧
    0 < ((fresh [] 3).after (.interpret endlessReload)).budget.used ∧
    ∃ turn ≤ 3, (∀ earlier < turn,
        ((fresh [] 3).exchange endlessReload (fun _ => [.answerAlive 1]) earlier).1.isSuspension =
          true) ∧
      ((fresh [] 3).exchange endlessReload (fun _ => [.answerAlive 1]) turn).1.isSuspension =
        false := by
  have reacts : ∀ call ∈ [Call.resume], call.isReaction = true := by decide
  have prepares : ∀ turn : Nat, ∀ call ∈ (fun _ => [Call.answerAlive 1]) turn,
      call.isPreparation = true := by
    intro turn call member
    rw [List.mem_singleton.mp member]
    rfl
  obtain ⟨⟨count, -⟩, paid, -, turn, within, suspended, last⟩ :=
    runs_end (fresh [] 3) endlessReload reacts prepares
  have replied : (fresh [] 3).reply (.interpret endlessReload) =
      some (.suspended (.act .reload)) := by decide +kernel
  refine ⟨count.trans (by decide +kernel), replied, ?_, turn, within, suspended, ?_⟩
  · exact Nat.lt_of_le_of_lt (Nat.zero_le _)
      (paid [] (.interpret endlessReload) [.resume] _ rfl replied)
  · rcases last with ended | exceeded | ⟨errors, failed⟩
    · rw [ended]
      rfl
    · rw [exceeded]
      rfl
    · rw [failed]
      rfl

end Session

end RobotScript
