import RobotScript.Proofs.Session.Consistency

/-!
# The limit is transparent up to its threshold

`stride` is one statement of a run without regard to any limit, and `Course` is what calls come to
when every run is made of strides: the course of a script without a limit. A session with a limit is
compared to that course.

* `Course.afterAll_eq`: as long as the course is within the limit, the session is where the course
  is.
* `course_of_unexceeded`: a session that has not exceeded its limit is on the course.
* `Course.settle`: a run on the course ends on it, or executes the first statement past the limit
  and says so.

Two sessions with different limits are on the same course, up to where the lower limit is exceeded.
That is `limit_transparent`.
-/

namespace RobotScript

namespace Session

/-! ## The course of a script -/

/-- The session with another limit. -/
def withLimit (session : Session) (limit : Nat) : Session :=
  { session with budget.limit := limit }

/-- What a statement makes of the session, without regard to the limit. -/
def stepped (session : Session) (statement : Statement) : Session :=
  let attempted := (session.attempt statement).1
  match (session.attempt statement).2 with
  | .done => attempted
  | .act action => (attempted.suspend (.act action)).2
  | .ask query =>
    ({ attempted with machine := attempted.machine.jump session.machine.pc }.suspend (.ask query)).2
  | .fault diagnostic => (attempted.abort diagnostic).2

/-- One round of a run, without regard to the limit. -/
def stride (session : Session) : Session :=
  match session.program.statements[session.machine.pc]? with
  | none => { session with status := .terminated }
  | some statement => session.stepped statement

/-- Without a limit, the calls bring the script to the session. The session may be in the middle of
a run. -/
inductive Course (start : Session) (source : String) : List Call → Session → Prop
  | start : Course start source [.interpret source] (start.begun (.interpret source))
  | stride {made : List Call} {session : Session} (course : Course start source made session)
      (running : session.status = .running) : Course start source made session.stride
  | react {made : List Call} {session : Session} (course : Course start source made session)
      (resting : session.status ≠ .running) {call : Call} (reacts : call.isReaction = true) :
      Course start source (made ++ [call]) (session.begun call)

/-- A call is answered with the message that the limit is exceeded. -/
def Trips (session : Session) (calls : List Call) : Prop :=
  ∃ entry ∈ session.history calls, entry.1 = some .limitExceeded

variable {session start : Session} {source : String} {made : List Call}

/-! ## Strides -/

theorem stepped_budget (session : Session) (statement : Statement) :
    (session.stepped statement).budget = session.budget.spend := by
  unfold stepped
  cases (session.attempt statement).2 <;> rfl

theorem stepped_status (session : Session) (statement : Statement)
    (running : session.status = .running) :
    (session.stepped statement).status ≠ .limitExceeded := by
  have kept : (session.attempt statement).1.status = .running := running
  unfold stepped
  cases (session.attempt statement).2 <;> simp [suspend, abort, kept]

theorem stepped_of_done {statement : Statement} (done : (session.attempt statement).2 = .done) :
    session.stepped statement = (session.attempt statement).1 := by
  simp only [stepped, done]

/-- Within the limit, a statement and what follows it are the run. -/
theorem settle_stepped {statement : Statement} (running : session.status = .running)
    (found : session.program.statements[session.machine.pc]? = some statement)
    (within : (session.attempt statement).1.budget.exceeded = false) :
    (session.stepped statement).settle = session.run.2 := by
  have kept : (session.attempt statement).1.status = .running := running
  rw [run_eq found within]
  unfold stepped
  cases (session.attempt statement).2 with
  | done => exact settle_running kept
  | act | ask | fault => exact settle_resting (by simp [suspend, abort])

/-- A run ends with a stride, or with the first statement past the limit. -/
theorem Halts.stride {ran : Message × Session} (halts : Halts session ran) :
    ran.2 = session.stride ∨
      ∃ statement, session.program.statements[session.machine.pc]? = some statement ∧
        (session.attempt statement).1.budget.exceeded = true ∧
          ran.2 = { (session.attempt statement).1 with status := .limitExceeded } := by
  cases halts with
  | ended ended => exact .inl (by simp only [Session.stride, ended])
  | exceeded found past => exact .inr ⟨_, found, past, rfl⟩
  | acted found within acts => exact .inl (by simp only [Session.stride, found, stepped, acts])
  | asked found within asks => exact .inl (by simp only [Session.stride, found, stepped, asks])
  | failed found within fails => exact .inl (by simp only [Session.stride, found, stepped, fails])

/-- As long as strides are within the limit, the session settles where they do. -/
theorem settle_stride (running : session.status = .running)
    (within : session.stride.budget.used ≤ session.budget.limit) :
    session.stride.settle = session.settle := by
  rw [settle_running running]
  unfold stride at within ⊢
  cases found : session.program.statements[session.machine.pc]? with
  | none =>
    rw [run_ended found]
    exact settle_resting (by simp)
  | some statement =>
    simp only [found, stepped_budget] at within ⊢
    exact settle_stepped running found (attempt_within_iff.mpr within)

theorem used_le_stride (session : Session) :
    session.budget.used ≤ session.stride.budget.used := by
  unfold stride
  split
  · exact Nat.le_refl _
  · rw [stepped_budget]
    exact Nat.le_succ _

theorem used_le_settle (session : Session) :
    session.budget.used ≤ session.settle.budget.used := by
  unfold settle
  split
  · exact session.run_advances.2.1
  · exact Nat.le_refl _

theorem settle_limit (session : Session) : session.settle.budget.limit = session.budget.limit := by
  unfold settle
  split
  · exact session.run_advances.1
  · rfl

theorem begun_budget {call : Call} (reacts : call.isReaction = true) :
    (session.begun call).budget = session.budget := by
  have begins := session.begins_of_reaction reacts
  generalize session.begun call = begun at begins
  cases begins with
  | asked waiting => exact session.accept_budget _
  | acted | left => rfl

/-! ## Strides under another limit -/

theorem attempt_withLimit (session : Session) (limit : Nat) (statement : Statement) :
    (session.withLimit limit).attempt statement =
      ((session.attempt statement).1.withLimit limit, (session.attempt statement).2) :=
  rfl

theorem stride_withLimit (session : Session) (limit : Nat) :
    (session.withLimit limit).stride = session.stride.withLimit limit := by
  have program : (session.withLimit limit).program = session.program := rfl
  have machine : (session.withLimit limit).machine = session.machine := rfl
  unfold stride stepped
  rw [program, machine]
  cases session.program.statements[session.machine.pc]? with
  | none => rfl
  | some statement =>
    simp only [attempt_withLimit]
    cases (session.attempt statement).2 <;> rfl

theorem begun_withLimit (session : Session) (limit : Nat) {call : Call}
    (reacts : call.isReaction = true) :
    (session.withLimit limit).begun call = (session.begun call).withLimit limit := by
  cases call with
  | resume =>
    have status : (session.withLimit limit).status = session.status := rfl
    cases stands : session.status with
    | suspended suspension =>
      simp only [begun, status, stands]
      cases suspension with
      | act action => rfl
      | ask query => cases query <;> rfl
    | running | terminated | limitExceeded | aborted => simp only [begun, status, stands]
  | answerEnemy | answerAlive | feed => rfl
  | interpret | configure => cases reacts

/-- The course does not depend on the limit. -/
theorem Course.withLimit (course : Course start source made session) (limit : Nat) :
    Course (start.withLimit limit) source made (session.withLimit limit) := by
  induction course with
  | start =>
    have same : (start.withLimit limit).begun (.interpret source) =
        (start.begun (.interpret source)).withLimit limit := by
      simp only [begun]
      split <;> rfl
    exact same ▸ .start
  | stride course running ih => exact stride_withLimit _ limit ▸ .stride ih running
  | react course resting reacts ih =>
    exact begun_withLimit _ limit reacts ▸ .react ih resting reacts

/-! ## Sessions on the course -/

theorem Course.limit_eq (course : Course start source made session) :
    session.budget.limit = start.budget.limit := by
  induction course with
  | start =>
    simp only [begun]
    split <;> rfl
  | stride course running ih =>
    rw [← ih]
    unfold Session.stride
    split
    · rfl
    · rw [stepped_budget]
      rfl
  | react course resting reacts ih => rw [begun_budget reacts, ih]

/-- As long as the course is within the limit, the session is where the course is. -/
theorem Course.afterAll_eq (resting : start.status ≠ .running)
    (course : Course start source made session)
    (within : session.budget.used ≤ start.budget.limit) :
    start.afterAll made = session.settle := by
  induction course with
  | start => exact after_eq_settle resting (.interpret source)
  | @stride made session course running ih =>
    have stride : session.stride.settle = session.settle :=
      settle_stride running (course.limit_eq ▸ within)
    rw [stride]
    exact ih (Nat.le_trans session.used_le_stride within)
  | react course rests reacts ih =>
    rw [begun_budget reacts] at within
    rw [afterAll_append, ih within, settle_resting rests]
    exact after_eq_settle rests _

theorem begun_status (session : Session) {call : Call} (reacts : call.isReaction = true) :
    (session.begun call).status = .running ∨ (session.begun call).status = session.status := by
  have begins := session.begins_of_reaction reacts
  generalize session.begun call = begun at begins
  cases begins with
  | asked waiting => exact .inl (session.accept_status _)
  | acted waiting => exact .inl rfl
  | left => exact .inr rfl

/-- There is no limit to exceed on the course. -/
theorem Course.unexceeded (course : Course start source made session) :
    session.status ≠ .limitExceeded := by
  induction course with
  | start =>
    simp only [begun]
    split <;> simp [started]
  | stride course running ih =>
    unfold Session.stride
    split
    · simp
    · exact stepped_status _ _ running
  | @react made session course resting call reacts ih =>
    rcases session.begun_status reacts with running | same
    · simp [running]
    · exact same ▸ ih

/-- A run on the course ends on it, or executes the first statement past the limit and says so. -/
theorem Course.settle (course : Course start source made session)
    (within : session.budget.used ≤ session.budget.limit) :
    Course start source made session.settle ∨
      ∃ before statement, Course start source made before ∧ before.status = .running ∧
        before.budget.used = before.budget.limit ∧
        before.program.statements[before.machine.pc]? = some statement ∧
        session.settle = { (before.attempt statement).1 with status := .limitExceeded } := by
  by_cases running : session.status = .running
  · rw [settle_running running]
    obtain ⟨last, passes, halts⟩ := session.run_halts
    have onCourse : Course start source made last ∧ last.status = .running ∧
        last.budget.used ≤ last.budget.limit := by
      refine passes.keeps ?_ (P := fun last => Course start source made last ∧
        last.status = .running ∧
        last.budget.used ≤ last.budget.limit) ⟨course, running, within⟩
      intro session statement onCourse found less done
      obtain ⟨course, running, -⟩ := onCourse
      have stride : session.stride = (session.attempt statement).1 := by
        simp only [Session.stride, found, stepped_of_done done]
      exact ⟨stride ▸ course.stride running, running, less⟩
    obtain ⟨course, running, within⟩ := onCourse
    rcases halts.stride with same | ⟨statement, found, past, same⟩
    · exact .inl (same ▸ course.stride running)
    · refine .inr ⟨last, statement, course, running, ?_, found, same⟩
      have notLess : ¬ last.budget.used < last.budget.limit := by
        intro less
        rw [attempt_within_iff.mpr less] at past
        cases past
      omega
  · exact .inl ((settle_resting running).symm ▸ course)

/-! ## Sessions that have not exceeded their limit -/

theorem after_exceeded (exceeded : session.status = .limitExceeded) {call : Call}
    (reacts : call.isReaction = true) :
    (session.after call).status = .limitExceeded := by
  cases call with
  | resume => simp only [after, resume, exceeded]
  | answerEnemy | answerAlive | feed => exact exceeded
  | interpret | configure => cases reacts

theorem afterAll_exceeded (exceeded : session.status = .limitExceeded) {calls : List Call}
    (reacts : ∀ call ∈ calls, call.isReaction = true) :
    (session.afterAll calls).status = .limitExceeded :=
  afterAll_keeps (P := fun session => session.status = .limitExceeded)
    (fun exceeded member => after_exceeded exceeded (reacts _ member)) exceeded

theorem reply_exceeded_iff (unexceeded : session.status ≠ .limitExceeded) (call : Call) :
    session.reply call = some .limitExceeded ↔ (session.after call).status = .limitExceeded := by
  have standing : ∀ later : Session, later.standing = .limitExceeded ↔
      later.status = .limitExceeded := by
    intro later
    unfold standing
    cases later.status <;> simp
  rw [reply_eq]
  cases call with
  | interpret | resume => simp [Call.isSpoken, standing]
  | answerEnemy | answerAlive | feed => exact iff_of_false (by simp [Call.isSpoken]) unexceeded
  | configure => exact iff_of_false (by simp [Call.isSpoken]) (by simp [after, configure])

/-- A host is told that the limit is exceeded exactly if the session stands so at the end. -/
theorem trips_iff {calls : List Call} (reacts : ∀ call ∈ calls.tail, call.isReaction = true)
    (unexceeded : session.status ≠ .limitExceeded) :
    session.Trips calls ↔ (session.afterAll calls).status = .limitExceeded := by
  induction calls generalizing session with
  | nil => exact iff_of_false (by simp [Trips, history]) unexceeded
  | cons call calls ih =>
    have first : session.Trips (call :: calls) ↔
        session.reply call = some .limitExceeded ∨ (session.after call).Trips calls := by
      simp [Trips, history]
    rw [first, reply_exceeded_iff unexceeded, afterAll_cons]
    by_cases now : (session.after call).status = .limitExceeded
    · exact iff_of_true (.inl now) (afterAll_exceeded now reacts)
    · rw [ih (fun call member => reacts call (List.mem_of_mem_tail member)) now]
      simp [now]

theorem Consistent.within (consistent : session.Consistent)
    (unexceeded : session.status ≠ .limitExceeded) :
    session.budget.used ≤ session.budget.limit := by
  have atMost := consistent.used
  have notPast : session.budget.used ≠ session.budget.limit + 1 :=
    fun past => unexceeded (consistent.exceeded.mp past)
  omega

/-- A session that has not exceeded its limit stays on the course. -/
theorem Course.afterAll (course : Course start source made session)
    (consistent : session.Consistent) {reactions : List Call}
    (reacts : ∀ call ∈ reactions, call.isReaction = true)
    (unexceeded : (session.afterAll reactions).status ≠ .limitExceeded) :
    Course start source (made ++ reactions) (session.afterAll reactions) := by
  induction reactions generalizing made session with
  | nil => exact (List.append_nil made).symm ▸ course
  | cons call reactions ih =>
    have further : ∀ call ∈ reactions, call.isReaction = true :=
      fun call member => reacts call (List.mem_cons_of_mem _ member)
    have here := reacts call List.mem_cons_self
    have within : (session.begun call).budget.used ≤ (session.begun call).budget.limit := by
      rw [begun_budget here]
      exact consistent.within course.unexceeded
    have onCourse : Course start source (made ++ [call]) (session.after call) := by
      rw [after_eq_settle consistent.resting]
      rcases (course.react consistent.resting here).settle within with
        settled | ⟨before, statement, -, -, -, -, same⟩
      · exact settled
      · refine absurd (afterAll_exceeded ?_ further) unexceeded
        rw [after_eq_settle consistent.resting, same]
    have later := ih onCourse (consistent.after call) further unexceeded
    rwa [List.append_assoc, List.singleton_append] at later

theorem begun_interpret_budget (session : Session) (source : String) :
    (session.begun (.interpret source)).budget = session.budget.reset := by
  simp only [begun]
  split <;> rfl

/-- A session that has not exceeded its limit is on the course. -/
theorem course_of_unexceeded (consistent : start.Consistent) {reactions : List Call}
    (reacts : ∀ call ∈ reactions, call.isReaction = true)
    (unexceeded : (start.afterAll (.interpret source :: reactions)).status ≠ .limitExceeded) :
    Course start source (.interpret source :: reactions)
      (start.afterAll (.interpret source :: reactions)) := by
  have within : (start.begun (.interpret source)).budget.used ≤
      (start.begun (.interpret source)).budget.limit := by
    rw [begun_interpret_budget]
    exact Nat.zero_le _
  have onCourse : Course start source [.interpret source] (start.after (.interpret source)) := by
    rw [after_eq_settle consistent.resting]
    rcases Course.start.settle within with settled | ⟨before, statement, -, -, -, -, same⟩
    · exact settled
    · refine absurd (afterAll_exceeded ?_ reacts) unexceeded
      rw [after_eq_settle consistent.resting, same]
  exact onCourse.afterAll (consistent.after _) reacts unexceeded

/-- A session that has not exceeded its limit is on the course, also when one more call is made. -/
theorem course_of_begun (consistent : start.Consistent)
    {reactions earlier later : List Call} {call : Call}
    (reacts : ∀ call ∈ reactions, call.isReaction = true)
    (divided : .interpret source :: reactions = earlier ++ call :: later)
    (unexceeded : (start.afterAll earlier).status ≠ .limitExceeded) :
    Course start source (earlier ++ [call]) ((start.afterAll earlier).begun call) ∧
      ((start.afterAll earlier).begun call).budget.used ≤ start.budget.limit := by
  cases earlier with
  | nil =>
    cases divided
    refine ⟨.start, ?_⟩
    rw [afterAll_nil, begun_interpret_budget]
    exact Nat.zero_le _
  | cons first earlier =>
    cases divided
    have course := course_of_unexceeded consistent
      (fun call member => reacts call (List.mem_append_left _ member)) unexceeded
    have here := reacts call (by simp)
    have rests := consistent.afterAll (.interpret source :: earlier)
    refine ⟨course.react rests.resting here, ?_⟩
    rw [begun_budget here, ← course.limit_eq]
    exact rests.within unexceeded

/-! ## The threshold -/

/-- The first statement past the limit is executed, and what it leaves is what the session has when
it says so. How the statement ended is neither told nor recorded. -/
theorem exceeding (consistent : start.Consistent)
    {reactions earlier later : List Call} {call : Call}
    (reacts : ∀ call ∈ reactions, call.isReaction = true)
    (divided : .interpret source :: reactions = earlier ++ call :: later)
    (unexceeded : (start.afterAll earlier).status ≠ .limitExceeded)
    (exceeds : (start.afterAll (earlier ++ [call])).status = .limitExceeded) :
    ∃ before statement, Course start source (earlier ++ [call]) before ∧
      before.status = .running ∧ before.budget.used = start.budget.limit ∧
      before.program.statements[before.machine.pc]? = some statement ∧
      start.afterAll (earlier ++ [call]) =
        { (before.attempt statement).1 with status := .limitExceeded } := by
  have rests := consistent.afterAll earlier
  have settles :
      start.afterAll (earlier ++ [call]) = ((start.afterAll earlier).begun call).settle := by
    rw [afterAll_append]
    exact after_eq_settle rests.resting call
  obtain ⟨course, within⟩ := course_of_begun consistent reacts divided unexceeded
  rw [settles] at exceeds ⊢
  rcases course.settle (course.limit_eq ▸ within) with
    settled | ⟨before, statement, onCourse, running, full, found, same⟩
  · exact absurd exceeds settled.unexceeded
  · exact ⟨before, statement, onCourse, running, onCourse.limit_eq ▸ full, found, same⟩

/-- A session that exceeds its limit does so in the course of one of the calls. -/
theorem exists_exceeding {calls : List Call} (unexceeded : session.status ≠ .limitExceeded)
    (exceeds : (session.afterAll calls).status = .limitExceeded) :
    ∃ earlier call later, calls = earlier ++ call :: later ∧
      (session.afterAll earlier).status ≠ .limitExceeded ∧
      (session.afterAll (earlier ++ [call])).status = .limitExceeded := by
  induction calls generalizing session with
  | nil => exact absurd exceeds unexceeded
  | cons call calls ih =>
    by_cases now : (session.after call).status = .limitExceeded
    · exact ⟨[], call, calls, rfl, unexceeded, now⟩
    · obtain ⟨earlier, last, later, divided, before, after⟩ := ih now exceeds
      exact ⟨call :: earlier, last, later, by rw [divided]; rfl, before, after⟩

/-! ## Two limits -/

theorem consistent_fresh (lines : List String) (limit : Nat) : (fresh lines limit).Consistent :=
  consistent_configure (consistent_ofInput lines).targeted limit

/-- A script and what a host does in the course of its run leave a consistent session with the same
limit, whatever the session was before. -/
theorem afterAll_interpret (start : Session) (source : String) {reactions : List Call}
    (reacts : ∀ call ∈ reactions, call.isReaction = true) :
    (start.afterAll (.interpret source :: reactions)).Consistent ∧
      (start.afterAll (.interpret source :: reactions)).budget.limit = start.budget.limit := by
  have first : (start.after (.interpret source)).budget.limit = start.budget.limit := by
    rw [interpret_eq_settle, settle_limit, begun_interpret_budget]
    rfl
  rw [afterAll_cons]
  refine afterAll_keeps (P := fun session => session.Consistent ∧
    session.budget.limit = start.budget.limit) ?_ ⟨start.consistent_interpret source, first⟩
  intro session call kept member
  obtain ⟨consistent, same⟩ := kept
  refine ⟨consistent.after call, ?_⟩
  rw [after_eq_settle consistent.resting, settle_limit, begun_budget (reacts call member), same]

theorem afterAll_limit (lines : List String) (limit : Nat) (source : String) {reactions : List Call}
    (reacts : ∀ call ∈ reactions, call.isReaction = true) :
    ((fresh lines limit).afterAll (.interpret source :: reactions)).Consistent ∧
      ((fresh lines limit).afterAll (.interpret source :: reactions)).budget.limit = limit :=
  afterAll_interpret (fresh lines limit) source reacts

variable {lines : List String} {low high : Nat} {reactions : List Call}

/-- The course is where a session is, whatever limit it has, as long as the course is within that
limit. -/
theorem Course.fresh_eq {limit : Nat} (course : Course (fresh lines limit) source made session)
    (resting : session.status ≠ .running) (within : session.budget.used ≤ high) :
    (fresh lines high).afterAll made = session.withLimit high := by
  rw [(course.withLimit high).afterAll_eq (consistent_fresh lines high).resting within]
  exact settle_resting resting

/-- Under a higher limit the session is in the same place, if it has not exceeded the lower one. -/
theorem afterAll_withLimit (le : low ≤ high)
    (reacts : ∀ call ∈ reactions, call.isReaction = true) (unexceeded :
      ((fresh lines low).afterAll (.interpret source :: reactions)).status ≠ .limitExceeded) :
    (fresh lines high).afterAll (.interpret source :: reactions) =
      ((fresh lines low).afterAll (.interpret source :: reactions)).withLimit high := by
  have course := course_of_unexceeded (consistent_fresh lines low) reacts unexceeded
  obtain ⟨consistent, limit⟩ := afterAll_limit lines low source reacts
  have within := consistent.within unexceeded
  exact course.fresh_eq consistent.resting (by omega)

/-- A limit is exceeded exactly if under a higher one more statements are executed. -/
theorem exceeded_iff_used (le : low ≤ high)
    (reacts : ∀ call ∈ reactions, call.isReaction = true) :
    ((fresh lines low).afterAll (.interpret source :: reactions)).status = .limitExceeded ↔
      low < ((fresh lines high).afterAll (.interpret source :: reactions)).budget.used := by
  obtain ⟨consistent, limit⟩ := afterAll_limit lines high source reacts
  constructor
  · intro exceeds
    by_cases both : ((fresh lines high).afterAll (.interpret source :: reactions)).status =
      .limitExceeded
    · rw [consistent.exceeded.mpr both, limit]
      omega
    · have course := course_of_unexceeded (consistent_fresh lines high) reacts both
      refine Nat.lt_of_not_le fun within => both ?_
      rw [course.fresh_eq consistent.resting within] at exceeds
      exact exceeds
  · intro more
    refine Decidable.byContradiction fun unexceeded => ?_
    obtain ⟨below, lower⟩ := afterAll_limit lines low source reacts
    have within := below.within unexceeded
    rw [afterAll_withLimit le reacts unexceeded] at more
    rw [lower] at within
    exact absurd more (Nat.not_lt.mpr within)

/-- Sessions that are in the same place after every call have the same history. -/
theorem history_withLimit {one other : Session} {calls : List Call}
    (same : ∀ earlier later, calls = earlier ++ later → earlier ≠ [] →
      other.afterAll earlier = (one.afterAll earlier).withLimit high) :
    other.history calls = (one.history calls).map fun entry =>
      (entry.1, entry.2.withLimit high) := by
  induction calls generalizing one other with
  | nil => rfl
  | cons call calls ih =>
    have here : other.after call = (one.after call).withLimit high :=
      same [call] calls rfl (by simp)
    have replied : other.reply call = one.reply call := by
      rw [reply_eq, reply_eq, here]
      rfl
    have rest : (other.after call).history calls = ((one.after call).history calls).map _ :=
      ih fun earlier later divided _ =>
        same (call :: earlier) later (by rw [divided]; rfl) (by simp)
    simp only [history, List.map_cons]
    rw [replied, rest, here]

/-- The course of a script starts with the script. -/
theorem Course.made_eq (course : Course start source made session) :
    ∃ reactions, made = .interpret source :: reactions := by
  induction course with
  | start => exact ⟨[], rfl⟩
  | stride course running ih => exact ih
  | @react made session course resting call reacts ih =>
    obtain ⟨reactions, rfl⟩ := ih
    exact ⟨reactions ++ [call], rfl⟩

/-- A limit is exceeded exactly if without one more statements are executed. -/
theorem exceeded_iff_course (reacts : ∀ call ∈ reactions, call.isReaction = true) :
    ((fresh lines low).afterAll (.interpret source :: reactions)).status = .limitExceeded ↔
      ∃ made before, made <+: .interpret source :: reactions ∧
        Course (fresh lines low) source made before ∧ before.budget.used = low + 1 := by
  constructor
  · intro exceeds
    have unexceeded : (fresh lines low).status ≠ .limitExceeded := by simp [fresh, configure]
    obtain ⟨earlier, call, later, divided, before, after⟩ := exists_exceeding unexceeded exceeds
    obtain ⟨last, statement, course, running, full, found, -⟩ :=
      exceeding (consistent_fresh lines low) reacts divided before after
    refine ⟨earlier ++ [call], last.stride, ⟨later, ?_⟩, course.stride running, ?_⟩
    · rw [divided, List.append_assoc]
      rfl
    · simp only [stride, found, stepped_budget, Budget.spend, full]
      rfl
  · rintro ⟨made, before, ⟨later, divided⟩, course, used⟩
    obtain ⟨further, rfl⟩ := course.made_eq
    rw [← divided, afterAll_append]
    obtain ⟨-, rfl⟩ := List.cons.inj divided
    -- Under a limit that leaves room for one more statement, the session settles after that
    -- statement.
    have settles : (fresh lines (low + 1)).afterAll (.interpret source :: further) =
        (before.withLimit (low + 1)).settle :=
      (course.withLimit (low + 1)).afterAll_eq (consistent_fresh lines (low + 1)).resting
        (Nat.le_of_eq used)
    have more :
        low < ((fresh lines (low + 1)).afterAll (.interpret source :: further)).budget.used := by
      rw [settles]
      have atLeast := (before.withLimit (low + 1)).used_le_settle
      exact Nat.lt_of_lt_of_le (Nat.lt_of_lt_of_eq (Nat.lt_succ_self low) used.symm) atLeast
    have now := (exceeded_iff_used (Nat.le_succ low)
      (fun call member => reacts call (List.mem_append_left _ member))).mpr more
    exact afterAll_exceeded now fun call member => reacts call (List.mem_append_right _ member)

/-- Two sessions with different limits are given the same script, the same lines to read and the
same calls.
* Up to the call in which the lower limit is exceeded, both give the same replies and stand the same
  after every call.
* The lower limit is exceeded exactly if under the higher limit more statements are executed than
  the lower one allows.
* The lower limit is exceeded exactly if the course of the script without a limit has one statement
  more.
* The session that exceeds its limit has executed exactly one statement more, with all that it does
  to the variables and the console. It says only that the limit is exceeded, and has no errors. -/
theorem limit_transparent (lines : List String) (source : String) {low high : Nat}
    (le : low ≤ high) {reactions : List Call}
    (reacts : ∀ call ∈ reactions, call.isReaction = true) :
    (∀ earlier later, .interpret source :: reactions = earlier ++ later →
      ¬(fresh lines low).Trips earlier →
      (fresh lines high).history earlier =
        ((fresh lines low).history earlier).map fun entry => (entry.1, entry.2.withLimit high)) ∧
    ((fresh lines low).Trips (.interpret source :: reactions) ↔
      low < ((fresh lines high).afterAll (.interpret source :: reactions)).budget.used) ∧
    ((fresh lines low).Trips (.interpret source :: reactions) ↔
      ∃ made before, made <+: .interpret source :: reactions ∧
        Course (fresh lines low) source made before ∧
        before.budget.used = low + 1) ∧
    (∀ earlier call later, .interpret source :: reactions = earlier ++ call :: later →
      ¬(fresh lines low).Trips earlier →
      ((fresh lines low).afterAll earlier).reply call = some .limitExceeded →
      ∃ before statement, Course (fresh lines low) source (earlier ++ [call]) before ∧
        before.status = .running ∧
        before.budget.used = low ∧
          before.program.statements[before.machine.pc]? = some statement ∧
        (fresh lines low).afterAll (earlier ++ [call]) =
          { (before.attempt statement).1 with status := .limitExceeded } ∧
        ((fresh lines low).afterAll (earlier ++ [call])).budget.used = low + 1 ∧
        ((fresh lines low).afterAll (earlier ++ [call])).errors.entries = []) := by
  have unexceeded : (fresh lines low).status ≠ .limitExceeded := by simp [fresh, configure]
  have trips : (fresh lines low).Trips (.interpret source :: reactions) ↔ _ :=
    trips_iff reacts unexceeded
  -- The calls up to some point are again a script with reactions.
  have reactsEarlier : ∀ earlier later, .interpret source :: reactions = earlier ++ later →
      ∀ call ∈ earlier.tail, call.isReaction = true := by
    intro earlier later divided call member
    cases earlier with
    | nil => cases member
    | cons first earlier =>
      cases divided
      exact reacts call (List.mem_append_left _ member)
  refine ⟨?_, trips.trans (exceeded_iff_used le reacts),
    trips.trans (exceeded_iff_course reacts), ?_⟩
  · intro earlier later divided untripped
    rw [trips_iff (reactsEarlier earlier later divided) unexceeded] at untripped
    refine history_withLimit fun before after split nonempty => ?_
    cases before with
    | nil => exact absurd rfl nonempty
    | cons first before =>
      rw [split] at divided untripped
      obtain ⟨rfl, rfl⟩ := List.cons.inj divided
      rw [afterAll_append] at untripped
      refine afterAll_withLimit le (fun call member => reacts call (by simp [member])) fun now =>
        untripped ?_
      exact afterAll_exceeded now fun call member => reacts call (by simp [member])
  · intro earlier call later divided untripped replied
    rw [trips_iff (reactsEarlier earlier (call :: later) divided) unexceeded] at untripped
    have exceeds : ((fresh lines low).afterAll (earlier ++ [call])).status = .limitExceeded := by
      rw [afterAll_append]
      exact (reply_exceeded_iff untripped call).mp replied
    obtain ⟨before, statement, course, running, full, found, same⟩ :=
      exceeding (consistent_fresh lines low) reacts divided untripped exceeds
    have consistent := (consistent_fresh lines low).afterAll (earlier ++ [call])
    refine ⟨before, statement, course, running, full, found, same, ?_,
      consistent.clean (.inr exceeds)⟩
    rw [same]
    exact congrArg (· + 1) full

/-- A script that prints, reloads and prints again. -/
def reloading : String := "print 1\nrecharger()\nprint 2"

/-- Two statements are executed when the script reloads, and the third one exceeds a limit of two.
It still prints. -/
theorem limit_transparent_reloading :
    2 < ((fresh [] 3).afterAll [.interpret reloading, .resume]).budget.used ∧
    (fresh [] 2).Trips [.interpret reloading, .resume] ∧
    (fresh [] 3).history [.interpret reloading] =
      ((fresh [] 2).history [.interpret reloading]).map
        (fun entry => (entry.1, entry.2.withLimit 3)) ∧
    ((fresh [] 2).afterAll [.interpret reloading, .resume]).machine.console.output = #["1", "2"] ∧
    ∃ before statement, Course (fresh [] 2) reloading [.interpret reloading, .resume] before ∧
      (fresh [] 2).afterAll [.interpret reloading, .resume] =
        { (before.attempt statement).1 with status := .limitExceeded } := by
  have reacts : ∀ call ∈ [Call.resume], call.isReaction = true := by decide
  obtain ⟨same, used, -, last⟩ := limit_transparent [] reloading (Nat.le_succ 2) reacts
  have more : 2 < ((fresh [] 3).afterAll [.interpret reloading, .resume]).budget.used := by
    decide +kernel
  have first : ¬(fresh [] 2).Trips [.interpret reloading] := by
    rw [trips_iff (by simp) (by simp [fresh, configure])]
    decide +kernel
  have replied : ((fresh [] 2).afterAll [.interpret reloading]).reply .resume =
      some .limitExceeded := by
    decide +kernel
  obtain ⟨before, statement, course, -, -, -, after, -, -⟩ :=
    last [.interpret reloading] .resume [] rfl first replied
  exact ⟨more, used.mpr more, same [.interpret reloading] [.resume] rfl first, by decide +kernel,
    before, statement, course, after⟩

end Session

end RobotScript
