import RobotScript.Proofs.Faults
import RobotScript.Proofs.Session.Trail

/-!
# How control comes to a counted loop

Where a counted loop stands is remembered by its index, for as long as the script runs. The entry is
set when the body is entered, and it is erased only when the condition fails. So what a loop does
when control comes to it from outside depends on how it was left: with its condition it begins anew,
and by a `goto` out of its body it goes on.

* `Program.execute_loops` and `Program.execute_pour_phase`: a statement changes only its own entry,
  and how.
* `Passage` is a run in the middle, with the sessions before all statements that it has executed so
  far. `covers_executedAll` gives one for every statement that a script executes.
* `Tracked` says what the entries tell about the trail. A statement keeps it by `Tracked.stride`,
  what a host does by `Tracked.begun`, and `Passage.tracked` is the induction.

`loop_begins_anew` says which assignment is made when control comes to a loop from outside. That it
is not always the first one is `loop_goes_on_after_goto`.
-/

namespace RobotScript

/-! ## Statements and the loops -/

namespace Machine

variable {machine : Machine} {other : Nat} {phase : Option Phase}

theorem withValue_loops {expr : Expr} {following : Value → Machine × Outcome}
    (stays : machine.loops.get? other = phase)
    (goesOn : ∀ value, (following value).1.loops.get? other = phase) :
    (machine.withValue expr following).1.loops.get? other = phase := by
  unfold withValue
  cases machine.value expr with
  | ok value => exact goesOn value
  | error query => exact stays

theorem withLabel_loops {labels : Table String Nat} {label : String}
    {following : Nat → Machine × Outcome} (stays : machine.loops.get? other = phase)
    (goesOn : ∀ target, (following target).1.loops.get? other = phase) :
    (machine.withLabel labels label following).1.loops.get? other = phase := by
  unfold withLabel
  cases labels.get? label with
  | some target => exact goesOn target
  | none => exact stays

theorem withBearing_loops {bearing : Bearing} {following : Direction → Machine × Outcome}
    (stays : machine.loops.get? other = phase)
    (goesOn : ∀ direction, (following direction).1.loops.get? other = phase) :
    (machine.withBearing bearing following).1.loops.get? other = phase := by
  cases bearing with
  | toward direction => exact goesOn direction
  | held name =>
    simp only [withBearing]
    cases machine.store.get? name with
    | some value => exact goesOn _
    | none => exact stays

theorem readInto_loops (machine : Machine) (name : String) :
    (machine.readInto name).loops = machine.loops := by
  unfold readInto
  rcases machine.console.readLine with ⟨_ | line, console⟩ <;> rfl

/-- A counted loop goes on to its condition as it is, or with its assignment made. -/
theorem prepareLoop_loops {index : Nat} {init step : Assignment} {prepared : Machine}
    (given : machine.prepareLoop index init step = .ok prepared) :
    prepared.pc = machine.pc ∧
      (machine.loops.get? index = some .checking ∧ prepared.loops = machine.loops ∨
        prepared.loops = machine.loops.insert index .checking) := by
  cases phase : machine.loops.get? index with
  | none =>
    cases known : machine.value init.value with
    | error query =>
      simp only [prepareLoop, phase, known] at given
      cases given
    | ok value =>
      simp only [prepareLoop, phase, known] at given
      cases given
      exact ⟨rfl, .inr rfl⟩
  | some remembered =>
    cases remembered with
    | iterating =>
      cases known : machine.value step.value with
      | error query =>
        simp only [prepareLoop, phase, known] at given
        cases given
      | ok value =>
        simp only [prepareLoop, phase, known] at given
        cases given
        exact ⟨rfl, .inr rfl⟩
    | checking =>
      simp only [prepareLoop, phase] at given
      cases given
      exact ⟨rfl, .inl ⟨rfl, rfl⟩⟩

end Machine

namespace Program

variable {program : Program} {machine : Machine}

/-- A statement leaves the loops at other places as they are. -/
theorem execute_loops (program : Program) (machine : Machine) {index other : Nat}
    (differs : other ≠ index) (statement : Statement) :
    (program.execute machine index statement).1.loops.get? other = machine.loops.get? other := by
  cases statement with
  | print expr => exact Machine.withValue_loops rfl fun value => rfl
  | input name => exact congrArg (·.get? other) (machine.readInto_loops name)
  | assign assignment => exact Machine.withValue_loops rfl fun value => rfl
  | goto label => exact Machine.withLabel_loops rfl fun target => rfl
  | si condition otherwise finish =>
    refine Machine.withLabel_loops rfl fun target => Machine.withValue_loops rfl fun value => ?_
    by_cases holds : value.isTrue = true
    · rw [if_pos holds]
    · rw [if_neg holds]
      cases otherwise with
      | none => rfl
      | some label => exact Machine.withLabel_loops rfl fun target => rfl
  | tantque condition start finish =>
    refine Machine.withLabel_loops rfl fun target => Machine.withValue_loops rfl fun value => ?_
    show (if value.isTrue = true then machine else machine.jump target).loops.get? other = _
    split <;> rfl
  | pour init condition step start finish =>
    refine Machine.withLabel_loops rfl fun target => ?_
    cases given : machine.prepareLoop index init step with
    | error query => rfl
    | ok prepared =>
      have same : prepared.loops.get? other = machine.loops.get? other := by
        rcases (Machine.prepareLoop_loops given).2 with ⟨-, loops⟩ | loops
        · rw [loops]
        · rw [loops, Table.get?_insert, if_neg differs]
      refine Machine.withValue_loops same fun value => ?_
      show (if value.isTrue = true then prepared.enterLoop index else
        prepared.leaveLoop index target).loops.get? other = _
      split
      · show (prepared.loops.insert index .iterating).get? other = _
        rw [Table.get?_insert, if_neg differs, same]
      · show (prepared.loops.erase index).get? other = _
        rw [Table.get?_erase, if_neg differs, same]
  | move bearing => exact Machine.withBearing_loops rfl fun direction => rfl
  | shoot bearing => exact Machine.withBearing_loops rfl fun direction => rfl
  | melee direction => rfl
  | reload => rfl

/-- What a counted loop remembers of itself: that its body was entered, nothing if its condition
failed, and while it waits for an answer that its condition is due, or what it remembered before. -/
theorem execute_pour_phase {init step : Assignment} {condition : Expr}
    {start finish : String} {last : Nat} (known : program.labels.get? finish = some last)
    (machine : Machine) (index : Nat) {result : Machine} {outcome : Outcome}
    (executed : program.execute machine index (.pour init condition step start finish) =
      (result, outcome)) :
    outcome = .done ∧ (result.pc = machine.pc ∧ result.loops.get? index = some .iterating ∨
        result.pc = last ∧ result.loops.get? index = none) ∨
      (∃ query, outcome = .ask query) ∧
        (result.loops.get? index = some .checking ∨
          result.loops.get? index = machine.loops.get? index) := by
  cases given : machine.prepareLoop index init step with
  | error query =>
    rw [execute_pour_error known given] at executed
    cases executed
    exact .inr ⟨⟨query, rfl⟩, .inr rfl⟩
  | ok prepared =>
    obtain ⟨place, loops⟩ := Machine.prepareLoop_loops given
    rw [execute_pour_ok known given] at executed
    cases evaluated : prepared.value condition with
    | error query =>
      rw [Machine.withValue_error evaluated] at executed
      cases executed
      refine .inr ⟨⟨query, rfl⟩, .inl ?_⟩
      rcases loops with ⟨checking, same⟩ | same
      · rw [same, checking]
      · rw [same, Table.get?_insert, if_pos rfl]
    | ok value =>
      rw [Machine.withValue_ok evaluated] at executed
      by_cases holds : value.isTrue = true
      · rw [if_pos holds] at executed
        cases executed
        refine .inl ⟨rfl, .inl ⟨place, ?_⟩⟩
        show (prepared.loops.insert index .iterating).get? index = _
        rw [Table.get?_insert, if_pos rfl]
      · rw [if_neg holds] at executed
        cases executed
        refine .inl ⟨rfl, .inr ⟨rfl, ?_⟩⟩
        show (prepared.loops.erase index).get? index = _
        rw [Table.get?_erase, if_pos rfl]

/-- A counted loop at the current statement makes an assignment. Then it tests its condition, and is
entered or left. -/
def counting (program : Program) (machine : Machine) (assignment : Assignment) (condition : Expr)
    (finish : String) :
    Dialogue (Machine × Outcome) :=
  program.toLabel machine.advance finish fun target => do
    let prepared ← machine.settle assignment
    let value ← prepared.evaluate condition
    return (if value.isTrue then prepared.advance.enterLoop prepared.pc else
      prepared.leaveLoop prepared.pc target, .done)

theorem replays_counting {init step assignment : Assignment} {condition : Expr}
    {start finish : String} {last : Nat} (fresh : machine.answers = [])
    (known : program.labels.get? finish = some last)
    (due : machine.dueAssignment (.pour init condition step start finish) = some assignment) :
    program.Replays (.pour init condition step start finish) machine
      (program.counting machine assignment condition finish) := by
  simp only [counting, toLabel, known]
  exact replays_settle fresh known due

/-- If the assignment asks nothing, it has been made when the statement is done, and also when the
condition asks. -/
theorem Replays.store_eq {assignment : Assignment} {condition : Expr} {finish : String} {last : Nat}
    {statement : Statement} {value : Value}
    (replays : program.Replays statement machine
      (program.counting machine assignment condition finish))
    (known : program.labels.get? finish = some last)
    (evaluated : machine.evaluate assignment.value = .done value) :
    (program.execute machine.advance machine.pc statement).1.store =
      machine.store.insert assignment.target value := by
  have made : program.counting machine assignment condition finish =
      ((machine.settled assignment value).evaluate condition).andThen fun holds =>
        .done (if holds.isTrue then (machine.settled assignment value).advance.enterLoop machine.pc
          else (machine.settled assignment value).leaveLoop machine.pc last, .done) := by
    simp only [counting, toLabel, known, Machine.settle, evaluated]
    rfl
  have rests := (machine.settled assignment value).rests_evaluate condition
  rw [made] at replays
  generalize (machine.settled assignment value).evaluate condition = dialogue at rests replays
  cases dialogue with
  | done holds =>
    obtain ⟨-, spent, executed⟩ := replays
    rw [executed]
    by_cases isTrue : holds.isTrue = true
    · rw [if_pos isTrue]
      rfl
    · rw [if_neg isTrue]
      rfl
  | ask asked query reply =>
    obtain ⟨-, held, executed, -⟩ := replays
    rw [executed, rests.1]
    rfl

end Program

/-- A counted loop of a script without an error has an end, after its body and the jump back. -/
theorem Parse.pour_ends {source : String}
    (clean : (Parse.ofSource source).errors = []) {index : Nat} {init step : Assignment}
    {condition : Expr}
    {start finish : String} (found : (Parse.ofSource source).program.statements[index]? =
      some (.pour init condition step start finish)) :
    ∃ last, (Parse.ofSource source).program.labels.get? finish = some last ∧
      index + 2 ≤ last := by
  have wired : (Draft.ofItems (itemsOf source)).Wired :=
    Draft.wired_foldl Draft.wired_empty (sound_readAll _)
  obtain ⟨script, accepts⟩ := accepts_of_clean clean
  have laidOut : (Parse.ofSource source).program = script.program :=
    congrArg Parse.program (ofSource_of_accepts accepts)
  cases known : (Parse.ofSource source).program.labels.get? finish with
  | none =>
    rw [laidOut] at known found
    rw [Script.getElem?_program] at found
    have named : finish ∈ (Statement.pour init condition step start finish).labels := by
      simp [Statement.labels]
    cases (Script.undefined_of_unknown (List.mem_of_getElem? found) named known).1
  | some last =>
    refine ⟨last, rfl, ?_⟩
    rcases (wired.blocksWired.loops index _ start finish found rfl rfl).2 with
      rfl | ⟨other, target, room, -⟩
    · rcases wired.names known with ⟨c, rest, same, -⟩ | minted
      · cases same
      · exact absurd rfl minted.ne_empty
    · cases known.symm.trans target
      exact room

namespace Session

/-! ## Runs in the middle -/

/-- A run of a script has executed the statements of the trail and has come to the session. -/
inductive Passage (start : Session) (source : String) : List Session → Session → Prop
  | start : Passage start source [] (start.begun (.interpret source))
  | stride {trail : List Session} {session : Session} {statement : Statement}
      (passage : Passage start source trail session) (running : session.status = .running)
      (found : session.program.statements[session.machine.pc]? = some statement) :
      Passage start source (trail ++ [session]) session.stride
  | react {trail : List Session} {session : Session} {call : Call}
      (passage : Passage start source trail session) (resting : session.status ≠ .running)
      (reacts : call.isReaction = true) :
      Passage start source trail (session.begun call)

/-- A run comes to each of the sessions in a row, when it has executed the statements in front and
those before it in the row. -/
def Covers (start : Session) (source : String) (front trail : List Session) : Prop :=
  ∀ earlier now later, trail = earlier ++ now :: later →
    Passage start source (front ++ earlier) now ∧ now.status = .running

section Passages

variable {start session : Session} {source : String} {front trail more : List Session}

theorem covers_nil (start : Session) (source : String) (front : List Session) :
    Covers start source front [] := by
  intro earlier now later divided
  simp at divided

theorem Covers.cons (covers : Covers start source (front ++ [session]) trail)
    (passage : Passage start source front session) (running : session.status = .running) :
    Covers start source front (session :: trail) := by
  intro earlier now later divided
  cases earlier with
  | nil =>
    obtain ⟨rfl, -⟩ := List.cons.inj divided
    exact ⟨(List.append_nil front).symm ▸ passage, running⟩
  | cons first earlier =>
    obtain ⟨rfl, same⟩ := List.cons.inj divided
    have there := covers earlier now later same
    rwa [List.append_assoc] at there

theorem Covers.append (covers : Covers start source front trail)
    (further : Covers start source (front ++ trail) more) :
    Covers start source front (trail ++ more) := by
  intro earlier now later divided
  rcases List.append_eq_append_iff.mp divided with
    ⟨between, rfl, rest⟩ | ⟨between, rfl, rest⟩
  · rw [← List.append_assoc]
    exact further between now later rest
  · cases between with
    | nil =>
      have there := further [] now later rest.symm
      rwa [List.append_nil, List.append_nil] at there
    | cons first between =>
      obtain ⟨rfl, -⟩ := List.cons.inj rest
      exact covers earlier now between rfl

/-- The statements that a run executes go on with the passage, and if the run is suspended it is
still on one. -/
theorem Passage.run (passage : Passage start source front session)
    (running : session.status = .running) :
    Covers start source front session.trail ∧
    ∀ suspension, session.run.2.status = .suspended suspension →
      Passage start source (front ++ session.trail) session.run.2 := by
  have single : ∀ {session : Session} {front : List Session},
      Passage start source front session →
      session.status = .running → Covers start source front [session] := fun passage running =>
    (covers_nil start source _).cons passage running
  fun_induction Session.trail session generalizing front with
  | case1 session ended =>
    refine ⟨covers_nil start source front, fun suspension stands => ?_⟩
    rw [run_ended ended] at stands
    cases stands
  | case2 session statement found past =>
    refine ⟨single passage running, fun suspension stands => ?_⟩
    rw [run_exceeded found past] at stands
    cases stands
  | case3 session statement found within _ done ih =>
    have strides : session.stride = (session.attempt statement).1 := by
      simp only [Session.stride, found, stepped, done]
    obtain ⟨covers, last⟩ := ih (strides ▸ passage.stride running found) running
    refine ⟨covers.cons passage running, ?_⟩
    rw [run_eq found (Bool.eq_false_iff.mpr within), done]
    rw [List.append_assoc] at last
    exact last
  | case4 session statement found within _ action acts =>
    refine ⟨single passage running, fun suspension stands => ?_⟩
    have strides : session.stride = session.run.2 := by
      simp only [Session.stride, found, stepped, acts,
        run_eq found (Bool.eq_false_iff.mpr within), conclude]
    exact strides ▸ passage.stride running found
  | case5 session statement found within _ query asks =>
    refine ⟨single passage running, fun suspension stands => ?_⟩
    have strides : session.stride = session.run.2 := by
      simp only [Session.stride, found, stepped, asks,
        run_eq found (Bool.eq_false_iff.mpr within), conclude]
    exact strides ▸ passage.stride running found
  | case6 session statement found within _ diagnostic fails =>
    refine ⟨single passage running, fun suspension stands => ?_⟩
    rw [run_eq found (Bool.eq_false_iff.mpr within), fails] at stands
    cases stands

/-- The statements that a call executes go on with the passage. -/
theorem covers_executed {call : Call} (settles : session.after call = (session.begun call).settle)
    (passage : (session.begun call).status.isOver = false →
      Passage start source front (session.begun call)) :
    Covers start source front (session.executed call) ∧
      ((session.after call).status.isOver = false →
        Passage start source (front ++ session.executed call) (session.after call)) := by
  rw [settles]
  unfold executed
  by_cases running : (session.begun call).status = .running
  · rw [if_pos running]
    obtain ⟨covers, last⟩ := (passage (by rw [running]; rfl)).run running
    refine ⟨covers, fun going => ?_⟩
    rw [settle_running running] at going ⊢
    have rests := (session.begun call).settle_status
    rw [settle_running running] at rests
    cases stands : (session.begun call).run.2.status with
    | suspended suspension => exact last suspension stands
    | running => exact absurd stands rests
    | terminated | limitExceeded | aborted =>
      rw [stands] at going
      cases going
  · rw [if_neg running, settle_resting running, List.append_nil]
    exact ⟨covers_nil start source front, passage⟩

theorem covers_reactions (resting : session.status ≠ .running)
    (passage : session.status.isOver = false → Passage start source front session)
    {reactions : List Call} (reacts : ∀ call ∈ reactions, call.isReaction = true) :
    Covers start source front (session.executedAll reactions) := by
  induction reactions generalizing session front with
  | nil => exact covers_nil start source front
  | cons call reactions ih =>
    have here := reacts call List.mem_cons_self
    have settles := after_eq_settle resting call
    have rests : (session.after call).status ≠ .running := settles ▸ settle_status _
    -- A session that is going on after the call was going on before it.
    have begun : (session.begun call).status.isOver = false →
        Passage start source front (session.begun call) := by
      intro going
      refine .react (passage ?_) resting here
      have begins := session.begins_of_reaction here
      generalize session.begun call = begun at begins going
      cases begins with
      | asked waiting => rw [waiting, Status.isOver]
      | acted waiting => rw [waiting, Status.isOver]
      | left => exact going
    obtain ⟨covers, passage⟩ := covers_executed settles begun
    exact covers.append
      (ih rests passage fun call member => reacts call (List.mem_cons_of_mem _ member))

/-- Before every statement that a script executes, its run is on a passage. -/
theorem covers_executedAll (start : Session) (source : String) {reactions : List Call}
    (reacts : ∀ call ∈ reactions, call.isReaction = true) :
    Covers start source [] (start.executedAll (.interpret source :: reactions)) := by
  have settles := start.interpret_eq_settle source
  have rests : (start.after (.interpret source)).status ≠ .running := settles ▸ settle_status _
  obtain ⟨covers, passage⟩ := covers_executed settles fun _ => .start
  exact covers.append (covers_reactions rests passage reacts)

end Passages

/-! ## What the loops remember -/

/-- The last time in a trail that the statement at an index was done. A statement that had to wait
for an answer was not. -/
def lastDone (index : Nat) (trail : List Session) : Option Session :=
  trail.reverse.find? fun session => session.machine.pc = index && session.stride.status = .running

/-- Control comes to the statement at an index from outside of a block that begins there: at the
start of the run, or from a statement before the block or after it. -/
def FromOutside (index last : Nat) (trail : List Session) : Prop :=
  ∀ before ∈ trail.getLast?, before.machine.pc < index ∨ last ≤ before.machine.pc

instance (index last : Nat) (trail : List Session) : Decidable (FromOutside index last trail) :=
  inferInstanceAs (Decidable (∀ before ∈ trail.getLast?, _))

/-- What is remembered of the loop at an index tells how it went on when it was last done: nothing
if it went on after its end or was never done, and that its body is running if it went on there.
While its condition is due, control stays at the loop. -/
structure Remembers (index last : Nat) (trail : List Session) (session : Session) : Prop where
  nothing : session.machine.loops.get? index = none →
    ∀ before ∈ lastDone index trail, before.stride.machine.pc = last
  iterating : session.machine.loops.get? index = some .iterating →
    ∃ before ∈ lastDone index trail, before.stride.machine.pc = index + 1
  checking : session.machine.loops.get? index = some .checking →
    session.machine.pc = index ∧ ∃ before ∈ trail.getLast?, before.machine.pc = index

/-- The session runs the program, holds answers only if control stays where it was, and remembers
its loops. -/
structure Tracked (program : Program) (trail : List Session) (session : Session) : Prop where
  same : session.program = program
  asked : session.machine.answers ≠ [] ∨
    (∃ query, session.status = .suspended (.ask query)) →
    ∃ before ∈ trail.getLast?, before.machine.pc = session.machine.pc
  loops :
    ∀ {index last : Nat} {init step : Assignment} {condition : Expr} {start finish : String},
    program.statements[index]? = some (.pour init condition step start finish) →
    program.labels.get? finish = some last → Remembers index last trail session

section Tracking

variable {program : Program} {session : Session} {trail : List Session} {statement : Statement}

theorem lastDone_snoc (index : Nat) (trail : List Session) (session : Session) :
    lastDone index (trail ++ [session]) =
      if session.machine.pc = index ∧ session.stride.status = .running then some session else
        lastDone index trail := by
  unfold lastDone
  rw [List.reverse_append, List.reverse_singleton, List.singleton_append, List.find?_cons]
  by_cases here : session.machine.pc = index ∧ session.stride.status = .running
  · simp [here]
  · rw [if_neg here]
    have not : (decide (session.machine.pc = index) && decide (session.stride.status = .running)) =
        false := by
      simpa using here
    rw [not]

/-- What one stride makes of the place, the loops and the status. -/
theorem stride_eq (found : session.program.statements[session.machine.pc]? = some statement)
    (running : session.status = .running) {result : Machine} {outcome : Outcome}
    (executed : session.program.execute session.machine.advance session.machine.pc statement =
      (result, outcome)) :
    session.stride.program = session.program ∧ session.stride.machine.loops = result.loops ∧
      session.stride.machine.pc = (if outcome.isQuestion then session.machine.pc else result.pc) ∧
      (session.stride.status = .running ↔ outcome = .done) ∧
      (outcome.isQuestion = false → session.stride.machine.answers = []) ∧
      ∀ query, session.stride.status = .suspended (.ask query) → outcome.isQuestion = true := by
  have attempted := attempt_eq executed
  simp only [stride, found, stepped, attempted]
  cases outcome with
  | done => simp [running, Outcome.isQuestion]
  | act action => simp [suspend, Outcome.isQuestion]
  | ask query => simp [suspend, Outcome.isQuestion, Machine.jump]
  | fault diagnostic => simp [abort, Outcome.isQuestion]

/-- Another statement, or a loop that waits for an answer, keeps what is remembered of the loop. -/
theorem Remembers.kept {index last : Nat} {next : Session}
    (remembers : Remembers index last trail session)
    (undone : ¬(session.machine.pc = index ∧ session.stride.status = .running))
    (phase : next.machine.loops.get? index = session.machine.loops.get? index)
    (checking : next.machine.loops.get? index = some .checking →
      next.machine.pc = index ∧ session.machine.pc = index) :
    Remembers index last (trail ++ [session]) next where
  nothing := by
    rw [phase, lastDone_snoc, if_neg undone]
    exact remembers.nothing
  iterating := by
    rw [phase, lastDone_snoc, if_neg undone]
    exact remembers.iterating
  checking := by
    intro due
    rw [List.getLast?_concat]
    exact ⟨(checking due).1, session, rfl, (checking due).2⟩

/-- A loop that is executed remembers how it goes on. -/
theorem Remembers.stride_self {last : Nat} {init step : Assignment} {condition : Expr}
    {start finish : String} (remembers : Remembers session.machine.pc last trail session)
    (running : session.status = .running) (found : session.program.statements[session.machine.pc]? =
      some (.pour init condition step start finish))
    (known : session.program.labels.get? finish = some last) :
    Remembers session.machine.pc last (trail ++ [session]) session.stride := by
  rcases executed : session.program.execute session.machine.advance session.machine.pc
    (.pour init condition step start finish) with ⟨result, outcome⟩
  obtain ⟨-, loops, place, status, -, -⟩ := stride_eq found running executed
  rcases session.program.execute_pour_phase known _ _ executed with
    ⟨rfl, way⟩ | ⟨⟨query, rfl⟩, way⟩
  · have done : lastDone session.machine.pc (trail ++ [session]) = some session := by
      rw [lastDone_snoc, if_pos ⟨rfl, status.mpr rfl⟩]
    rw [← loops] at way
    rcases way with ⟨entered, phase⟩ | ⟨left, phase⟩
    · refine ⟨fun other => ?_, fun _ => ⟨session, done, place.trans entered⟩,
        fun other => ?_⟩
      · cases phase.symm.trans other
      · cases phase.symm.trans other
    · refine ⟨fun _ before last => ?_, fun other => ?_, fun other => ?_⟩
      · cases done.symm.trans last
        exact place.trans left
      · cases phase.symm.trans other
      · cases phase.symm.trans other
  · have undone : session.stride.status ≠ .running := fun stands => by cases status.mp stands
    rw [← loops] at way
    rcases way with phase | phase
    · refine ⟨fun other => ?_, fun other => ?_,
        fun _ => ⟨place, session, List.getLast?_concat, rfl⟩⟩
      · cases phase.symm.trans other
      · cases phase.symm.trans other
    · exact remembers.kept (fun both => undone both.2) phase fun _ => ⟨place, rfl⟩

/-- A statement keeps what is remembered of the other loops. -/
theorem Remembers.stride {index last : Nat} {init step : Assignment} {condition : Expr}
    {start finish : String} (remembers : Remembers index last trail session)
    (running : session.status = .running)
    (found : session.program.statements[session.machine.pc]? = some statement)
    (loop : session.program.statements[index]? = some (.pour init condition step start finish))
    (known : session.program.labels.get? finish = some last) :
    Remembers index last (trail ++ [session]) session.stride := by
  by_cases here : session.machine.pc = index
  · subst here
    exact remembers.stride_self running loop known
  · rcases executed : session.program.execute session.machine.advance session.machine.pc statement
      with ⟨result, outcome⟩
    obtain ⟨-, loops, -⟩ := stride_eq found running executed
    have phase := session.program.execute_loops session.machine.advance (Ne.symm here) statement
    rw [executed, ← loops] at phase
    refine remembers.kept (fun both => here both.1) phase fun due => ?_
    exact absurd (remembers.checking (phase.symm.trans due)).1 here

theorem Tracked.stride (tracked : Tracked program trail session)
    (running : session.status = .running)
    (found : session.program.statements[session.machine.pc]? = some statement) :
    Tracked program (trail ++ [session]) session.stride := by
  rcases executed : session.program.execute session.machine.advance session.machine.pc
    statement with ⟨result, outcome⟩
  obtain ⟨same, -, place, -, answers, asks⟩ := stride_eq found running executed
  refine ⟨same.trans tracked.same, fun asked => ?_, fun loop known => ?_⟩
  · have question : outcome.isQuestion = true := by
      rcases asked with held | ⟨query, stands⟩
      · exact (Bool.not_eq_false _).mp fun closed => held (answers closed)
      · exact asks query stands
    rw [question, if_pos rfl] at place
    exact ⟨session, List.getLast?_concat, place.symm⟩
  · rw [← tracked.same] at loop known
    exact (tracked.loops (tracked.same ▸ loop) (tracked.same ▸ known)).stride running
      found loop known

theorem Remembers.congr {index last : Nat} {other : Session}
    (remembers : Remembers index last trail session) (place : other.machine.pc = session.machine.pc)
    (loops : other.machine.loops = session.machine.loops) :
    Remembers index last trail other where
  nothing := loops ▸ remembers.nothing
  iterating := loops ▸ remembers.iterating
  checking := by
    rw [place, loops]
    exact remembers.checking

/-- What a host does in the course of a run changes neither the place nor what is remembered. -/
theorem Tracked.begun (tracked : Tracked program trail session) {call : Call}
    (reacts : call.isReaction = true) :
    Tracked program trail (session.begun call) := by
  have begins := session.begins_of_reaction reacts
  generalize session.begun call = begun at begins
  cases begins with
  | @asked query waiting =>
    refine ⟨?_, fun _ => ?_, fun loop known => (tracked.loops loop known).congr ?_ ?_⟩
    · rw [accept_program, tracked.same]
    · rw [accept_machine]
      exact tracked.asked (.inr ⟨query, waiting⟩)
    · rw [accept_machine]
    · rw [accept_machine]
  | acted waiting =>
    refine ⟨tracked.same, fun asked => ?_,
      fun loop known => (tracked.loops loop known).congr rfl rfl⟩
    rcases asked with held | ⟨query, stands⟩
    · exact tracked.asked (.inl held)
    · cases stands
  | left enemy alive console =>
    exact ⟨tracked.same, tracked.asked,
      fun loop known => (tracked.loops loop known).congr rfl rfl⟩

/-- At the start of a script nothing is remembered. -/
theorem tracked_interpret (start : Session) (source : String) :
    Tracked (Parse.ofSource source).program [] (start.begun (.interpret source)) := by
  have fresh : ∀ status, (∀ query, status ≠ .suspended (.ask query)) →
      Tracked (Parse.ofSource source).program [] { start.started source with status } := by
    intro status silent
    refine ⟨rfl, fun asked => ?_,
      fun _ _ => ⟨fun _ before last => ?_, fun iterating => ?_, fun checking => ?_⟩⟩
    · rcases asked with held | ⟨query, stands⟩
      · exact absurd rfl held
      · exact absurd stands (silent query)
    · cases last
    · cases iterating
    · cases checking
  simp only [begun]
  split
  · exact fresh .running (by simp)
  · exact fresh .aborted (by simp)

/-- All along a passage the session remembers its loops. -/
theorem Passage.tracked {start : Session} {source : String}
    (passage : Passage start source trail session) :
    Tracked (Parse.ofSource source).program trail session := by
  induction passage with
  | start => exact tracked_interpret start source
  | stride passage running found ih => exact ih.stride running found
  | react passage resting reacts ih => exact ih.begun reacts

end Tracking

/-! ## Coming to a loop -/

/-- Whatever a host does in the course of a run, when control comes to a counted loop from outside,
then
* if the loop was not done before in this run, or went on after its end when it was last done, it
  makes its first assignment before it tests its condition;
* if it entered its body when it was last done, and so was left from there, it makes its step
  instead. -/
theorem loop_begins_anew (session : Session) {source : String}
    (clean : (Parse.ofSource source).errors = []) {reactions : List Call}
    (reacts : ∀ call ∈ reactions, call.isReaction = true) {earlier later : List Session}
    {now : Session}
    (divided : session.executedAll (.interpret source :: reactions) = earlier ++ now :: later)
    {init step : Assignment} {condition : Expr} {start finish : String}
    (found : (Parse.ofSource source).program.statements[now.machine.pc]? =
      some (.pour init condition step start finish)) :
    ∃ last, (Parse.ofSource source).program.labels.get? finish = some last ∧
      now.machine.pc + 1 < last ∧
      (FromOutside now.machine.pc last earlier →
        ((∀ before ∈ lastDone now.machine.pc earlier, before.stride.machine.pc = last) →
          (Parse.ofSource source).program.Replays
            (.pour init condition step start finish) now.machine
            ((Parse.ofSource source).program.counting now.machine init condition finish)) ∧
        ∀ before ∈ lastDone now.machine.pc earlier, before.stride.machine.pc ≠ last →
          (Parse.ofSource source).program.Replays
            (.pour init condition step start finish) now.machine
            ((Parse.ofSource source).program.counting now.machine step condition finish)) := by
  obtain ⟨last, known, room⟩ := Parse.pour_ends clean found
  have tracked := (covers_executedAll session source reacts earlier now later divided).1.tracked
  have remembers := tracked.loops found known
  refine ⟨last, known, room, fun outside => ?_⟩
  -- Control was not at the loop before, so the loop has not been waiting for an answer.
  have elsewhere : ∀ before ∈ earlier.getLast?, before.machine.pc ≠ now.machine.pc := by
    intro before there same
    have := outside before there
    omega
  have fresh : now.machine.answers = [] := by
    refine Classical.byContradiction fun held => ?_
    obtain ⟨before, there, same⟩ := tracked.asked (.inl held)
    exact elsewhere before there same
  cases phase : now.machine.loops.get? now.machine.pc with
  | none =>
    have due : now.machine.dueAssignment (.pour init condition step start finish) = some init := by
      simp only [Machine.dueAssignment, phase]
    refine ⟨fun _ => Program.replays_counting fresh known due, fun before there differs => ?_⟩
    exact absurd (remembers.nothing phase before there) differs
  | some remembered =>
    cases remembered with
    | iterating =>
      have due : now.machine.dueAssignment (.pour init condition step start finish) =
          some step := by
        simp only [Machine.dueAssignment, phase]
      refine ⟨fun ended => ?_, fun _ _ _ => Program.replays_counting fresh known due⟩
      obtain ⟨before, there, entered⟩ := remembers.iterating phase
      have := ended before there
      omega
    | checking =>
      obtain ⟨-, before, there, same⟩ := remembers.checking phase
      exact absurd same (elsewhere before there)

/-- A loop in another one. -/
def nestedLoops : String :=
  "pour (j = 0 ; j < 2 ; j = j + 1)\npour (i = 0 ; i < 2 ; i = i + 1)\nprint i\nfinpour\nfinpour"

/-- The sessions before the statements of the nested loops. -/
def nestedTrail : List Session :=
  (fresh [] 500).executedAll [.interpret nestedLoops]

/-- The session in the second pass of the outer loop, where control comes to the inner one. -/
def secondPass : Session :=
  nestedTrail.getD 10 {}

/-- The inner loop begins anew: its first assignment sets the variable back. -/
theorem loop_begins_anew_secondPass :
    secondPass.machine.store.get? "i" = some (.number 2.0) ∧
      FromOutside secondPass.machine.pc 4 (nestedTrail.take 10) ∧
      ∃ statement, (Parse.ofSource nestedLoops).program.statements[secondPass.machine.pc]? =
        some statement ∧
        ((Parse.ofSource nestedLoops).program.execute secondPass.machine.advance
          secondPass.machine.pc statement).1.store.get? "i" = some (.number 0.0) := by
  obtain ⟨long, clean, found, ends, outside, ended, before⟩ :
      10 < nestedTrail.length ∧ (Parse.ofSource nestedLoops).errors = [] ∧
      (Parse.ofSource nestedLoops).program.statements[secondPass.machine.pc]? =
        some (.pour ⟨"i", .literal (.number 0.0)⟩
          (.binary .less (.var "i") (.literal (.number 2.0)))
          ⟨"i", .binary .add (.var "i") (.literal (.number 1.0))⟩ "1" "2") ∧
      (Parse.ofSource nestedLoops).program.labels.get? "2" = some 4 ∧
      FromOutside secondPass.machine.pc 4 (nestedTrail.take 10) ∧
      (∀ before ∈ lastDone secondPass.machine.pc (nestedTrail.take 10),
        before.stride.machine.pc = 4) ∧
      secondPass.machine.store.get? "i" = some (.number 2.0) := by decide +kernel
  have divided : nestedTrail = nestedTrail.take 10 ++ secondPass :: nestedTrail.drop 11 := by
    rw [secondPass, List.getD_eq_getElem?_getD, List.getElem?_eq_getElem long, Option.getD_some,
      List.getElem_cons_drop, List.take_append_drop]
  obtain ⟨last, known, -, anew⟩ :=
    loop_begins_anew (fresh [] 500) clean (List.forall_mem_nil _) divided found
  obtain rfl : 4 = last := Option.some.inj (ends.symm.trans known)
  have made := ((anew outside).1 ended).store_eq ends rfl
  refine ⟨before, outside, _, found, ?_⟩
  rw [made, Table.get?_insert, if_pos rfl]

/-- A loop that is left by a `goto`, and to which the script comes back. -/
def leftLoop : String :=
  "again:\npour (i = 0 ; i < 5 ; i = i + 1)\nprint i\ngoto out\nfinpour\nout:\nn = n + 1\nsi n < 2\ngoto again\nfinsi"

/-- The sessions before the statements of the loop that is left. -/
def leftTrail : List Session :=
  (fresh [] 500).executedAll [.interpret leftLoop]

/-- The session when the script comes back to the loop. -/
def comingBack : Session :=
  leftTrail.getD 6 {}

/-- A loop to which control comes from outside need not begin with its first assignment: one that
was left by a `goto` goes on with its step. -/
theorem loop_goes_on_after_goto :
    ¬∀ (session : Session) (source : String), (Parse.ofSource source).errors = [] →
      ∀ (reactions : List Call), (∀ call ∈ reactions, call.isReaction = true) →
      ∀ (earlier later : List Session) (now : Session),
        session.executedAll (.interpret source :: reactions) = earlier ++ now :: later →
      ∀ (init step : Assignment) (condition : Expr) (start finish : String) (last : Nat),
        (Parse.ofSource source).program.statements[now.machine.pc]? =
          some (.pour init condition step start finish) →
        (Parse.ofSource source).program.labels.get? finish = some last →
          FromOutside now.machine.pc last earlier →
        (Parse.ofSource source).program.Replays (.pour init condition step start finish) now.machine
          ((Parse.ofSource source).program.counting now.machine init condition finish) := by
  intro always
  obtain ⟨long, clean, found, ends, outside, stepped⟩ :
      6 < leftTrail.length ∧ (Parse.ofSource leftLoop).errors = [] ∧
      (Parse.ofSource leftLoop).program.statements[comingBack.machine.pc]? =
        some (.pour ⟨"i", .literal (.number 0.0)⟩
          (.binary .less (.var "i") (.literal (.number 5.0)))
          ⟨"i", .binary .add (.var "i") (.literal (.number 1.0))⟩ "0" "1") ∧
      (Parse.ofSource leftLoop).program.labels.get? "1" = some 4 ∧
      FromOutside comingBack.machine.pc 4 (leftTrail.take 6) ∧
      ((Parse.ofSource leftLoop).program.execute comingBack.machine.advance comingBack.machine.pc
        (.pour ⟨"i", .literal (.number 0.0)⟩ (.binary .less (.var "i") (.literal (.number 5.0)))
          ⟨"i", .binary .add (.var "i") (.literal (.number 1.0))⟩ "0" "1")).1.store.get? "i" =
        some (.number 1.0) := by
    decide +kernel
  have divided : leftTrail = leftTrail.take 6 ++ comingBack :: leftTrail.drop 7 := by
    rw [comingBack, List.getD_eq_getElem?_getD, List.getElem?_eq_getElem long, Option.getD_some,
      List.getElem_cons_drop, List.take_append_drop]
  have replays := always (fresh [] 500) leftLoop clean [] (List.forall_mem_nil _) _ _ _ divided _ _
    _ _ _ _ found ends outside
  have made := congrArg (·.get? "i") (replays.store_eq ends rfl)
  dsimp only at made
  rw [stepped, Table.get?_insert, if_pos rfl] at made
  exact absurd made (by decide)

end Session

end RobotScript
