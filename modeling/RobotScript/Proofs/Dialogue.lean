import RobotScript.Machine

/-!
# Statements as dialogues

A dialogue is a computation that asks the host in the middle and goes on with the answer. It is the
direct reading of an expression or a statement: everything happens once and in order, and a question
is a place where the computation waits. Each question comes with the machine as it stands at that
moment.

`Program.execute` has no such places. It starts a statement over with one more answer. The two are
tied together by `Replays`: executing a statement over and over follows its dialogue.

Results:
1. `eval_eq_feed`: evaluation with a list of answers is the dialogue of the expression with these
   answers fed to it.
2. `replays_perform`: every statement, started over with each new answer, follows its dialogue.
3. `asks_perform`: which questions a statement asks, in order, whatever the answers are.
4. `rests_perform`: how the machine stands at each question.
-/

namespace RobotScript

/-! ## Definitions -/

/-- A computation that may ask the host. A question comes with the machine at that moment, and with
what follows each answer. -/
inductive Dialogue (α : Type) where
  | done (result : α)
  | ask (machine : Machine) (query : Query) (reply : Value → Dialogue α)

namespace Dialogue

variable {α β : Type}

/-- Goes on with the result of a dialogue. -/
def andThen : Dialogue α → (α → Dialogue β) → Dialogue β
  | done result, following => following result
  | ask machine query reply, following =>
    ask machine query fun answer => (reply answer).andThen following

instance : Monad Dialogue where
  pure := done
  bind := andThen

/-- What is left of a dialogue and of the answers after as many questions were answered as
possible. -/
def feed : Dialogue α → List Value → Dialogue α × List Value
  | done result, answers => (done result, answers)
  | ask machine query reply, [] => (ask machine query reply, [])
  | ask _ _ reply, answer :: answers => (reply answer).feed answers

/-- The result of a dialogue whose questions get exactly the given answers. -/
def resolve : Dialogue α → List Value → Option α
  | done result, [] => some result
  | ask _ _ reply, answer :: answers => (reply answer).resolve answers
  | _, _ => none

/-- The dialogue asks exactly these questions in this order, whatever the answers are. -/
def Asks : Dialogue α → List Query → Prop
  | done _, queries => queries = []
  | ask _ query reply, queries =>
    ∃ rest, queries = query :: rest ∧ ∀ answer, (reply answer).Asks rest

/-- At each question the machine is as `P` says of it and of the answers before it. -/
def Rests : Dialogue α → (List Value → Machine → Prop) → Prop
  | done _, _ => True
  | ask machine _ reply, P =>
    P [] machine ∧ ∀ answer, (reply answer).Rests fun answers => P (answer :: answers)

end Dialogue

/-- The questions in an expression, from left to right. -/
def Expr.queries : Expr → List Query
  | literal _ => []
  | var _ => []
  | ask query => [query]
  | binary _ left right => left.queries ++ right.queries

namespace Machine

/-- The machine at the next statement. -/
def advance (machine : Machine) : Machine :=
  machine.jump (machine.pc + 1)

/-- The machine with the given answers at hand. -/
def holding (machine : Machine) (answers : List Value) : Machine :=
  { machine with answers }

/-- The value of an expression, asked for from left to right. -/
def evaluate (machine : Machine) : Expr → Dialogue Value
  | .literal value => return value
  | .var name => return machine.store.read name
  | .ask query => .ask machine query .done
  | .binary op left right => do
    let x ← machine.evaluate left
    let y ← machine.evaluate right
    return op.apply x y

/-- The machine after an assignment of the counted loop at the current statement, with the condition
of the loop due. -/
def settled (machine : Machine) (assignment : Assignment) (value : Value) : Machine :=
  { machine.write assignment.target value with
    loops := machine.loops.insert machine.pc .checking
    answers := [] }

/-- Makes an assignment of the counted loop at the current statement. -/
def settle (machine : Machine) (assignment : Assignment) : Dialogue Machine := do
  let value ← machine.evaluate assignment.value
  return machine.settled assignment value

/-- The assignment that is due before the condition of a counted loop. -/
def dueAssignment (machine : Machine) : Statement → Option Assignment
  | .pour init _ step _ _ =>
    match machine.loops.get? machine.pc with
    | none => some init
    | some .iterating => some step
    | some .checking => none
  | _ => none

/-- Makes the assignment that is due, if there is one. -/
def prepare (machine : Machine) (statement : Statement) : Dialogue Machine :=
  match machine.dueAssignment statement with
  | some assignment => machine.settle assignment
  | none => return machine

/-- How the machine stands at a question of the current statement, after the given answers: as
before the statement, except that a counted loop keeps the assignment that it has made. -/
def StandsAt (before : Machine) (statement : Statement) (answers : List Value) (now : Machine) :
    Prop :=
  match before.dueAssignment statement with
  | none => now = before
  | some assignment =>
    if answers.length < assignment.value.queries.length then now = before
    else
      ∃ value, (before.evaluate assignment.value).resolve
        (answers.take assignment.value.queries.length) = some value ∧
        now = before.settled assignment value

end Machine

namespace Program

/-- Goes on with the target of a label. One that leads nowhere is a fault. -/
def toLabel (program : Program) (machine : Machine) (label : String)
    (following : Nat → Dialogue (Machine × Outcome)) : Dialogue (Machine × Outcome) :=
  match program.labels.get? label with
  | some target => following target
  | none => return (machine, .fault ⟨.unknownLabel, label, true, none⟩)

/-- Executes the current statement in one go. -/
def perform (program : Program) (machine : Machine) (statement : Statement) :
    Dialogue (Machine × Outcome) :=
  match statement with
  | .print expr => do
    let value ← machine.evaluate expr
    return ({ machine.advance with console := machine.console.print value.write }, .done)
  | .input name => return (machine.advance.readInto name, .done)
  | .assign assignment => do
    let value ← machine.evaluate assignment.value
    return (machine.advance.write assignment.target value, .done)
  | .goto label =>
    program.toLabel machine.advance label fun target => return (machine.jump target, .done)
  | .si condition otherwise finish =>
    program.toLabel machine.advance finish fun target => do
      let value ← machine.evaluate condition
      if value.isTrue then return (machine.advance, .done)
      else
        match otherwise with
        | none => return (machine.jump target, .done)
        | some label =>
          program.toLabel machine.advance label fun target => return (machine.jump target, .done)
  | .tantque condition _ finish =>
    program.toLabel machine.advance finish fun target => do
      let value ← machine.evaluate condition
      return (if value.isTrue then machine.advance else machine.jump target, .done)
  | .pour _ condition _ _ finish =>
    program.toLabel machine.advance finish fun target => do
      let machine ← machine.prepare statement
      let value ← machine.evaluate condition
      return (if value.isTrue then machine.advance.enterLoop machine.pc else
        machine.leaveLoop machine.pc target, .done)
  | .move bearing =>
    return machine.advance.withBearing bearing fun direction =>
      (machine.advance, .act (.move direction))
  | .shoot bearing =>
    return machine.advance.withBearing bearing fun direction =>
      (machine.advance, .act (.shoot direction))
  | .melee direction => return (machine.advance, .act (.melee direction))
  | .reload => return (machine.advance, .act .reload)

/-- The questions that the current statement asks, in order. -/
def questions (program : Program) (machine : Machine) (statement : Statement) : List Query :=
  match statement with
  | .print expr => expr.queries
  | .assign assignment => assignment.value.queries
  | .si condition _ finish | .tantque condition _ finish =>
    if (program.labels.get? finish).isSome then condition.queries else []
  | .pour _ condition _ _ finish =>
    if (program.labels.get? finish).isSome then
      ((machine.dueAssignment statement).elim [] fun assignment => assignment.value.queries) ++
        condition.queries
    else []
  | _ => []

/-- Executing the current statement, started over with each new answer, follows a dialogue: it ends
where the dialogue ends, it stops where the dialogue asks, and with one more answer it follows what
is left. -/
def Replays (program : Program) (statement : Statement) :
    Machine → Dialogue (Machine × Outcome) → Prop
  | machine, .done (result, outcome) =>
    outcome.isQuestion = false ∧
      ∃ spent, program.execute machine.advance machine.pc statement =
        (result.holding spent, outcome)
  | machine, .ask asked query reply =>
    asked.pc = machine.pc ∧
      ∃ held, program.execute machine.advance machine.pc statement =
        (asked.advance.holding held, .ask query) ∧
        ∀ answer, Replays program statement (asked.holding (held ++ [answer])) (reply answer)

end Program

/-! ## Feeding answers to a dialogue -/

namespace Dialogue

variable {α β : Type}

theorem feed_nil (dialogue : Dialogue α) : dialogue.feed [] = (dialogue, []) := by
  cases dialogue <;> rfl

/-- Feeding a dialogue with a continuation feeds the first part, and the continuation with what that
leaves. -/
theorem feed_andThen (dialogue : Dialogue α) (following : α → Dialogue β)
    (answers : List Value) :
    (dialogue.andThen following).feed answers =
      match dialogue.feed answers with
      | (done result, rest) => (following result).feed rest
      | (ask machine query reply, rest) => ((ask machine query reply).andThen following, rest) := by
  induction dialogue generalizing answers with
  | done result => rfl
  | ask machine query reply ih =>
    cases answers with
    | nil => rfl
    | cons answer answers => exact ih answer answers

/-- A dialogue that has used up its answers and asks goes on with one more. -/
theorem feed_snoc {dialogue : Dialogue α} {answers : List Value} {machine : Machine}
    {query : Query} {reply : Value → Dialogue α}
    (asks : dialogue.feed answers = (ask machine query reply, [])) (answer : Value) :
    dialogue.feed (answers ++ [answer]) = (reply answer, []) := by
  induction dialogue generalizing answers with
  | done result =>
    simp only [feed, Prod.mk.injEq, reduceCtorEq, false_and] at asks
  | ask first other further ih =>
    cases answers with
    | nil =>
      simp only [feed, Prod.mk.injEq, ask.injEq, and_true] at asks
      obtain ⟨rfl, rfl, rfl⟩ := asks
      exact feed_nil _
    | cons next answers => exact ih next asks

theorem andThen_assoc {γ : Type} (dialogue : Dialogue α) (second : α → Dialogue β)
    (third : β → Dialogue γ) :
    (dialogue.andThen second).andThen third = dialogue.andThen fun result =>
      (second result).andThen third := by
  induction dialogue with
  | done result => rfl
  | ask machine query reply ih => exact congrArg (ask machine query) (funext ih)

end Dialogue

/-- Evaluation with a list of answers is the dialogue of the expression, fed with them. -/
theorem Expr.eval_eq_feed (machine : Machine) (expr : Expr) (answers : List Value) :
    expr.eval machine.store answers =
      match (machine.evaluate expr).feed answers with
      | (.done value, rest) => (.ok value, rest)
      | (.ask _ query _, rest) => (.error query, rest) := by
  induction expr generalizing answers with
  | literal value => rfl
  | var name => rfl
  | ask query => cases answers <;> rfl
  | binary op left right ihLeft ihRight =>
    simp only [Expr.eval, Machine.evaluate, bind, Dialogue.feed_andThen, ihLeft]
    rcases (machine.evaluate left).feed answers with ⟨_ | _, rest⟩
    · simp only [ihRight]
      rcases (machine.evaluate right).feed rest with ⟨_ | _, rest⟩ <;> rfl
    · rfl

/-! ## Questions and the machine at them -/

namespace Dialogue

variable {α β : Type}

theorem asks_andThen {dialogue : Dialogue α} {following : α → Dialogue β}
    {first second : List Query} (asks : dialogue.Asks first)
    (further : ∀ result, (following result).Asks second) :
    (dialogue.andThen following).Asks (first ++ second) := by
  induction dialogue generalizing first with
  | done result =>
    obtain rfl : first = [] := asks
    exact further result
  | ask machine query reply ih =>
    obtain ⟨rest, rfl, each⟩ := asks
    exact ⟨rest ++ second, rfl, fun answer => ih answer (each answer)⟩

theorem rests_mono {dialogue : Dialogue α} {P Q : List Value → Machine → Prop}
    (rests : dialogue.Rests P)
    (weaker : ∀ answers machine, P answers machine → Q answers machine) : dialogue.Rests Q := by
  induction dialogue generalizing P Q with
  | done result => trivial
  | ask machine query reply ih =>
    obtain ⟨here, later⟩ := rests
    exact ⟨weaker [] machine here, fun answer => ih answer (later answer) fun answers =>
      weaker (answer :: answers)⟩

/-- What holds at the questions of both parts holds at the questions of the whole, where the second
part starts after the answers to the first. -/
theorem rests_andThen {dialogue : Dialogue α} {following : α → Dialogue β}
    {P : List Value → Machine → Prop} (rests : dialogue.Rests P)
    (further : ∀ answers result, dialogue.resolve answers = some result →
      (following result).Rests fun later => P (answers ++ later)) :
    (dialogue.andThen following).Rests P := by
  induction dialogue generalizing P with
  | done result => exact further [] result rfl
  | ask machine query reply ih =>
    obtain ⟨here, later⟩ := rests
    exact ⟨here, fun answer => ih answer (later answer) fun answers =>
      further (answer :: answers)⟩

/-- The number of answers that resolve a dialogue is the number of its questions. -/
theorem length_of_resolve {dialogue : Dialogue α} {queries : List Query}
    {answers : List Value} {result : α} (asks : dialogue.Asks queries)
    (resolved : dialogue.resolve answers = some result) :
    answers.length = queries.length := by
  induction dialogue generalizing queries answers with
  | done other =>
    obtain rfl : queries = [] := asks
    cases answers with
    | nil => rfl
    | cons => exact nomatch resolved
  | ask machine query reply ih =>
    obtain ⟨rest, rfl, each⟩ := asks
    cases answers with
    | nil => exact nomatch resolved
    | cons answer answers => exact congrArg (· + 1) (ih answer (each answer) resolved)

/-- The answers before a question are fewer than the questions. -/
theorem rests_of_asks {dialogue : Dialogue α} {queries : List Query}
    (asks : dialogue.Asks queries) :
    dialogue.Rests fun answers _ => answers.length < queries.length := by
  induction dialogue generalizing queries with
  | done result => trivial
  | ask machine query reply ih =>
    obtain ⟨rest, rfl, each⟩ := asks
    exact ⟨Nat.succ_pos _, fun answer => rests_mono (ih answer (each answer)) fun _ _ =>
      Nat.succ_lt_succ⟩

theorem rests_and {dialogue : Dialogue α} {P Q : List Value → Machine → Prop}
    (one : dialogue.Rests P) (other : dialogue.Rests Q) :
    dialogue.Rests fun answers machine => P answers machine ∧ Q answers machine := by
  induction dialogue generalizing P Q with
  | done result => trivial
  | ask machine query reply ih =>
    exact ⟨⟨one.1, other.1⟩, fun answer => ih answer (one.2 answer) (other.2 answer)⟩

/-- A dialogue with a last step that asks nothing is resolved by the answers to its questions. -/
theorem resolve_map {dialogue : Dialogue α} {last : α → β} {answers : List Value} {result : β}
    (resolved : (dialogue.andThen fun value => done (last value)).resolve answers = some result) :
    ∃ value, dialogue.resolve answers = some value ∧ result = last value := by
  induction dialogue generalizing answers with
  | done value =>
    cases answers with
    | nil => exact ⟨value, rfl, (Option.some.inj resolved).symm⟩
    | cons => exact nomatch resolved
  | ask machine query reply ih =>
    cases answers with
    | nil => exact nomatch resolved
    | cons answer answers => exact ih answer resolved

end Dialogue

namespace Machine

theorem asks_evaluate (machine : Machine) (expr : Expr) :
    (machine.evaluate expr).Asks expr.queries := by
  induction expr with
  | literal value => rfl
  | var name => rfl
  | ask query => exact ⟨[], rfl, fun _ => rfl⟩
  | binary op left right ihLeft ihRight =>
    rw [Expr.queries, ← List.append_nil right.queries]
    exact Dialogue.asks_andThen ihLeft fun x => Dialogue.asks_andThen ihRight fun y => rfl

theorem holding_nil {machine : Machine} (fresh : machine.answers = []) :
    machine.holding [] = machine := by
  rw [← fresh]
  rfl

theorem withValue_ok {machine : Machine} {expr : Expr} {value : Value}
    {following : Value → Machine × Outcome}
    (known : (expr.eval machine.store machine.answers).1 = .ok value) :
    machine.withValue expr following = following value := by
  simp only [withValue, Machine.value, known]

theorem withValue_error {machine : Machine} {expr : Expr} {query : Query}
    {following : Value → Machine × Outcome}
    (lacking : (expr.eval machine.store machine.answers).1 = .error query) :
    machine.withValue expr following = (machine, .ask query) := by
  simp only [withValue, Machine.value, lacking]

theorem withLabel_some {machine : Machine} {labels : Table String Nat} {label : String}
    {target : Nat} {following : Nat → Machine × Outcome}
    (known : labels.get? label = some target) :
    machine.withLabel labels label following = following target := by
  simp only [withLabel, known]

theorem withLabel_none {machine : Machine} {labels : Table String Nat} {label : String}
    {following : Nat → Machine × Outcome} (unknown : labels.get? label = none) :
    machine.withLabel labels label following =
      (machine, .fault ⟨.unknownLabel, label, true, none⟩) := by
  simp only [withLabel, unknown]

/-- Once its assignment is made, a counted loop has none to make. -/
theorem dueAssignment_settled (machine : Machine) (assignment : Assignment) (value : Value)
    (statement : Statement) :
    (machine.settled assignment value).dueAssignment statement = none := by
  cases statement with
  | pour init condition step start finish =>
    have checking : (machine.loops.insert machine.pc .checking).get? machine.pc =
        some .checking := by
      rw [Table.get?_insert, if_pos rfl]
    simp only [dueAssignment, settled, write, checking]
  | _ => rfl

/-- A counted loop that has no assignment to make goes on to its condition. -/
theorem prepareLoop_none {machine : Machine} {init step : Assignment} {condition : Expr}
    {start finish : String}
    (due : machine.dueAssignment (.pour init condition step start finish) = none)
    (held : List Value) :
    (machine.holding held).advance.prepareLoop machine.pc init step =
      .ok (machine.holding held).advance := by
  simp only [dueAssignment] at due
  split at due
  · cases due
  · cases due
  · next checking => simp only [prepareLoop, advance, jump, holding, checking]

theorem prepareLoop_ok {machine : Machine} {init step assignment : Assignment} {condition : Expr}
    {start finish : String} {held : List Value} {value : Value}
    (due : machine.dueAssignment (.pour init condition step start finish) = some assignment)
    (given : (assignment.value.eval machine.store held).1 = .ok value) :
    (machine.holding held).advance.prepareLoop machine.pc init step =
      .ok (machine.settled assignment value).advance := by
  simp only [dueAssignment] at due
  split at due
  · next entering =>
    cases due
    simp only [prepareLoop, Machine.value, advance, jump, holding, entering, given]
    rfl
  · next iterating =>
    cases due
    simp only [prepareLoop, Machine.value, advance, jump, holding, iterating, given]
    rfl
  · cases due

theorem prepareLoop_error {machine : Machine} {init step assignment : Assignment} {condition : Expr}
    {start finish : String} {held : List Value} {query : Query}
    (due : machine.dueAssignment (.pour init condition step start finish) = some assignment)
    (lacking : (assignment.value.eval machine.store held).1 = .error query) :
    (machine.holding held).advance.prepareLoop machine.pc init step = .error query := by
  simp only [dueAssignment] at due
  split at due
  · next entering =>
    cases due
    simp only [prepareLoop, Machine.value, advance, jump, holding, entering, lacking]
  · next iterating =>
    cases due
    simp only [prepareLoop, Machine.value, advance, jump, holding, iterating, lacking]
  · cases due

/-- An expression changes nothing while it asks. -/
theorem rests_evaluate (machine : Machine) (expr : Expr) :
    (machine.evaluate expr).Rests fun _ asked => asked = machine := by
  induction expr with
  | literal value => trivial
  | var name => trivial
  | ask query => exact ⟨rfl, fun _ => trivial⟩
  | binary op left right ihLeft ihRight =>
    exact Dialogue.rests_andThen ihLeft fun _ x _ =>
      Dialogue.rests_andThen ihRight fun _ y _ => trivial

/-- At each of its questions a statement holds no answer that its dialogue knows of. -/
theorem StandsAt.answers {before now : Machine} {statement : Statement} {answers : List Value}
    (fresh : before.answers = []) (stands : before.StandsAt statement answers now) :
    now.answers = [] := by
  unfold StandsAt at stands
  split at stands
  · rw [stands, fresh]
  · split at stands
    · rw [stands, fresh]
    · obtain ⟨value, _, rfl⟩ := stands
      rfl

end Machine

/-! ## Starting a statement over follows its dialogue -/

namespace Program

variable {program : Program} {statement : Statement}

/-- Following a dialogue depends on the machine only through what the statement does next. -/
theorem Replays.congr {one other : Machine} {dialogue : Dialogue (Machine × Outcome)}
    (follows : Replays program statement other dialogue) (pc : one.pc = other.pc)
    (same : program.execute one.advance one.pc statement =
      program.execute other.advance other.pc statement) :
    Replays program statement one dialogue := by
  cases dialogue with
  | done result =>
    obtain ⟨closed, spent, executed⟩ := follows
    exact ⟨closed, spent, same.trans executed⟩
  | ask asked query reply =>
    obtain ⟨here, held, executed, later⟩ := follows
    exact ⟨here.trans pc.symm, held, same.trans executed, later⟩

/-- A statement that waits for an expression follows the dialogue of that expression, and then what
it does with the value. -/
theorem replays_evaluate {machine : Machine} {expr : Expr}
    {following : Value → Dialogue (Machine × Outcome)} (fresh : machine.answers = [])
    (waits : ∀ held query, (expr.eval machine.store held).1 = .error query →
      program.execute (machine.holding held).advance machine.pc statement =
        ((machine.holding held).advance, .ask query))
    (goesOn : ∀ held value, (expr.eval machine.store held).1 = .ok value →
      Replays program statement (machine.holding held) (following value)) :
    Replays program statement machine ((machine.evaluate expr).andThen following) := by
  -- Induction on what is left of the dialogue once the answers at hand are used up.
  suffices all : ∀ (left : Dialogue Value) (held : List Value),
      (machine.evaluate expr).feed held = (left, []) →
      left.Rests (fun _ asked => asked = machine) →
      Replays program statement (machine.holding held) (left.andThen following) by
    have first := all _ [] (Dialogue.feed_nil _) (machine.rests_evaluate expr)
    rwa [Machine.holding_nil fresh] at first
  intro left
  induction left with
  | done value =>
    intro held fed _
    exact goesOn held value (by rw [Expr.eval_eq_feed machine, fed])
  | ask asked query reply ih =>
    rintro held fed ⟨rfl, later⟩
    refine ⟨rfl, held, ?_, fun answer => ?_⟩
    · exact waits held query (by rw [Expr.eval_eq_feed asked, fed])
    · exact ih answer (held ++ [answer]) (Dialogue.feed_snoc fed answer) (later answer)

/-- A statement that needs a label follows what it does with the target. -/
theorem replays_toLabel {machine stuck : Machine} {label : String}
    {following : Nat → Dialogue (Machine × Outcome)} (spent : List Value)
    (missing : program.labels.get? label = none →
      program.execute machine.advance machine.pc statement =
        (stuck.holding spent, .fault ⟨.unknownLabel, label, true, none⟩))
    (found : ∀ target, program.labels.get? label = some target →
      Replays program statement machine (following target)) :
    Replays program statement machine (program.toLabel stuck label following) := by
  unfold toLabel
  split
  · next target known => exact found target known
  · next unknown => exact ⟨rfl, spent, missing unknown⟩

/-- A statement that asks nothing is executed as its dialogue says. -/
theorem replays_done {machine result : Machine} {outcome : Outcome}
    (closed : outcome.isQuestion = false) (spent : List Value)
    (executed : program.execute machine.advance machine.pc statement =
      (result.holding spent, outcome)) :
    Replays program statement machine (.done (result, outcome)) :=
  ⟨closed, spent, executed⟩

theorem withBearing_eq (machine : Machine) (bearing : Bearing) (action : Direction → Action) :
    ∃ outcome, outcome.isQuestion = false ∧
      (machine.withBearing bearing fun direction => (machine, .act (action direction))) =
        (machine, outcome) := by
  cases bearing with
  | toward direction => exact ⟨_, rfl, rfl⟩
  | held name =>
    simp only [Machine.withBearing]
    split
    · exact ⟨_, rfl, rfl⟩
    · exact ⟨_, rfl, rfl⟩

/-- An action, which asks nothing, is executed as its dialogue says. -/
theorem replays_bearing {machine : Machine} {bearing : Bearing} (action : Direction → Action)
    (executed : program.execute machine.advance machine.pc statement =
      machine.advance.withBearing bearing fun direction =>
        (machine.advance, .act (action direction))) :
    Replays program statement machine
      (.done (machine.advance.withBearing bearing fun direction =>
        (machine.advance, .act (action direction)))) := by
  obtain ⟨outcome, closed, same⟩ := withBearing_eq machine.advance bearing action
  rw [same]
  exact replays_done closed machine.answers (executed.trans same)

theorem execute_pour_error {machine : Machine} {index : Nat} {init step : Assignment}
    {condition : Expr} {start finish : String} {target : Nat} {query : Query}
    (known : program.labels.get? finish = some target)
    (lacking : machine.prepareLoop index init step = .error query) :
    program.execute machine index (.pour init condition step start finish) =
      (machine, .ask query) := by
  simp only [execute, Machine.withLabel_some known, lacking]

theorem execute_pour_ok {machine prepared : Machine} {index : Nat} {init step : Assignment}
    {condition : Expr} {start finish : String} {target : Nat}
    (known : program.labels.get? finish = some target)
    (given : machine.prepareLoop index init step = .ok prepared) :
    program.execute machine index (.pour init condition step start finish) =
      prepared.withValue condition fun value =>
        (if value.isTrue then prepared.enterLoop index else
            prepared.leaveLoop index target, .done) := by
  simp only [execute, Machine.withLabel_some known, given]

/-- A counted loop whose assignment is done follows the dialogue of its condition. -/
theorem replays_condition {machine : Machine} {init step : Assignment} {condition : Expr}
    {start finish : String} {target : Nat} (fresh : machine.answers = [])
    (known : program.labels.get? finish = some target)
    (due : machine.dueAssignment (.pour init condition step start finish) = none) :
    Replays program (.pour init condition step start finish) machine
      ((machine.evaluate condition).andThen fun value =>
        .done (if value.isTrue then machine.advance.enterLoop machine.pc else
          machine.leaveLoop machine.pc target, .done)) := by
  refine replays_evaluate fresh (fun held query lacking => ?_) fun held value given =>
    replays_done rfl held ?_
  · rw [execute_pour_ok known (Machine.prepareLoop_none due held)]
    exact Machine.withValue_error lacking
  · refine (execute_pour_ok known (Machine.prepareLoop_none due held)).trans ?_
    refine (Machine.withValue_ok given).trans ?_
    split <;> rfl

/-- A counted loop that has an assignment to make follows the dialogue of that assignment, and then
that of its condition. -/
theorem replays_settle {machine : Machine} {init step assignment : Assignment} {condition : Expr}
    {start finish : String} {target : Nat} (fresh : machine.answers = [])
    (known : program.labels.get? finish = some target)
    (due : machine.dueAssignment (.pour init condition step start finish) = some assignment) :
    Replays program (.pour init condition step start finish) machine
      ((machine.settle assignment).andThen fun machine =>
        (machine.evaluate condition).andThen fun value =>
          .done (if value.isTrue then machine.advance.enterLoop machine.pc else
            machine.leaveLoop machine.pc target, .done)) := by
  unfold Machine.settle
  rw [show (machine.evaluate assignment.value >>= fun value =>
    pure (machine.settled assignment value)) = (machine.evaluate assignment.value).andThen
      fun value => .done (machine.settled assignment value) from rfl]
  rw [Dialogue.andThen_assoc]
  refine replays_evaluate fresh (fun held query lacking => ?_) fun held value given => ?_
  · exact execute_pour_error known (Machine.prepareLoop_error due lacking)
  · -- Once the assignment is made the statement goes on as one whose condition is due.
    have later : (machine.settled assignment value).dueAssignment
        (.pour init condition step start finish) = none :=
      Machine.dueAssignment_settled machine assignment value _
    have freshly : (machine.settled assignment value).answers = [] := rfl
    refine Replays.congr (replays_condition freshly known later) rfl ?_
    refine (execute_pour_ok known (Machine.prepareLoop_ok due given)).trans ?_
    exact (execute_pour_ok known (Machine.prepareLoop_none later [])).symm

/-- Every statement, started over with each new answer, follows its dialogue. -/
theorem replays_perform (program : Program) {machine : Machine} (fresh : machine.answers = [])
    (statement : Statement) :
    Replays program statement machine (program.perform machine statement) := by
  cases statement with
  | print expr =>
    refine replays_evaluate fresh (fun held query lacking => Machine.withValue_error lacking)
      fun held value given => ?_
    exact replays_done rfl held (Machine.withValue_ok given)
  | input name =>
    refine replays_done rfl (machine.advance.readInto name).answers ?_
    rfl
  | assign assignment =>
    refine replays_evaluate fresh (fun held query lacking => Machine.withValue_error lacking)
      fun held value given => ?_
    exact replays_done rfl held (Machine.withValue_ok given)
  | goto label =>
    refine replays_toLabel machine.answers Machine.withLabel_none fun target known => ?_
    exact replays_done rfl machine.answers (Machine.withLabel_some known)
  | si condition otherwise finish =>
    refine replays_toLabel machine.answers Machine.withLabel_none fun target known => ?_
    refine replays_evaluate fresh (fun held query lacking => ?_) fun held value given => ?_
    · exact (Machine.withLabel_some known).trans (Machine.withValue_error lacking)
    · have executed :
          program.execute (machine.holding held).advance machine.pc
            (.si condition otherwise finish) =
          if value.isTrue then ((machine.holding held).advance, .done)
          else
            match otherwise with
            | none => ((machine.holding held).jump target, .done)
            | some label =>
              (machine.holding held).advance.withLabel program.labels label fun target =>
                ((machine.holding held).jump target, .done) :=
        (Machine.withLabel_some known).trans (Machine.withValue_ok given)
      split
      · next holds => exact replays_done rfl held (executed.trans (if_pos holds))
      · next fails =>
        rw [if_neg fails] at executed
        split
        · exact replays_done rfl held executed
        · next label =>
          refine replays_toLabel held (fun unknown => ?_) fun other known => ?_
          · exact executed.trans (Machine.withLabel_none unknown)
          · exact replays_done rfl held (executed.trans (Machine.withLabel_some known))
  | tantque condition start finish =>
    refine replays_toLabel machine.answers Machine.withLabel_none fun target known => ?_
    refine replays_evaluate fresh (fun held query lacking => ?_) fun held value given =>
      replays_done rfl held ?_
    · exact (Machine.withLabel_some known).trans (Machine.withValue_error lacking)
    · refine (Machine.withLabel_some known).trans ?_
      refine (Machine.withValue_ok given).trans ?_
      split <;> rfl
  | pour init condition step start finish =>
    refine replays_toLabel machine.answers Machine.withLabel_none fun target known => ?_
    unfold Machine.prepare
    split
    · next assignment due => exact replays_settle fresh known due
    · next due => exact replays_condition fresh known due
  | move bearing => exact replays_bearing .move rfl
  | shoot bearing => exact replays_bearing .shoot rfl
  | melee direction => exact replays_done rfl machine.answers rfl
  | reload => exact replays_done rfl machine.answers rfl

/-! ## What a statement asks -/

theorem asks_toLabel {stuck : Machine} {label : String}
    {following : Nat → Dialogue (Machine × Outcome)} {queries : List Query}
    (each : ∀ target, (following target).Asks queries) :
    (program.toLabel stuck label following).Asks (if (program.labels.get? label).isSome then queries
      else []) := by
  unfold toLabel
  split
  · next target known =>
    rw [known]
    exact each target
  · next unknown =>
    rw [unknown]
    rfl

theorem asks_jump (program : Program) (machine stuck : Machine) (label : String) :
    (program.toLabel stuck label fun target => pure (machine.jump target, .done)).Asks [] := by
  unfold toLabel
  split <;> rfl

/-- A last step that asks nothing adds no question. -/
theorem asks_evaluate_andThen {machine : Machine} {expr : Expr}
    {following : Value → Dialogue (Machine × Outcome)}
    (silent : ∀ value, (following value).Asks []) :
    ((machine.evaluate expr).andThen following).Asks expr.queries := by
  rw [← List.append_nil expr.queries]
  exact Dialogue.asks_andThen (machine.asks_evaluate expr) silent

theorem asks_prepare (machine : Machine) (statement : Statement) :
    (machine.prepare statement).Asks
      ((machine.dueAssignment statement).elim [] fun assignment => assignment.value.queries) := by
  unfold Machine.prepare
  split
  · next assignment due =>
    rw [due, Option.elim_some, ← List.append_nil assignment.value.queries]
    exact Dialogue.asks_andThen (machine.asks_evaluate _) fun value => rfl
  · next due =>
    rw [due]
    rfl

/-- A statement asks its questions from left to right, whatever the answers are. -/
theorem asks_perform (program : Program) (machine : Machine) (statement : Statement) :
    (program.perform machine statement).Asks (program.questions machine statement) := by
  cases statement with
  | print expr => exact asks_evaluate_andThen fun value => rfl
  | assign assignment => exact asks_evaluate_andThen fun value => rfl
  | si condition otherwise finish =>
    refine asks_toLabel fun target => asks_evaluate_andThen fun value => ?_
    split
    · rfl
    · split
      · rfl
      · exact asks_jump ..
  | tantque condition start finish =>
    exact asks_toLabel fun target => asks_evaluate_andThen fun value => rfl
  | pour init condition step start finish =>
    refine asks_toLabel fun target => ?_
    exact Dialogue.asks_andThen (asks_prepare machine _) fun machine =>
      asks_evaluate_andThen fun value => rfl
  | goto label => exact asks_jump ..
  | input name => rfl
  | move bearing => rfl
  | shoot bearing => rfl
  | melee direction => rfl
  | reload => rfl

theorem rests_toLabel {stuck : Machine} {label : String}
    {following : Nat → Dialogue (Machine × Outcome)} {P : List Value → Machine → Prop}
    (each : ∀ target, (following target).Rests P) :
    (program.toLabel stuck label following).Rests P := by
  unfold toLabel
  split
  · next target known => exact each target
  · trivial

/-- While the assignment of a counted loop asks, nothing has changed. -/
theorem rests_settle {machine : Machine} {assignment : Assignment}
    (due : machine.dueAssignment statement = some assignment) :
    (machine.settle assignment).Rests (machine.StandsAt statement) := by
  have fewer := Dialogue.rests_of_asks (machine.asks_evaluate assignment.value)
  refine Dialogue.rests_andThen ?_ fun _ _ _ => trivial
  refine Dialogue.rests_mono (Dialogue.rests_and (machine.rests_evaluate assignment.value) fewer) ?_
  rintro answers asked ⟨same, few⟩
  simp only [Machine.StandsAt, due, if_pos few]
  exact same

/-- After the answers to its assignment, a counted loop has made it. -/
theorem standsAt_settled {machine prepared : Machine} {assignment : Assignment}
    {answers : List Value} (due : machine.dueAssignment statement = some assignment)
    (resolved : (machine.settle assignment).resolve answers = some prepared) (later : List Value) :
    machine.StandsAt statement (answers ++ later) prepared := by
  obtain ⟨value, given, rfl⟩ := Dialogue.resolve_map resolved
  have count := Dialogue.length_of_resolve (machine.asks_evaluate assignment.value) given
  have enough : ¬ (answers ++ later).length < assignment.value.queries.length := by
    rw [List.length_append]
    omega
  simp only [Machine.StandsAt, due, if_neg enough]
  refine ⟨value, ?_, rfl⟩
  rw [← count, List.take_left]
  exact given

/-- At each of its questions a statement has changed nothing, except that a counted loop has made
its assignment. -/
theorem rests_perform (program : Program) (machine : Machine) (statement : Statement) :
    (program.perform machine statement).Rests (machine.StandsAt statement) := by
  cases statement with
  | print expr =>
    exact Dialogue.rests_andThen (machine.rests_evaluate expr) fun _ value _ => trivial
  | assign assignment =>
    exact Dialogue.rests_andThen (machine.rests_evaluate _) fun _ value _ => trivial
  | si condition otherwise finish =>
    refine rests_toLabel fun target =>
      Dialogue.rests_andThen (machine.rests_evaluate condition) fun _ value _ => ?_
    split
    · trivial
    · split
      · trivial
      · exact rests_toLabel fun _ => trivial
  | tantque condition start finish =>
    exact rests_toLabel fun target =>
      Dialogue.rests_andThen (machine.rests_evaluate condition) fun _ value _ => trivial
  | pour init condition step start finish =>
    refine rests_toLabel fun target => ?_
    unfold Machine.prepare
    split
    · next assignment due =>
      refine Dialogue.rests_andThen (rests_settle due) fun answers prepared resolved => ?_
      refine Dialogue.rests_andThen ?_ fun _ _ _ => trivial
      exact Dialogue.rests_mono (prepared.rests_evaluate condition) fun later asked same =>
        same ▸ standsAt_settled due resolved later
    · next due =>
      show ((machine.evaluate condition).andThen _).Rests _
      refine Dialogue.rests_andThen ?_ fun _ _ _ => trivial
      refine Dialogue.rests_mono (machine.rests_evaluate condition) fun answers asked same => ?_
      simp only [Machine.StandsAt, due]
      exact same
  | goto label => exact rests_toLabel fun target => trivial
  | input name => trivial
  | move bearing => trivial
  | shoot bearing => trivial
  | melee direction => trivial
  | reload => trivial

end Program

end RobotScript
