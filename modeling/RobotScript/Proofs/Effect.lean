import RobotScript.Proofs.Dialogue
import RobotScript.Proofs.Reading

/-!
# What a statement can do

`Program.Effect` lists all that the execution of the current statement can come to, and
`Program.effect_execute` says that the list is complete. What holds of every statement follows from
it by cases, without a look at the kinds of statements.

* A statement that is done goes on at the next statement, or where a label that it names leads.
* An action is the action of the statement, and changes nothing.
* A statement that asks lacks an answer in the expression that is due. By `Lacks.stuck` it is stuck
  there: with the same answers it asks the same and changes nothing more.
* A fault changes nothing. It is a label of the statement that leads nowhere, or the variable of its
  direction if that was never written.
-/

namespace RobotScript

/-! ## Actions and questions -/

/-- The direction that a bearing stands for. A variable that holds something else stands for
`HAUTDROIT`. -/
def Bearing.direction? (store : Store) : Bearing → Option Direction
  | toward direction => some direction
  | held name => (store.get? name).map fun value => value.toDirection?.getD .upRight

namespace Statement

/-- Where a statement takes its direction from. -/
def bearing? : Statement → Option Bearing
  | move bearing => some bearing
  | shoot bearing => some bearing
  | _ => none

/-- The action that a statement is, when the variables are as in the store. -/
def action? (store : Store) : Statement → Option Action
  | move bearing => (bearing.direction? store).map .move
  | shoot bearing => (bearing.direction? store).map .shoot
  | melee direction => some (.melee direction)
  | reload => some .reload
  | _ => none

end Statement

/-- The expression that the current statement evaluates first. In a counted loop that is the one of
its assignment, and its condition if the assignment is made. -/
def Machine.due (machine : Machine) (statement : Statement) : Option Expr :=
  match statement with
  | .print expr => some expr
  | .assign assignment => some assignment.value
  | .si condition _ _ | .tantque condition _ _ => some condition
  | .pour _ condition _ _ _ =>
    (machine.dueAssignment statement).elim (some condition) fun assignment => some assignment.value
  | _ => none

namespace Program

/-- The expression that is due in the current statement cannot be evaluated with the answers at
hand: it stops at a question. -/
structure Lacks (program : Program) (machine : Machine) (statement : Statement) (query : Query) :
    Prop where
  asks : ∃ expr, machine.due statement = some expr ∧ machine.value expr = .error query
  ends : ∀ finish, statement.finish? = some finish →
    ∃ target, program.labels.get? finish = some target

/-- A statement that lacks an answer is stuck: it asks for it and changes nothing. -/
theorem Lacks.stuck {program : Program} {machine : Machine} {statement : Statement} {query : Query}
    (lacks : program.Lacks machine statement query) :
    program.execute machine.advance machine.pc statement = (machine.advance, .ask query) := by
  obtain ⟨⟨expr, due, lacking⟩, ends⟩ := lacks
  cases statement with
  | print value =>
    cases due
    exact Machine.withValue_error lacking
  | assign assignment =>
    cases due
    exact Machine.withValue_error lacking
  | si condition otherwise finish =>
    cases due
    obtain ⟨target, known⟩ := ends finish rfl
    exact (Machine.withLabel_some known).trans (Machine.withValue_error lacking)
  | tantque condition start finish =>
    cases due
    obtain ⟨target, known⟩ := ends finish rfl
    exact (Machine.withLabel_some known).trans (Machine.withValue_error lacking)
  | pour init condition step start finish =>
    obtain ⟨target, known⟩ := ends finish rfl
    cases assigns : machine.dueAssignment (.pour init condition step start finish) with
    | some assignment =>
      simp only [Machine.due, assigns, Option.elim_some, Option.some.injEq] at due
      subst due
      exact execute_pour_error known (Machine.prepareLoop_error assigns lacking)
    | none =>
      simp only [Machine.due, assigns, Option.elim_none, Option.some.injEq] at due
      subst due
      exact (execute_pour_ok known (Machine.prepareLoop_none assigns machine.answers)).trans
        (Machine.withValue_error lacking)
  | input | goto | move | shoot | melee | reload => cases due

/-! ## Effects -/

/-- What the execution of the current statement can come to. -/
inductive Effect (program : Program) (machine : Machine) (statement : Statement) :
    Machine × Outcome → Prop
  | done {result : Machine}
      (place : result.pc = machine.pc + 1 ∨ ∃ label ∈ statement.labels,
        program.labels.get? label = some result.pc) :
      Effect program machine statement (result, .done)
  | act {action : Action} (acts : statement.action? machine.store = some action) :
      Effect program machine statement (machine.advance, .act action)
  | ask {asked : Machine} {query : Query} (place : asked.pc = machine.pc)
      (lacks : program.Lacks asked statement query) :
      Effect program machine statement (asked.advance, .ask query)
  | unknownLabel {label : String} (named : label ∈ statement.labels)
      (unknown : program.labels.get? label = none) :
      Effect program machine statement
        (machine.advance, .fault ⟨.unknownLabel, label, true, none⟩)
  | unset {name : String} (aims : statement.bearing? = some (.held name))
      (unset : machine.store.get? name = none) :
      Effect program machine statement
        (machine.advance, .fault ⟨.invalidVariable, name, true, none⟩)

variable {program : Program} {machine : Machine} {statement : Statement}

/-- A statement that waits for a value lacks an answer, or does what it does with the value. -/
theorem Effect.withValue {expr : Expr} {following : Value → Machine × Outcome}
    (due : machine.due statement = some expr)
    (ends : ∀ finish, statement.finish? = some finish →
      ∃ target, program.labels.get? finish = some target)
    (goesOn : ∀ value, Effect program machine statement (following value)) :
    Effect program machine statement (machine.advance.withValue expr following) := by
  cases known : machine.advance.value expr with
  | ok value =>
    rw [Machine.withValue_ok known]
    exact goesOn value
  | error query =>
    rw [Machine.withValue_error known]
    exact .ask rfl ⟨⟨expr, due, known⟩, ends⟩

theorem Effect.withLabel {label : String} {following : Nat → Machine × Outcome}
    (named : label ∈ statement.labels)
    (goesOn : ∀ target, program.labels.get? label = some target →
      Effect program machine statement (following target)) :
    Effect program machine statement
      (machine.advance.withLabel program.labels label following) := by
  cases known : program.labels.get? label with
  | some target =>
    rw [Machine.withLabel_some known]
    exact goesOn target known
  | none =>
    rw [Machine.withLabel_none known]
    exact .unknownLabel named known

/-- A jump goes where its label leads. -/
theorem Effect.jump {label : String} {target : Nat} (named : label ∈ statement.labels)
    (known : program.labels.get? label = some target) :
    Effect program machine statement (machine.advance.jump target, .done) :=
  .done (.inr ⟨label, named, known⟩)

theorem Effect.withBearing {bearing : Bearing} {action : Direction → Action}
    (aims : statement.bearing? = some bearing)
    (acts : statement.action? machine.store = (bearing.direction? machine.store).map action) :
    Effect program machine statement
      (machine.advance.withBearing bearing fun direction =>
        (machine.advance, .act (action direction))) := by
  cases bearing with
  | toward direction => exact .act acts
  | held name =>
    have same : machine.advance.store.get? name = machine.store.get? name := rfl
    cases known : machine.store.get? name with
    | some value =>
      simp only [Machine.withBearing, same, known]
      refine .act (acts.trans ?_)
      simp only [Bearing.direction?, known, Option.map_some]
    | none =>
      simp only [Machine.withBearing, same, known]
      exact .unset aims known

/-- A counted loop that is ready for its condition lacks an answer in it, or enters or leaves the
loop. -/
theorem Effect.condition {prepared : Machine} {init step : Assignment} {condition : Expr}
    {start finish : String} {target : Nat} (place : prepared.pc = machine.pc)
    (known : program.labels.get? finish = some target)
    (settled : prepared.dueAssignment (.pour init condition step start finish) = none)
    (ready : machine.advance.prepareLoop machine.pc init step = .ok prepared.advance) :
    Effect program machine (.pour init condition step start finish)
      (program.execute machine.advance machine.pc (.pour init condition step start finish)) := by
  rw [execute_pour_ok known ready]
  have ends : ∀ name, some finish = some name →
      ∃ target, program.labels.get? name = some target := by
    rintro name ⟨⟩
    exact ⟨target, known⟩
  cases given : prepared.advance.value condition with
  | ok value =>
    rw [Machine.withValue_ok given]
    split
    · exact .done (.inl (congrArg (· + 1) place))
    · exact .done (.inr ⟨finish, List.mem_cons_of_mem _ List.mem_cons_self, known⟩)
  | error query =>
    rw [Machine.withValue_error given]
    refine .ask place ⟨⟨condition, ?_, given⟩, ends⟩
    simp only [Machine.due, settled, Option.elim_none]

theorem effect_pour (program : Program) (machine : Machine) (init : Assignment) (condition : Expr)
    (step : Assignment) (start finish : String) :
    Effect program machine (.pour init condition step start finish)
      (program.execute machine.advance machine.pc (.pour init condition step start finish)) := by
  cases known : program.labels.get? finish with
  | none =>
    simp only [execute, Machine.withLabel_none known]
    exact .unknownLabel (List.mem_cons_of_mem _ List.mem_cons_self) known
  | some target =>
    cases due : machine.dueAssignment (.pour init condition step start finish) with
    | none => exact .condition rfl known due (Machine.prepareLoop_none due machine.answers)
    | some assignment =>
      cases given : machine.value assignment.value with
      | ok value =>
        have place : (machine.settled assignment value).pc = machine.pc := rfl
        exact .condition place known (machine.dueAssignment_settled assignment value _)
          (Machine.prepareLoop_ok due given)
      | error query =>
        have lacking : machine.advance.prepareLoop machine.pc init step = .error query :=
          Machine.prepareLoop_error due given
        rw [execute_pour_error known lacking]
        refine .ask rfl ⟨⟨assignment.value, ?_, given⟩, ?_⟩
        · simp only [Machine.due, due, Option.elim_some]
        · rintro name ⟨⟩
          exact ⟨target, known⟩

/-- Every execution has an effect of the list. -/
theorem effect_execute (program : Program) (machine : Machine) (statement : Statement) :
    Effect program machine statement (program.execute machine.advance machine.pc statement) := by
  -- The statements that open a block look up its end before they do anything else.
  have ends : ∀ {name finish : String} {target : Nat},
      program.labels.get? finish = some target →
      some finish = some name → ∃ target, program.labels.get? name = some target := by
    rintro name finish target known ⟨⟩
    exact ⟨target, known⟩
  cases statement with
  | print expr => exact .withValue rfl nofun fun value => .done (.inl rfl)
  | input name =>
    refine .done (.inl ?_)
    unfold Machine.readInto
    split <;> rfl
  | assign assignment => exact .withValue rfl nofun fun value => .done (.inl rfl)
  | goto label =>
    exact .withLabel List.mem_cons_self fun target known => .jump List.mem_cons_self known
  | si condition otherwise finish =>
    have named : finish ∈ (Statement.si condition otherwise finish).labels :=
      List.mem_append_right _ List.mem_cons_self
    refine .withLabel named fun target known => .withValue rfl (fun _ => ends known) fun value => ?_
    cases otherwise with
    | none =>
      split
      · exact .done (.inl rfl)
      · exact .jump named known
    | some label =>
      have second : label ∈ (Statement.si condition (some label) finish).labels :=
        List.mem_cons_self
      split
      · exact .done (.inl rfl)
      · exact .withLabel second fun target known => .jump second known
  | tantque condition start finish =>
    have named : finish ∈ (Statement.tantque condition start finish).labels :=
      List.mem_cons_of_mem _ List.mem_cons_self
    refine .withLabel named fun target known => .withValue rfl (fun _ => ends known) fun value => ?_
    split
    · exact .done (.inl rfl)
    · exact .jump named known
  | pour init condition step start finish => exact effect_pour ..
  | move bearing => exact .withBearing rfl rfl
  | shoot bearing => exact .withBearing rfl rfl
  | melee direction => exact .act rfl
  | reload => exact .act rfl

end Program

end RobotScript
