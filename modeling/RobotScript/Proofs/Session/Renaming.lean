import RobotScript.Proofs.Renaming
import RobotScript.Proofs.Session.Rounds

/-!
# Renamed programs run alike

A program that is renamed runs as before, with its variables renamed. One lemma for each level says
that the renaming commutes with everything: `Expr.eval_rename` for an expression,
`Program.execute_rename` for a statement, `Session.run_rename` for a run, `Session.after_rename` for
a call, `Session.history_rename` for calls in a row. All that a host hears is the same, except that
a fault names a renamed variable or label.

`names_are_only_names` puts this together with the renaming of a script.
-/

namespace RobotScript

variable (names : Renaming)

/-! ## Statements -/

/-- The machine with its variables renamed. -/
def Machine.rename (machine : Machine) : Machine :=
  { machine with store := machine.store.rename names }

/-- The diagnostic with its token renamed. -/
def Diagnostic.rename (diagnostic : Diagnostic) : Diagnostic :=
  { diagnostic with token := names diagnostic.token }

/-- The outcome with the token of a fault renamed. -/
def Outcome.rename : Outcome → Outcome
  | done => done
  | act action => act action
  | ask query => ask query
  | fault diagnostic => fault (diagnostic.rename names)

/-- The result of a statement with everything renamed. -/
def Outcome.renameResult (result : Machine × Outcome) : Machine × Outcome :=
  (result.1.rename names, result.2.rename names)

theorem Store.read_rename (store : Store) (name : String) :
    Store.read (store.rename names) (names name) = store.read name := by
  rw [Store.read, Table.get?_rename, Store.read]

theorem Expr.eval_rename (expr : Expr) (store : Store) (answers : List Value) :
    (expr.rename names).eval (store.rename names) answers = expr.eval store answers := by
  induction expr generalizing answers with
  | literal value => rfl
  | var name => simp only [rename, eval, Store.read_rename]
  | ask query => cases answers <;> rfl
  | binary op left right ihLeft ihRight => simp only [rename, eval, ihLeft, ihRight]

namespace Machine

variable {names} {machine : Machine}

theorem write_rename (machine : Machine) (name : String) (value : Value) :
    (machine.rename names).write (names name) value = (machine.write name value).rename names := by
  simp only [write, rename, Table.insert_rename]

theorem readInto_rename (machine : Machine) (name : String) :
    (machine.rename names).readInto (names name) = (machine.readInto name).rename names := by
  unfold readInto
  have console : (machine.rename names).console = machine.console := rfl
  rw [console]
  rcases machine.console.readLine with ⟨_ | line, console⟩
  · rfl
  · exact write_rename { machine with console } name _

theorem value_rename (machine : Machine) (expr : Expr) :
    (machine.rename names).value (expr.rename names) = machine.value expr :=
  congrArg Prod.fst (expr.eval_rename names machine.store machine.answers)

theorem withValue_rename {expr : Expr} {following later : Value → Machine × Outcome}
    (same : ∀ value, later value = Outcome.renameResult names (following value)) :
    (machine.rename names).withValue (expr.rename names) later =
      Outcome.renameResult names (machine.withValue expr following) := by
  have read : (machine.rename names).value (expr.rename names) = machine.value expr :=
    machine.value_rename expr
  cases known : machine.value expr with
  | ok value => rw [withValue_ok known, withValue_ok (read.trans known), same]
  | error query =>
    rw [withValue_error known, withValue_error (read.trans known)]
    rfl

theorem withLabel_rename {labels : Table String Nat} {label : String}
    {following later : Nat → Machine × Outcome}
    (same : ∀ target, later target = Outcome.renameResult names (following target)) :
    (machine.rename names).withLabel (labels.rename names) (names label) later =
      Outcome.renameResult names (machine.withLabel labels label following) := by
  have read := Table.get?_rename names labels label
  cases known : labels.get? label with
  | some target => rw [withLabel_some known, withLabel_some (read.trans known), same]
  | none =>
    rw [withLabel_none known, withLabel_none (read.trans known)]
    rfl

theorem withBearing_rename {bearing : Bearing} {following later : Direction → Machine × Outcome}
    (same : ∀ direction, later direction = Outcome.renameResult names (following direction)) :
    (machine.rename names).withBearing (bearing.rename names) later =
      Outcome.renameResult names (machine.withBearing bearing following) := by
  cases bearing with
  | toward direction => exact same direction
  | held name =>
    have read : (machine.rename names).store.get? (names name) = machine.store.get? name :=
      Table.get?_rename names machine.store name
    cases known : machine.store.get? name with
    | some value => simp only [withBearing, Bearing.rename, read, known, same]
    | none =>
      simp only [withBearing, Bearing.rename, read, known]
      rfl

theorem prepareLoop_rename (index : Nat) (init step : Assignment) :
    (machine.rename names).prepareLoop index (init.rename names) (step.rename names) =
      (machine.prepareLoop index init step).map (·.rename names) := by
  have settled : ∀ assignment :
      Assignment, (machine.rename names).value (assignment.rename names).value =
      machine.value assignment.value := fun assignment => machine.value_rename assignment.value
  have phases : (machine.rename names).loops = machine.loops := rfl
  have written : ∀ (assignment : Assignment) (value : Value),
      (machine.rename names).write (assignment.rename names).target value =
        (machine.write assignment.target value).rename names :=
      fun assignment => machine.write_rename assignment.target
  simp only [prepareLoop, phases, settled, written]
  cases machine.loops.get? index with
  | none => cases machine.value init.value <;> rfl
  | some phase =>
    cases phase with
    | iterating => cases machine.value step.value <;> rfl
    | checking => rfl

end Machine

/-- A renamed statement does what the statement does. -/
theorem Program.execute_rename (program : Program) (machine : Machine) (index : Nat)
    (statement : Statement) :
    (program.rename names).execute (machine.rename names) index (statement.rename names) =
      Outcome.renameResult names (program.execute machine index statement) := by
  cases statement with
  | print expr => exact Machine.withValue_rename fun value => rfl
  | input name => exact congrArg (·, Outcome.done) (machine.readInto_rename name)
  | assign assignment =>
    exact Machine.withValue_rename fun value =>
      congrArg (·, Outcome.done) (machine.write_rename assignment.target value)
  | goto label => exact Machine.withLabel_rename fun target => rfl
  | si condition otherwise finish =>
    refine Machine.withLabel_rename fun target => Machine.withValue_rename fun value => ?_
    cases otherwise with
    | none => split <;> rfl
    | some label =>
      split
      · rfl
      · exact Machine.withLabel_rename fun target => rfl
  | tantque condition start finish =>
    refine Machine.withLabel_rename fun target => Machine.withValue_rename fun value => ?_
    split <;> rfl
  | pour init condition step start finish =>
    refine Machine.withLabel_rename fun target => ?_
    rw [Machine.prepareLoop_rename]
    cases machine.prepareLoop index init step with
    | error query => rfl
    | ok prepared =>
      refine Machine.withValue_rename fun value => ?_
      split <;> rfl
  | move bearing => exact Machine.withBearing_rename fun direction => rfl
  | shoot bearing => exact Machine.withBearing_rename fun direction => rfl
  | melee direction => rfl
  | reload => rfl

/-! ## Runs and calls -/

/-- The message with the tokens of faults renamed. -/
def Message.rename : Message → Message
  | suspended suspension => suspended suspension
  | terminated => terminated
  | limitExceeded => limitExceeded
  | failed errors => failed (errors.map (Diagnostic.rename names))

namespace Session

/-- The session with its program, its variables and the tokens of its faults renamed. -/
def rename (session : Session) : Session :=
  { session with
    program := session.program.rename names
    machine := session.machine.rename names
    errors := ⟨session.errors.entries.map (Diagnostic.rename names)⟩ }

/-- A reply and a session, renamed. -/
def renameEntry (entry : Option Message × Session) : Option Message × Session :=
  (entry.1.map (Message.rename names), entry.2.rename names)

variable {names} {session : Session} {statement : Statement}

theorem found_rename (found : session.program.statements[session.machine.pc]? = some statement) :
    (session.rename names).program.statements[(session.rename names).machine.pc]? =
      some (statement.rename names) := by
  show (session.program.statements.map (Statement.rename names))[session.machine.pc]? = _
  rw [Array.getElem?_map, found, Option.map_some]

theorem attempt_rename (session : Session) (names : Renaming) (statement : Statement) :
    (session.rename names).attempt (statement.rename names) =
      ((session.attempt statement).1.rename names, (session.attempt statement).2.rename names) := by
  have same := session.program.execute_rename names (session.machine.jump (session.machine.pc + 1))
    session.machine.pc statement
  cases executed : session.program.execute (session.machine.jump (session.machine.pc + 1))
    session.machine.pc statement with
  | mk machine outcome =>
    rw [executed] at same
    rw [attempt_eq executed, attempt_eq same]
    cases outcome <;> rfl

/-- One round of a renamed run. -/
theorem round_rename (found : session.program.statements[session.machine.pc]? = some statement)
    (within : ¬(session.attempt statement).1.budget.exceeded = true) :
    (session.rename names).run =
      (session.rename names).conclude ((session.attempt statement).1.rename names)
        ((session.attempt statement).2.rename names) := by
  have same := session.attempt_rename names statement
  have opened : (session.rename names).run = _ :=
    run_eq (found_rename found) (by rw [same]; exact Bool.eq_false_iff.mpr within)
  rw [opened, same]

theorem abort_rename (session : Session) (diagnostic : Diagnostic) :
    (session.rename names).abort (diagnostic.rename names) =
      ((session.abort diagnostic).1.rename names, (session.abort diagnostic).2.rename names) := by
  simp [abort, rename, Log.add, Message.rename]

/-- A renamed program says and does what the program does. -/
theorem run_rename (session : Session) (names : Renaming) :
    (session.rename names).run = (session.run.1.rename names, session.run.2.rename names) := by
  fun_induction run session with
  | case1 session ended =>
    have none :
        (session.rename names).program.statements[(session.rename names).machine.pc]? = none := by
      show (session.program.statements.map (Statement.rename names))[session.machine.pc]? = _
      rw [Array.getElem?_map, ended, Option.map_none]
    rw [run_ended none]
    rfl
  | case2 session statement found attempted past =>
    have same := session.attempt_rename names statement
    have opened : (session.rename names).run = _ :=
      run_exceeded (found_rename found) (by rw [same]; exact past)
    rw [opened, same]
    rfl
  | case3 session statement found attempted within _ outcome ih =>
    rw [round_rename found within, outcome]
    exact ih
  | case4 session statement found attempted within _ action outcome =>
    rw [round_rename found within, outcome]
    rfl
  | case5 session statement found attempted within _ query outcome =>
    rw [round_rename found within, outcome]
    rfl
  | case6 session statement found attempted within _ diagnostic outcome =>
    rw [round_rename found within, outcome]
    exact abort_rename _ diagnostic

theorem accept_rename (session : Session) (query : Query) :
    (session.rename names).accept query = (session.accept query).rename names := by
  cases query <;> rfl

/-- A call on a renamed session does what the call does, unless it starts another script. -/
theorem after_rename (session : Session) (names : Renaming) {call : Call}
    (goesOn : ∀ source, call ≠ .interpret source) :
    (session.rename names).reply call = (session.reply call).map (Message.rename names) ∧
      (session.rename names).after call = (session.after call).rename names := by
  -- a call that runs nothing changes no name, and one that runs is a run from the same session
  have ofRun : ∀ started :
      Session, some (started.rename names).run.1 = some (started.run.1.rename names) ∧
      (started.rename names).run.2 = started.run.2.rename names := by
    intro started
    rw [run_rename]
    exact ⟨rfl, rfl⟩
  cases call with
  | interpret source => exact absurd rfl (goesOn source)
  | resume =>
    have status : (session.rename names).status = session.status := rfl
    simp only [reply, after, Option.map_some]
    cases stands : session.status with
    | suspended suspension =>
      cases suspension with
      | act action =>
        rw [resume_act stands, resume_act (status.trans stands)]
        exact ofRun { session with status := .running }
      | ask query =>
        rw [resume_ask stands, resume_ask (status.trans stands), accept_rename]
        exact ofRun (session.accept query)
    | running =>
      simp only [resume, status, stands]
      exact ofRun session
    | terminated | limitExceeded | aborted => simp [resume, rename, stands, Message.rename]
  | answerEnemy direction => exact ⟨rfl, rfl⟩
  | answerAlive answer => exact ⟨rfl, rfl⟩
  | feed line => exact ⟨rfl, rfl⟩
  | configure limit => exact ⟨rfl, rfl⟩

/-- Calls in a row on a renamed session are answered alike. -/
theorem history_rename (session : Session) (names : Renaming) {calls : List Call}
    (goOn : ∀ call ∈ calls, ∀ source, call ≠ .interpret source) :
    (session.rename names).history calls = (session.history calls).map (renameEntry names) := by
  induction calls generalizing session with
  | nil => rfl
  | cons call calls ih =>
    obtain ⟨replied, left⟩ := session.after_rename names (goOn call List.mem_cons_self)
    show (_, _) :: _ = (_, _) :: _
    rw [replied, left, ih _ fun call member => goOn call (List.mem_cons_of_mem _ member)]

/-! ## Scripts -/

/-- A session that is about to run a program from its first statement, with lines to read. -/
def ofProgram (program : Program) (lines : List String) (limit : Nat) : Session :=
  { program, machine := { console := .ofInput lines }, budget := .ofLimit limit,
    status := .running }

/-- To interpret a script without an error is to run its program. -/
theorem interpret_eq_ofProgram {source : String} {program : Program}
    (parsed : Parse.ofSource source = ⟨program, []⟩) (lines : List String) (limit : Nat) :
    (fresh lines limit).interpret source = (ofProgram program lines limit).run := by
  have clean : (Parse.ofSource source).errors = [] := by rw [parsed]
  rw [interpret_eq_run clean, started, parsed]
  rfl

/-- Every word that is no keyword is only a name. If the tokens of a text are read without an error
as a program, then for every renaming:
* The renamed tokens are read without an error, as the renamed program. The labels of its blocks are
  the same numerals and lead to the same places.
* Both programs run alike, whatever the limit, the lines to read and the calls of the host: after
  every call the message and the session are the renamed ones. So they have printed the same, stand
  at the same place and have the same count, and they hold the same values in the renamed
  variables. -/
theorem names_are_only_names (names : Renaming) {text : String} {program : Program}
    (parsed : Parse.ofTokens (Token.tokenize text) = ⟨program, []⟩) :
    Parse.ofTokens ((Token.tokenize text).map (Token.rename names)) =
      ⟨program.rename names, []⟩ ∧
    (∀ statement ∈ program.statements, (statement.rename names).blockLabels =
      statement.blockLabels) ∧
    (∀ number : Nat, names (toString number) = toString number ∧
      (program.rename names).labels.get? (toString number) =
        program.labels.get? (toString number)) ∧
    ∀ (lines : List String) (limit : Nat),
      (∀ source, text = source ++ "\n\n" →
        (fresh lines limit).interpret source = (ofProgram program lines limit).run) ∧
      (ofProgram (program.rename names) lines limit).run =
        ((ofProgram program lines limit).run.1.rename names,
          (ofProgram program lines limit).run.2.rename names) ∧
      ∀ calls, (∀ call ∈ calls, ∀ source, call ≠ .interpret source) →
        (ofProgram (program.rename names) lines limit).run.2.history calls =
          ((ofProgram program lines limit).run.2.history calls).map (renameEntry names) := by
  obtain ⟨renamed, blocks⟩ := Parse.ofTokens_rename names parsed
  refine ⟨renamed, blocks, fun number => ⟨names.apply_numeral number, ?_⟩,
    fun lines limit => ⟨?_, ?_, ?_⟩⟩
  · have read := Table.get?_rename names program.labels (toString number)
    rwa [names.apply_numeral] at read
  · rintro source rfl
    exact interpret_eq_ofProgram parsed lines limit
  · exact (ofProgram program lines limit).run_rename names
  · intro calls goOn
    have ran : (ofProgram (program.rename names) lines limit).run = _ :=
      (ofProgram program lines limit).run_rename names
    rw [ran]
    exact history_rename _ names goOn

/-- A variable and a label that can be exchanged. The last jump leads nowhere. -/
def exchangeable : String :=
  "y:\nx = x + 1\nsi x < 3\ngoto y\nfinsi\ngoto x\n\n"

/-- With its two names exchanged the script counts in the other variable, jumps to the other label,
and fails at the other name. -/
theorem names_are_only_names_exchangeable :
    ∃ program, Parse.ofTokens (Token.tokenize exchangeable) = ⟨program, []⟩ ∧
      ∃ names : Renaming, names "x" = "y" ∧ names "y" = "x" ∧
        Parse.ofTokens ((Token.tokenize exchangeable).map (Token.rename names)) =
          ⟨program.rename names, []⟩ ∧
        (ofProgram (program.rename names) [] 500).run.1 =
          .failed [⟨.unknownLabel, "y", true, none⟩] ∧
        (ofProgram (program.rename names) [] 500).run.2.machine.store.get? "y" =
          some (.number 3.0) := by
  have x : isName "x" = true := by decide +kernel
  have y : isName "y" = true := by decide +kernel
  obtain ⟨clean, fails, counts⟩ :
      (Parse.ofTokens (Token.tokenize exchangeable)).errors = [] ∧
      (ofProgram (Parse.ofTokens (Token.tokenize exchangeable)).program [] 500).run.1 =
        .failed [⟨.unknownLabel, "x", true, none⟩] ∧
      (ofProgram (Parse.ofTokens (Token.tokenize exchangeable)).program []
        500).run.2.machine.store.get? "x" =
        some (.number 3.0) := by decide +kernel
  have parsed : Parse.ofTokens (Token.tokenize exchangeable) =
      ⟨(Parse.ofTokens (Token.tokenize exchangeable)).program, []⟩ :=
    congrArg (Parse.mk _) clean
  obtain ⟨renamed, -, -, runs⟩ := names_are_only_names (.swap x y) parsed
  obtain ⟨-, ran, -⟩ := runs [] 500
  refine ⟨_, parsed, .swap x y, rfl, rfl, renamed, ?_, ?_⟩
  · rw [ran, fails]
    rfl
  · rw [ran]
    exact (Table.get?_rename (.swap x y) _ "x").trans counts

end Session

end RobotScript
