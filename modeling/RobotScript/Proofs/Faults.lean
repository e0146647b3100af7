import RobotScript.Proofs.Placement
import RobotScript.Proofs.Session.Rounds

/-!
# Where faults come from

A script that was read without an error can still fail when it runs. `Blames` lists the two ways: a
`goto` of the script to a label that the script does not define, and a direction in a variable that
an assignment above writes but that was not written yet.

* `Script.accounts_of_statements`: a statement of the layout is an item of the script, or the labels
  that it names are set.
* `Grammar.Derives.supplies`: a variable that stands for a direction is written by an assignment
  above it.
* `blames_of_fault`: so a statement of a script can fail in one of the two ways only.
* `Session.explained_afterAll`: whatever a host does in the course of a run, the run has no errors,
  or it has failed with one that `Blames` explains.

`faults_explained` is what these come to.
-/

namespace RobotScript

/-! ## Labels -/

/-- A key that is written has some value. -/
theorem Table.exists_get?_foldl_insert {κ α : Type} [DecidableEq κ] {entries : List (κ × α)}
    {table : Table κ α} {key : κ}
    (written : (∃ value, table.get? key = some value) ∨ key ∈ entries.map Prod.fst) :
    ∃ value, (entries.foldl (fun table entry => table.insert entry.1 entry.2) table).get? key =
      some value := by
  induction entries generalizing table with
  | nil =>
    rcases written with known | member
    · exact known
    · cases member
  | cons entry rest ih =>
    refine ih ?_
    rw [get?_insert]
    by_cases same : key = entry.1
    · exact .inl ⟨entry.2, if_pos same⟩
    · rw [if_neg same]
      exact written.imp_right fun member => (List.mem_cons.mp member).resolve_left same

namespace Script

/-- The labels that a script defines. -/
def defined : Script → List String
  | empty => []
  | label name rest => name :: rest.defined
  | simple _ rest => rest.defined
  | si _ body rest => body.defined ++ rest.defined
  | siSinon _ body alternative rest => body.defined ++ alternative.defined ++ rest.defined
  | tantque _ body rest => body.defined ++ rest.defined
  | pour _ _ _ body rest => body.defined ++ rest.defined

/-- The simple items of a script, also those inside of blocks. -/
def items : Script → List Simple
  | empty => []
  | label _ rest => rest.items
  | simple item rest => item :: rest.items
  | si _ body rest => body.items ++ rest.items
  | siSinon _ body alternative rest => body.items ++ alternative.items ++ rest.items
  | tantque _ body rest => body.items ++ rest.items
  | pour _ _ _ body rest => body.items ++ rest.items

theorem jumps_eq (script : Script) :
    script.jumps = script.items.flatMap fun item => item.statement.labels := by
  induction script with
  | empty => rfl
  | label name rest ih => exact ih
  | simple item rest ih => simp only [jumps, items, List.flatMap_cons, ih]
  | si condition body rest ihBody ihRest =>
    simp only [jumps, items, List.flatMap_append, ihBody, ihRest]
  | siSinon condition body alternative rest ihBody ihAlternative ihRest =>
    simp only [jumps, items, List.flatMap_append, ihBody, ihAlternative, ihRest]
  | tantque condition body rest ihBody ihRest =>
    simp only [jumps, items, List.flatMap_append, ihBody, ihRest]
  | pour init condition step body rest ihBody ihRest =>
    simp only [jumps, items, List.flatMap_append, ihBody, ihRest]

/-- A label that a script defines is set. -/
theorem set_of_defined {script : Script} {name : String} (defines : name ∈ script.defined)
    (start minted : Nat) :
    name ∈ (script.labels start minted).map Prod.fst := by
  induction script generalizing start minted with
  | empty => cases defines
  | label other rest ih =>
    simp only [labels, List.map_cons, List.mem_cons]
    exact (List.mem_cons.mp defines).imp_right fun later => ih later start minted
  | simple item rest ih => exact ih defines (start + 1) minted
  | si condition body rest ihBody ihRest =>
    simp only [labels, List.map_append, List.map_cons, List.mem_append, List.mem_cons]
    rcases List.mem_append.mp defines with inside | later
    · exact .inl (ihBody inside _ _)
    · exact .inr (.inr (ihRest later _ _))
  | siSinon condition body alternative rest ihBody ihAlternative ihRest =>
    simp only [labels, List.map_append, List.map_cons, List.mem_append, List.mem_cons]
    rcases List.mem_append.mp defines with inside | later
    · rcases List.mem_append.mp inside with inside | second
      · exact .inl (.inl (ihBody inside _ _))
      · exact .inl (.inr (.inr (ihAlternative second _ _)))
    · exact .inr (.inr (ihRest later _ _))
  | tantque condition body rest ihBody ihRest =>
    simp only [labels, List.map_append, List.map_cons, List.mem_append, List.mem_cons]
    rcases List.mem_append.mp defines with inside | later
    · exact .inl (.inr (ihBody inside _ _))
    · exact .inr (.inr (ihRest later _ _))
  | pour init condition step body rest ihBody ihRest =>
    simp only [labels, List.map_append, List.map_cons, List.mem_append, List.mem_cons]
    rcases List.mem_append.mp defines with inside | later
    · exact .inl (.inr (ihBody inside _ _))
    · exact .inr (.inr (ihRest later _ _))

/-- The statement is one of the items, or it takes no direction and names labels that are among the
given ones. -/
def Accounts (items : List Simple) (names : List String) (statement : Statement) : Prop :=
  (∃ item ∈ items, statement = item.statement) ∨
    (statement.bearing? = none ∧ ∀ name ∈ statement.labels, name ∈ names)

theorem Accounts.mono {items more : List Simple} {names further : List String}
    {statement : Statement} (accounts : Accounts items names statement)
    (inItems : ∀ item ∈ items, item ∈ more) (inNames : ∀ name ∈ names, name ∈ further) :
    Accounts more further statement := by
  rcases accounts with ⟨item, member, same⟩ | ⟨noBearing, named⟩
  · exact .inl ⟨item, inItems item member, same⟩
  · exact .inr ⟨noBearing, fun name member => inNames name (named name member)⟩

/-- A statement of a script is one of its items, or the labels that it names are set. -/
theorem accounts_of_statements {script : Script} {statement : Statement} (start : Nat)
    {minted : Nat} (member : statement ∈ script.statements minted) :
    Accounts script.items ((script.labels start minted).map Prod.fst) statement := by
  induction script generalizing start minted with
  | empty => cases member
  | label name rest ih =>
    exact (ih start member).mono (fun _ inside => inside) fun _ => List.mem_cons_of_mem _
  | simple item rest ih =>
    rcases List.mem_cons.mp member with rfl | member
    · exact .inl ⟨item, List.mem_cons_self, rfl⟩
    · exact (ih (start + 1) member).mono (fun _ => List.mem_cons_of_mem _) fun _ set => set
  | si condition body rest ihBody ihRest =>
    simp only [statements, List.mem_append, List.mem_cons] at member
    rcases member with (rfl | member) | member
    · exact .inr ⟨rfl, by simp [labels, Statement.labels]⟩
    · exact (ihBody (start + 1) member).mono (by simp +contextual [items]) (by grind [labels])
    · exact (ihRest (start + 1 + body.size) member).mono (by simp +contextual [items])
        (by grind [labels])
  | siSinon condition body alternative rest ihBody ihAlternative ihRest =>
    simp only [statements, List.mem_append, List.mem_cons] at member
    rcases member with ((rfl | member) | rfl | member) | member
    · exact .inr ⟨rfl, by simp [labels, Statement.labels]⟩
    · exact (ihBody (start + 1) member).mono (by simp +contextual [items]) (by grind [labels])
    · exact .inr ⟨rfl, by simp [labels, Statement.labels]⟩
    · exact (ihAlternative (start + 1 + body.size + 1) member).mono (by simp +contextual [items])
        (by grind [labels])
    · exact (ihRest (start + 1 + body.size + 1 + alternative.size) member).mono
        (by simp +contextual [items]) (by grind [labels])
  | tantque condition body rest ihBody ihRest =>
    simp only [statements, List.mem_append, List.mem_cons] at member
    rcases member with (rfl | member) | rfl | member
    · exact .inr ⟨rfl, by simp [labels, Statement.labels]⟩
    · exact (ihBody (start + 1) member).mono (by simp +contextual [items]) (by grind [labels])
    · exact .inr ⟨rfl, by simp [labels, Statement.labels]⟩
    · exact (ihRest (start + 1 + body.size + 1) member).mono (by simp +contextual [items])
        (by grind [labels])
  | pour init condition step body rest ihBody ihRest =>
    simp only [statements, List.mem_append, List.mem_cons] at member
    rcases member with (rfl | member) | rfl | member
    · exact .inr ⟨rfl, by simp [labels, Statement.labels]⟩
    · exact (ihBody (start + 1) member).mono (by simp +contextual [items]) (by grind [labels])
    · exact .inr ⟨rfl, by simp [labels, Statement.labels]⟩
    · exact (ihRest (start + 1 + body.size + 1) member).mono (by simp +contextual [items])
        (by grind [labels])

/-- A label that leads nowhere is named by a jump of the script, and the script does not define
it. -/
theorem undefined_of_unknown {script : Script} {statement : Statement}
    (member : statement ∈ script.statements 0) {name : String} (named : name ∈ statement.labels)
    (unknown : script.program.labels.get? name = none) :
    statement = .goto name ∧ name ∈ script.jumps ∧ name ∉ script.defined := by
  have unset : name ∉ (script.labels 0 0).map Prod.fst := by
    intro set
    obtain ⟨target, known⟩ : ∃ target, script.program.labels.get? name = some target :=
      Table.exists_get?_foldl_insert (.inr set)
    cases unknown.symm.trans known
  rcases accounts_of_statements 0 member with ⟨item, inside, rfl⟩ | ⟨-, allSet⟩
  · refine ⟨?_, ?_, fun defines => unset (set_of_defined defines 0 0)⟩
    · cases item with
      | goto label => rw [List.mem_singleton.mp named, Simple.statement]
      | _ => cases named
    · rw [jumps_eq]
      exact List.mem_flatMap.mpr ⟨item, inside, named⟩
  · exact absurd (allSet name named) unset

end Script

/-! ## Directions -/

/-- The variable that an assignment statement writes. -/
def Statement.target? : Statement → Option String
  | assign assignment => some assignment.target
  | _ => none

/-- `Supplies assigned statements written`: every variable from which a statement takes its
direction is one of `assigned` or the target of an assignment above, and with the targets of all
assignments these are `written`. -/
inductive Supplies : List String → List Statement → List String → Prop
  | nil {assigned : List String} : Supplies assigned [] assigned
  | cons {assigned written : List String} {statement : Statement} {rest : List Statement}
      (aims : ∀ name, statement.bearing? = some (.held name) → name ∈ assigned)
      (later : Supplies (statement.target?.toList ++ assigned) rest written) :
      Supplies assigned (statement :: rest) written

namespace Supplies

variable {assigned inner written : List String} {statement : Statement}
  {first second : List Statement}

theorem append (one : Supplies assigned first inner) (two : Supplies inner second written) :
    Supplies assigned (first ++ second) written := by
  induction one with
  | nil => exact two
  | cons aims later ih => exact .cons aims (ih two)

/-- A statement that takes no direction and is no assignment. -/
theorem plain (noBearing : statement.bearing? = none) (noTarget : statement.target? = none)
    (later : Supplies assigned first written) : Supplies assigned (statement :: first) written := by
  refine .cons (fun name aims => ?_) ?_
  · cases noBearing.symm.trans aims
  · rw [noTarget]
    exact later

/-- The assignment that supplies a direction stands above it. -/
theorem exists_assign (supplies : Supplies assigned first written) {index : Nat} {name : String}
    (found : first[index]? = some statement) (aims : statement.bearing? = some (.held name)) :
    name ∈ assigned ∨ ∃ earlier value, earlier < index ∧
      first[earlier]? = some (.assign ⟨name, value⟩) := by
  induction supplies generalizing index with
  | nil => cases found
  | @cons assigned written head rest here later ih =>
    cases index with
    | zero =>
      cases found
      exact .inl (here name aims)
    | succ index =>
      rcases ih found with known | ⟨earlier, value, less, above⟩
      · rcases List.mem_append.mp known with target | known
        · cases head with
          | assign assignment =>
            rw [List.mem_singleton.mp target]
            exact .inr ⟨0, assignment.value, Nat.succ_pos _, rfl⟩
          | _ => cases target
        · exact .inl known
      · exact .inr ⟨earlier + 1, value, Nat.succ_lt_succ less, above⟩

end Supplies

theorem Simple.assigned_eq (item : Simple) : item.assigned = item.statement.target?.toList := by
  cases item <;> rfl

theorem Grammar.Forms.aims {assigned : List String} {tokens rest : List Token} {item : Simple}
    {name : String} (forms : Forms assigned tokens item rest)
    (held : item.statement.bearing? = some (.held name)) :
    name ∈ assigned := by
  cases forms with
  | move starts opens isWord aims closes =>
    cases held
    cases aims with
    | held known => exact known
  | shoot starts attacks named opens isWord aims closes =>
    cases held
    cases aims with
    | held known => exact known
  | assign | print | input | goto | melee | reload => cases held

/-- In a script that derives from tokens the directions are supplied. -/
theorem Grammar.Derives.supplies {assigned written : List String} {tokens rest : List Token}
    {script : Script} (derives : Derives assigned tokens script written rest) (minted : Nat) :
    Supplies assigned (script.statements minted) written := by
  induction derives generalizing minted with
  | empty => exact .nil
  | lineBreak isBreak later ih => exact ih minted
  | label isLabel later ih => exact ih minted
  | simple forms later ih =>
    refine .cons (fun name held => forms.aims held) ?_
    rw [← Simple.assigned_eq]
    exact ih minted
  | si opens inside ends later ihInside ihLater =>
    exact (Supplies.plain rfl rfl (ihInside _)).append (ihLater _)
  | siSinon opens inside divides other ends later ihInside ihOther ihLater =>
    exact ((Supplies.plain rfl rfl (ihInside _)).append (.plain rfl rfl (ihOther _))).append
      (ihLater _)
  | tantque opens inside ends later ihInside ihLater =>
    exact (Supplies.plain rfl rfl (ihInside _)).append (.plain rfl rfl (ihLater _))
  | pour opens inside ends later ihInside ihLater =>
    exact (Supplies.plain rfl rfl (ihInside _)).append (.plain rfl rfl (ihLater _))

/-! ## Faults of statements -/

/-- `Blames script store index statement diagnostic`: the diagnostic is what is wrong with the
statement at the index.

* A `goto` of the script names a label that the script does not define.
* A direction is in a variable that is not in the store, although an assignment above writes it. -/
inductive Blames (script : Script) (store : Store) (index : Nat) : Statement → Diagnostic → Prop
  | label {name : String} (jumps : name ∈ script.jumps) (undefined : name ∉ script.defined) :
      Blames script store index (.goto name) ⟨.unknownLabel, name, true, none⟩
  | direction {statement : Statement} {name : String} {earlier : Nat} {value : Expr}
      (aims : statement.bearing? = some (.held name)) (above : earlier < index)
      (assigns : script.program.statements[earlier]? = some (.assign ⟨name, value⟩))
      (unset : store.get? name = none) :
      Blames script store index statement ⟨.invalidVariable, name, true, none⟩

section Scripts

variable {source : String} {script : Script}

theorem Script.getElem?_program (script : Script) (index : Nat) :
    script.program.statements[index]? = (script.statements 0)[index]? :=
  List.getElem?_toArray

/-- The ways in which a statement of a script can fail. The fault changes nothing. -/
theorem blames_of_fault {tokens : List Token} (accepts : Grammar.Accepts tokens script)
    {machine result : Machine} {statement : Statement} {diagnostic : Diagnostic}
    (found : script.program.statements[machine.pc]? = some statement)
    (effect : script.program.Effect machine statement (result, .fault diagnostic)) :
    result = machine.advance ∧ Blames script machine.store machine.pc statement diagnostic := by
  obtain ⟨written, mark, isEnd, derives⟩ := accepts
  rw [Script.getElem?_program] at found
  cases effect with
  | unknownLabel named unknown =>
    obtain ⟨rfl, jumps, undefined⟩ :=
      Script.undefined_of_unknown (List.mem_of_getElem? found) named unknown
    exact ⟨rfl, .label jumps undefined⟩
  | unset aims unset =>
    rcases (derives.supplies 0).exists_assign found aims with
      known | ⟨earlier, value, above, assigns⟩
    · cases known
    · exact ⟨rfl,
        .direction aims above ((script.getElem?_program earlier).trans assigns) unset⟩

/-- The statement is there for a block: it opens one, or it is the jump of a `sinon` or of the end
of a loop. The labels of blocks are numerals. -/
def Statement.IsOfBlock (statement : Statement) : Prop :=
  statement.finish? ≠ none ∨ ∃ number : Nat, statement = .goto (toString number)

/-- The labels to which a script jumps are no numerals. -/
theorem not_jumps_numeral (accepts : Grammar.Accepts (Token.tokenize source) script)
    (number : Nat) :
    toString number ∉ script.jumps := by
  intro jumps
  obtain ⟨written, mark, isEnd, derives⟩ := accepts
  obtain ⟨-, token, there, isWord, same⟩ := derives.jumps _ jumps
  exact Text.not_startsWithLetter_toString number
    (same ▸ Token.startsWithLetter_of_mem there (.inl isWord))

/-- What is there for a block is not to blame. -/
theorem Blames.not_ofBlock (accepts : Grammar.Accepts (Token.tokenize source) script)
    {store : Store} {index : Nat} {statement : Statement} {diagnostic : Diagnostic}
    (blames : Blames script store index statement diagnostic) :
    ¬statement.IsOfBlock := by
  cases blames with
  | label jumps undefined =>
    rintro (opens | ⟨number, same⟩)
    · exact opens rfl
    · cases same
      exact not_jumps_numeral accepts number jumps
  | direction aims above assigns unset =>
    rintro (opens | ⟨number, rfl⟩)
    · cases statement with
      | move | shoot => exact opens rfl
      | _ => cases aims
    · cases aims

end Scripts

/-! ## Faults of runs -/

namespace Session

/-- The session has one error, which is to blame on the statement that it has executed last. -/
def Blamed (script : Script) (session : Session) : Prop :=
  ∃ index statement diagnostic, session.errors.entries = [diagnostic] ∧
    session.machine.pc = index + 1 ∧
    session.program.statements[index]? = some statement ∧
      Blames script session.machine.store index statement diagnostic

/-- The session runs the script. Either it has no error, or it has failed and the script is to
blame. -/
structure Explained (script : Script) (session : Session) : Prop where
  program : session.program = script.program
  clean : session.status ≠ .aborted → session.errors.entries = []
  blamed : session.status = .aborted → session.Blamed script

variable {source : String} {script : Script} {session : Session}

/-- A statement within the limit that fails is to blame. -/
theorem blamed_of_fault {tokens : List Token} (accepts : Grammar.Accepts tokens script)
    (program : session.program = script.program) (clean : session.errors.entries = [])
    {statement : Statement} {diagnostic : Diagnostic}
    (found : session.program.statements[session.machine.pc]? = some statement)
    (fails : (session.attempt statement).2 = .fault diagnostic) :
    ((session.attempt statement).1.abort diagnostic).2.Blamed script := by
  obtain ⟨machine, outcome, effect, same⟩ := session.attempt_effect statement
  rw [same] at fails ⊢
  cases fails
  rw [program] at effect found
  obtain ⟨rfl, blames⟩ := blames_of_fault accepts found effect
  refine ⟨session.machine.pc, statement, diagnostic, ?_, rfl, program ▸ found, blames⟩
  simp [abort, Log.add, clean]

/-- A run leaves a session that is explained. -/
theorem Explained.settle {tokens : List Token} (accepts : Grammar.Accepts tokens script)
    (explained : session.Explained script) : session.settle.Explained script := by
  by_cases running : session.status = .running
  · rw [settle_running running]
    have start : session.program = script.program ∧ session.errors.entries = [] :=
      ⟨explained.program, explained.clean (by simp [running])⟩
    obtain ⟨last, passes, halts⟩ := session.run_halts
    obtain ⟨program, clean⟩ : last.program = script.program ∧ last.errors.entries = [] :=
      passes.keeps (P := fun session => session.program = script.program ∧
        session.errors.entries = []) (fun kept _ _ _ => kept) start
    generalize session.run = ran at halts
    cases halts with
    | failed found within fails =>
      refine ⟨program, fun fine => absurd rfl fine,
        fun _ => blamed_of_fault accepts program clean found fails⟩
    | ended | exceeded | acted | asked =>
      exact ⟨program, fun _ => clean, fun aborted => by cases aborted⟩
  · rw [settle_resting running]
    exact explained

/-- What a host does in the course of a run explains nothing away. -/
theorem Explained.begun (explained : session.Explained script) {call : Call}
    (reacts : call.isReaction = true) :
    (session.begun call).Explained script := by
  have begins := session.begins_of_reaction reacts
  generalize session.begun call = begun at begins
  cases begins with
  | @asked query waiting =>
    have clean := explained.clean (by simp [waiting])
    cases query <;> exact ⟨explained.program, fun _ => clean, fun aborted => by cases aborted⟩
  | acted waiting =>
    have clean := explained.clean (by simp [waiting])
    exact ⟨explained.program, fun _ => clean, fun aborted => by cases aborted⟩
  | left => exact ⟨explained.program, explained.clean, explained.blamed⟩

/-- Whatever a host does in the course of a run of a script, the session stays explained. -/
theorem explained_afterAll (accepts : Grammar.Accepts (Token.tokenize (source ++ "\n\n")) script)
    (session : Session) {reactions : List Call}
    (reacts : ∀ call ∈ reactions, call.isReaction = true) :
    ((session.after (.interpret source)).afterAll reactions).Explained script := by
  have read := Parse.ofSource_of_accepts accepts
  have clean : (Parse.ofSource source).errors = [] := by rw [read]
  have started : (session.started source).Explained script := by
    refine ⟨?_, fun _ => clean, fun aborted => by cases aborted⟩
    rw [Session.started, read]
  have first : session.after (.interpret source) = (session.started source).settle := by
    rw [Session.after, interpret_eq_run clean]
    exact (settle_running rfl).symm
  rw [first]
  refine (afterAll_keeps (P := fun session => session.Explained script ∧
    session.status ≠ .running) ?_ ⟨started.settle accepts, settle_status _⟩).1
  intro session call kept member
  obtain ⟨explained, resting⟩ := kept
  rw [after_eq_settle resting]
  exact ⟨(explained.begun (reacts call member)).settle accepts, settle_status _⟩

/-- A script that is read without an error derives from the grammar, and what a run of it can fail
with comes from its own jumps and directions. Whatever the session was before, and whatever the host
does in the course of the run:
* when the run has failed, there is one error, and `Blames` says which statement of the script it is
  to blame on;
* no statement that is there for a block can fail, in whatever state of the machine;
* if the script defines every label to which it jumps and all its directions are keywords, the run
  does not fail. -/
theorem faults_explained {source : String} (clean : (Parse.ofSource source).errors = []) :
    ∃ script, Grammar.Accepts (Token.tokenize (source ++ "\n\n")) script ∧
      (Parse.ofSource source).program = script.program ∧
      (∀ (session : Session) (reactions : List Call),
        (∀ call ∈ reactions, call.isReaction = true) →
        ((session.after (.interpret source)).afterAll reactions).status = .aborted →
        ((session.after (.interpret source)).afterAll reactions).Blamed script) ∧
      (∀ (machine : Machine) (statement : Statement), script.program.statements[machine.pc]? =
        some statement →
        statement.IsOfBlock → ∀ diagnostic,
          (script.program.execute machine.advance machine.pc statement).2 ≠ .fault diagnostic) ∧
      ((∀ name ∈ script.jumps, name ∈ script.defined) →
        (∀ item ∈ script.items, ∀ name, item.statement.bearing? ≠ some (.held name)) →
        ∀ (session : Session) (reactions : List Call),
          (∀ call ∈ reactions, call.isReaction = true) →
          ((session.after (.interpret source)).afterAll reactions).status ≠ .aborted) := by
  obtain ⟨script, accepts⟩ := Parse.accepts_of_clean clean
  have program : (Parse.ofSource source).program = script.program :=
    congrArg Parse.program (Parse.ofSource_of_accepts accepts)
  refine ⟨script, accepts, program, ?_, ?_, ?_⟩
  · intro session reactions reacts aborted
    exact (explained_afterAll accepts session reacts).blamed aborted
  · intro machine statement found ofBlock diagnostic fails
    have effect := script.program.effect_execute machine statement
    generalize script.program.execute machine.advance machine.pc statement =
      executed at effect fails
    obtain ⟨result, outcome⟩ := executed
    cases fails
    exact (blames_of_fault accepts found effect).2.not_ofBlock accepts ofBlock
  · intro defined literal session reactions reacts aborted
    have explained := explained_afterAll accepts session reacts
    obtain ⟨index, statement, diagnostic, -, -, found, blames⟩ := explained.blamed aborted
    rw [explained.program, Script.getElem?_program] at found
    cases blames with
    | label jumps undefined => exact undefined (defined _ jumps)
    | direction aims =>
      rcases Script.accounts_of_statements 0 (List.mem_of_getElem? found) with
        ⟨item, inside, rfl⟩ | ⟨none, -⟩
      · exact literal item inside _ aims
      · cases none.symm.trans aims

/-- A script whose only assignment is never executed. -/
def skippedAssignment : String := "si 0\nd = HAUTDROIT\nfinsi\ndeplacer(d)"

/-- The move is to blame on its variable, which was not written. -/
theorem faults_explained_skippedAssignment :
    (Parse.ofSource skippedAssignment).errors = [] ∧
    ((Session.ofInput []).after (.interpret skippedAssignment)).status = .aborted ∧
    ((Session.ofInput []).after (.interpret skippedAssignment)).errors.entries =
      [⟨.invalidVariable, "d", true, none⟩] ∧
    ∃ script, Grammar.Accepts (Token.tokenize (skippedAssignment ++ "\n\n")) script ∧
      ((Session.ofInput []).after (.interpret skippedAssignment)).Blamed script := by
  have clean : (Parse.ofSource skippedAssignment).errors = [] := by decide +kernel
  have failed : ((Session.ofInput []).after (.interpret skippedAssignment)).status = .aborted ∧
      ((Session.ofInput []).after (.interpret skippedAssignment)).errors.entries =
        [⟨.invalidVariable, "d", true, none⟩] := by
    decide +kernel
  obtain ⟨script, accepts, -, blamed, -⟩ := faults_explained clean
  exact ⟨clean, failed.1, failed.2, script, accepts,
    blamed (Session.ofInput []) [] (by simp) failed.1⟩

end Session

end RobotScript
