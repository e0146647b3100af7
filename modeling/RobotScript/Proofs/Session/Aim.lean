import RobotScript.Proofs.Occurrence
import RobotScript.Proofs.Session.Loops

/-!
# Where a keyword aims

The direction of a move or a shot is written as a word. If that word is the keyword of a direction,
it stands for the direction, except after an assignment statement that wrote a variable of this
name: from there on in the text, it stands for what the variable holds. In an expression a keyword
always stands for its direction.

* `Grammar.Directs` is a move or a shot in the text, with its word. `exists_aims` says what a
  keyword aims at.
* `Performs` is a statement that a call executes in the course of a run, and `Performs.reply` says
  what the host is then told.
* `run_aimed_iff`: which action is reported.

`keyword_directs` says when a keyword is reported as its own direction. That it is not always so is
`keyword_misdirects`.
-/

namespace RobotScript

/-- The actions that are written with a direction or the name of a variable. -/
inductive Aimed where
  | move
  | shoot

namespace Aimed

/-- The statement for the action. -/
def statement : Aimed → Bearing → Statement
  | move => .move
  | shoot => .shoot

/-- What the robot then does. -/
def action : Aimed → Direction → Action
  | move => .move
  | shoot => .shoot

variable {aimed : Aimed} {bearing : Bearing}

theorem action_inj {one other : Direction} :
    aimed.action one = aimed.action other ↔ one = other := by
  cases aimed <;> simp [action]

theorem isPlain_statement : (aimed.statement bearing).isPlain = true := by
  cases aimed <;> rfl

end Aimed

namespace Grammar

/-! ## Words for directions -/

/-- `Directs word aimed tokens rest`: the action is written at the start of the tokens, with the
word for its direction. -/
inductive Directs (word : String) : Aimed → List Token → List Token → Prop
  | move {tokens rest : List Token} {opening name closing : Token}
      (starts : Starts .deplacer tokens (opening :: name :: closing :: rest))
      (opens : opening.kind = .leftParen) (isWord : name.kind = .word) (named : name.text = word)
      (closes : closing.kind = .rightParen) :
      Directs word .move tokens rest
  | shoot {tokens rest : List Token} {attack opening name closing : Token}
      (starts : Starts .attaquer tokens (attack :: opening :: name :: closing :: rest))
      (attacks : attack.kind = .word) (fires : attack.text = Keyword.tirer.name)
      (opens : opening.kind = .leftParen) (isWord : name.kind = .word) (named : name.text = word)
      (closes : closing.kind = .rightParen) : Directs word .shoot tokens rest

variable {word : String} {aimed : Aimed} {bearing : Bearing} {assigned : List String}
  {tokens rest : List Token}

/-- An action in the text is a statement, with what its word aims at. -/
theorem Directs.stands (directs : Directs word aimed tokens rest)
    (aims : Aims assigned word bearing) :
    Stands assigned tokens (.statement (aimed.statement bearing)) rest := by
  cases directs with
  | move starts opens isWord named closes =>
    exact .simple (.move starts opens isWord (named ▸ aims) closes)
  | shoot starts attacks fires opens isWord named closes =>
    exact .simple (.shoot starts attacks fires opens isWord (named ▸ aims) closes)

theorem exists_directs
    (stands : Stands assigned tokens (.statement (aimed.statement bearing)) rest) :
    ∃ word, Directs word aimed tokens rest ∧ Aims assigned word bearing := by
  generalize same : aimed.statement bearing = statement at stands
  cases stands with
  | simple forms =>
    cases forms with
    | move starts opens isWord aims closes =>
      cases aimed with
      | move =>
        cases same
        exact ⟨_, .move starts opens isWord rfl closes, aims⟩
      | shoot => cases same
    | shoot starts attacks fires opens isWord aims closes =>
      cases aimed with
      | move => cases same
      | shoot =>
        cases same
        exact ⟨_, .shoot starts attacks fires opens isWord rfl closes, aims⟩
    | assign | print | input | goto | melee | reload => cases aimed <;> cases same

/-- A keyword aims at its direction, unless a variable of this name was written before. -/
theorem exists_aims (assigned : List String) (direction : Direction) :
    ∃ bearing, Aims assigned direction.keyword bearing ∧
      (direction.keyword ∉ assigned → bearing = .toward direction) ∧
      (direction.keyword ∈ assigned → bearing = .held direction.keyword) := by
  by_cases known : direction.keyword ∈ assigned
  · exact ⟨_, .held known, fun unknown => absurd known unknown, fun _ => rfl⟩
  · exact ⟨_, .toward known direction.ofKeyword?_keyword, fun _ => rfl,
      fun known' => absurd known' known⟩

theorem keyword_ne_questionWord (direction : Direction) (query : Query) :
    direction.keyword ≠ questionWord query := by
  cases direction <;> cases query <;> decide

/-- As a part of an expression a keyword is its direction, whatever was written before. -/
theorem reads_keyword_iff {direction : Direction} {token : Token} {expr : Expr}
    (isWord : token.kind = .word) (named : token.text = direction.keyword) :
    Reads .atom (token :: tokens) expr rest ↔ expr = .literal (.direction direction) ∧
      rest = tokens := by
  have known : Direction.ofKeyword? token.text = some direction :=
    named ▸ direction.ofKeyword?_keyword
  constructor
  · intro reads
    cases reads with
    | direction _ other => exact ⟨by rw [Option.some.inj (known.symm.trans other)], rfl⟩
    | question _ asks => exact absurd (named.symm.trans asks) (keyword_ne_questionWord direction _)
    | var _ noDirection => cases noDirection.symm.trans known
    | number isNumber => cases isNumber.symm.trans isWord
    | text isText => cases isText.symm.trans isWord
    | parentheses opens => cases opens.symm.trans isWord
  · rintro ⟨rfl, rfl⟩
    exact .direction isWord known

end Grammar

namespace Session

/-! ## Statements that a call executes -/

/-- Whatever was executed before it, a run goes on from each statement. -/
theorem run_of_mem_trail {session now : Session} (member : now ∈ session.trail) :
    session.run = now.run := by
  fun_induction trail session with
  | case1 session ended => cases member
  | case2 session statement found past => rw [List.mem_singleton.mp member]
  | case3 session statement found within _ done ih =>
    rcases List.mem_cons.mp member with rfl | later
    · rfl
    · rw [run_eq found (Bool.eq_false_iff.mpr within), done]
      exact ih later
  | case4 | case5 | case6 => rw [List.mem_singleton.mp member]

theorem executedAll_append (session : Session) (calls more : List Call) :
    session.executedAll (calls ++ more) =
      session.executedAll calls ++ (session.afterAll calls).executedAll more := by
  induction calls generalizing session with
  | nil => rfl
  | cons call calls ih =>
    rw [List.cons_append, executedAll, executedAll, ih, List.append_assoc, afterAll_cons]

/-- A call that sets a waiting session running is answered with a message. -/
theorem spoken_of_running {session : Session} {call : Call} (resting : session.status ≠ .running)
    (running : (session.begun call).status = .running) : call.isSpoken = true := by
  cases call with
  | interpret | resume => rfl
  | answerEnemy | answerAlive | feed => exact absurd running resting
  | configure => cases running

/-- A host starts a script and goes on with its run. The last call executes a statement, and `now`
is the session before that. -/
structure Performs (session : Session) (source : String) (before : List Call) (call : Call)
    (now : Session) : Prop where
  course : ∃ reactions, before ++ [call] = .interpret source :: reactions ∧
    ∀ reaction ∈ reactions, reaction.isReaction = true
  executes : now ∈ (session.afterAll before).executed call

namespace Performs

variable {session now : Session} {source : String} {before : List Call} {call : Call}

/-- What is executed is the program of the script. -/
theorem program (performs : Performs session source before call now) :
    now.program = (Parse.ofSource source).program := by
  obtain ⟨⟨reactions, calls, reacts⟩, executes⟩ := performs
  have member : now ∈ session.executedAll (.interpret source :: reactions) := by
    rw [← calls, executedAll_append, executedAll, executedAll, List.append_nil]
    exact List.mem_append_right _ executes
  obtain ⟨earlier, later, divided⟩ := List.append_of_mem member
  exact (covers_executedAll session source reacts earlier now later divided).1.tracked.same

/-- The host is told what the run comes to from there. -/
theorem reply (performs : Performs session source before call now) :
    (session.afterAll before).reply call = some now.run.1 := by
  obtain ⟨⟨reactions, calls, reacts⟩, executes⟩ := performs
  obtain ⟨settles, spoken⟩ :
      (session.afterAll before).after call = ((session.afterAll before).begun call).settle ∧
      (((session.afterAll before).begun call).status = .running → call.isSpoken = true) := by
    -- The first call starts the script, and every other one finds a session that is not running.
    cases before with
    | nil =>
      cases calls
      exact ⟨session.interpret_eq_settle source, fun _ => rfl⟩
    | cons first before =>
      cases calls
      have rests := afterAll_interpret session source fun call member =>
        reacts call (List.mem_append_left _ member)
      exact ⟨after_eq_settle rests.1.resting call, spoken_of_running rests.1.resting⟩
  unfold executed at executes
  split at executes
  · next running =>
    rw [reply_eq, if_pos (spoken running), settles, settle_running running, ← run_standing,
      run_of_mem_trail executes]
  · cases executes

end Performs

/-! ## Actions -/

variable {session now : Session} {aimed : Aimed} {bearing : Bearing} {direction : Direction}

theorem attempt_aimed (known : bearing.direction? session.machine.store = some direction) :
    (session.attempt (aimed.statement bearing)).2 = .act (aimed.action direction) := by
  cases bearing with
  | toward =>
    cases known
    cases aimed <;> rfl
  | held name =>
    obtain ⟨value, held, rfl⟩ := Option.map_eq_some_iff.mp known
    have same : (session.machine.jump (session.machine.pc + 1)).store.get? name = some value := held
    cases aimed <;>
      simp only [attempt, Aimed.statement, Program.execute, Machine.withBearing, same] <;> rfl

theorem attempt_unset (aimed : Aimed) (unset : bearing.direction? session.machine.store = none) :
    ∃ diagnostic, (session.attempt (aimed.statement bearing)).2 = .fault diagnostic := by
  cases bearing with
  | toward => cases unset
  | held name =>
    have same : (session.machine.jump (session.machine.pc + 1)).store.get? name = none :=
      Option.map_eq_none_iff.mp unset
    cases aimed <;> simp only [attempt, Aimed.statement, Program.execute, Machine.withBearing,
      same] <;> exact ⟨_, rfl⟩

theorem run_of_limit {statement : Statement}
    (found : now.program.statements[now.machine.pc]? = some statement)
    (past : now.budget.limit ≤ now.budget.used) : now.run.1 = .limitExceeded := by
  have exceeded : (now.attempt statement).1.budget.exceeded = true := by
    refine (Bool.not_eq_false _).mp fun within => ?_
    exact absurd (attempt_within_iff.mp within) (Nat.not_lt.mpr past)
  rw [run_exceeded found exceeded]

/-- An action is reported with the direction that it is aimed at, if it is within the limit. -/
theorem run_aimed_iff
    (found : now.program.statements[now.machine.pc]? = some (aimed.statement bearing)) :
    now.run.1 = .suspended (.act (aimed.action direction)) ↔
      now.budget.used < now.budget.limit ∧
      bearing.direction? now.machine.store = some direction := by
  rcases Nat.lt_or_ge now.budget.used now.budget.limit with within | past
  · rw [run_eq found (attempt_within_iff.mpr within)]
    cases known : bearing.direction? now.machine.store with
    | some told =>
      rw [attempt_aimed known]
      simp [conclude, suspend, within, Aimed.action_inj]
    | none =>
      obtain ⟨diagnostic, fails⟩ := attempt_unset aimed known
      rw [fails]
      simp [conclude, abort]
  · rw [run_of_limit found past]
    simp [Nat.not_lt.mpr past]

/-- A direction that was stored in a variable just before is reported. -/
theorem run_stored {name : String}
    (stores : now.program.statements[now.machine.pc]? =
      some (.assign ⟨name, .literal (.direction direction)⟩))
    (found : now.program.statements[now.machine.pc + 1]? = some (aimed.statement (.held name)))
    (within : now.budget.used + 1 < now.budget.limit) :
    now.run.1 = .suspended (.act (aimed.action direction)) := by
  have done : (now.attempt (.assign ⟨name, .literal (.direction direction)⟩)).2 = .done := rfl
  rw [run_eq stores (attempt_within_iff.mpr (Nat.lt_of_succ_lt within)), done]
  refine (run_aimed_iff found).mpr ⟨within, ?_⟩
  show ((now.machine.store.insert name (.direction direction)).get? name).map _ = _
  rw [Table.get?_insert, if_pos rfl]
  rfl

open Grammar

/-- A move or a shot that is written with the keyword of a direction, in a script without an error:
* Each time it is executed within the limit, its own direction is reported, if no assignment
  statement before it in the text writes a variable of this name. If one does, then the direction is
  reported that the variable holds, as `Bearing.direction?` has it, and no other. Past the limit
  that is all that is told.
* If the direction is stored in a variable and the variable is written in its place, the direction
  is reported.
* As a part of an expression the keyword is its direction, and nothing else.
* Every move and every shot that is executed is written with a word. -/
theorem keyword_directs {session now : Session} {source : String}
    (clean : (Parse.ofSource source).errors = []) {before : List Call} {call : Call}
    (performs : Performs session source before call now) (aimed : Aimed) (direction : Direction) :
    (∀ assigned tokens rest, Occurs source now.machine.pc assigned tokens →
      Directs direction.keyword aimed tokens rest →
      (direction.keyword ∉ assigned → now.budget.used < now.budget.limit →
        (session.afterAll before).reply call =
          some (.suspended (.act (aimed.action direction)))) ∧
      (direction.keyword ∈ assigned → ∀ told,
        (session.afterAll before).reply call = some (.suspended (.act (aimed.action told))) ↔
          now.budget.used < now.budget.limit ∧
            (Bearing.held direction.keyword).direction? now.machine.store = some told) ∧
      (now.budget.limit ≤ now.budget.used →
        (session.afterAll before).reply call = some .limitExceeded)) ∧
    (∀ name assigned tokens middle following rest,
      Occurs source now.machine.pc assigned tokens →
      Sets tokens ⟨name, .literal (.direction direction)⟩ middle →
      Lists (name :: assigned) middle [] (name :: assigned) following →
      Directs name aimed following rest → now.budget.used + 1 < now.budget.limit →
      (session.afterAll before).reply call = some (.suspended (.act (aimed.action direction)))) ∧
    (∀ token tokens expr rest, token.kind = .word → token.text = direction.keyword →
      Reads .atom (token :: tokens) expr rest → rest = tokens ∧
        ∀ store answers, expr.eval store answers = (.ok (.direction direction), answers)) ∧
    (∀ bearing, now.program.statements[now.machine.pc]? = some (aimed.statement bearing) →
      ∃ word assigned tokens rest, Occurs source now.machine.pc assigned tokens ∧
        Directs word aimed tokens rest ∧
        Aims assigned word bearing) := by
  rw [performs.reply, performs.program]
  refine ⟨?_, ?_, ?_, ?_⟩
  · intro assigned tokens rest occurs directs
    obtain ⟨bearing, aims, toward, held⟩ := exists_aims assigned direction
    have found := occurs.found (directs.stands aims) Aimed.isPlain_statement
    rw [← performs.program] at found
    refine ⟨fun unknown within => ?_, fun known told => ?_, fun past => ?_⟩
    · obtain rfl := toward unknown
      rw [(run_aimed_iff found).mpr ⟨within, rfl⟩]
    · obtain rfl := held known
      rw [Option.some.injEq, run_aimed_iff found]
    · rw [run_of_limit found past]
  · intro name assigned tokens middle following rest occurs sets breaks directs within
    have assigns : Stands assigned tokens
        (.statement (.assign ⟨name, .literal (.direction direction)⟩)) middle :=
      .simple (.assign sets)
    -- The action stands right after the assignment, so the name is one of those written before it.
    have later := (occurs.next assigns).lineBreaks breaks
    have stores := occurs.found assigns rfl
    have found := later.found (directs.stands (.held List.mem_cons_self)) Aimed.isPlain_statement
    rw [← performs.program] at stores found
    rw [run_stored stores found within]
  · intro token tokens expr rest isWord named reads
    obtain ⟨rfl, rfl⟩ := (reads_keyword_iff isWord named).mp reads
    exact ⟨rfl, fun _ _ => rfl⟩
  · intro bearing found
    obtain ⟨assigned, tokens, rest, occurs, stands⟩ :=
      exists_occurs clean Aimed.isPlain_statement found
    obtain ⟨word, directs, aims⟩ := exists_directs stands
    exact ⟨word, assigned, tokens, rest, occurs, directs, aims⟩

/-! ## A keyword as a variable -/

/-- A script that writes a variable with the name of a direction, and then moves and shoots. -/
def reassigned : String := "HAUTGAUCHE = BASDROIT\ndeplacer(HAUTGAUCHE)\nattaquer.tirer(HAUTDROIT)"

/-- The tokens from the move on. -/
def moveTokens : List Token :=
  [⟨"deplacer", .word, ⟨2, 1⟩⟩, ⟨"(", .leftParen, ⟨2, 9⟩⟩,
    ⟨"HAUTGAUCHE", .word, ⟨2, 10⟩⟩, ⟨")", .rightParen, ⟨2, 20⟩⟩,
    ⟨"\n", .lineBreak, ⟨2, 21⟩⟩]

/-- The tokens from the shot on. -/
def shotTokens : List Token :=
  [⟨"attaquer", .word, ⟨3, 1⟩⟩, ⟨"tirer", .word, ⟨3, 10⟩⟩,
    ⟨"(", .leftParen, ⟨3, 15⟩⟩, ⟨"HAUTDROIT", .word, ⟨3, 16⟩⟩,
    ⟨")", .rightParen, ⟨3, 25⟩⟩, ⟨"\n", .lineBreak, ⟨3, 26⟩⟩,
    ⟨"\n", .lineBreak, ⟨4, 1⟩⟩, ⟨"", .endOfFile, ⟨5, 1⟩⟩]

/-- What the script is scanned as, and how it runs. -/
theorem reassigned_runs :
    Token.tokenize (reassigned ++ "\n\n") =
      ⟨"HAUTGAUCHE", .word, ⟨1, 1⟩⟩ :: ⟨"=", .equals, ⟨1, 12⟩⟩ ::
      ⟨"BASDROIT", .word, ⟨1, 14⟩⟩ ::
        ⟨"\n", .lineBreak, ⟨1, 22⟩⟩ :: (moveTokens ++ shotTokens) ∧
    (Parse.ofSource reassigned).errors = [] ∧
    (∃ now ∈ (fresh [] 500).executed (.interpret reassigned), now.machine.pc = 1 ∧
      now.budget.used < now.budget.limit ∧
      (Bearing.held "HAUTGAUCHE").direction? now.machine.store = some .downRight) ∧
    (∃ now ∈ ((fresh [] 500).after (.interpret reassigned)).executed .resume,
      now.machine.pc = 2 ∧
      now.budget.used < now.budget.limit) ∧
    (fresh [] 500).reply (.interpret reassigned) = some (.suspended (.act (.move .downRight))) := by
  decide +kernel

theorem directs_move : Directs "HAUTGAUCHE" .move (moveTokens ++ shotTokens)
    (⟨"\n", .lineBreak, ⟨2, 21⟩⟩ :: shotTokens) :=
  .move (.here rfl rfl (by simp [NoEquals])) rfl rfl rfl rfl

theorem directs_shot : Directs "HAUTDROIT" .shoot shotTokens
    [⟨"\n", .lineBreak, ⟨3, 26⟩⟩, ⟨"\n", .lineBreak, ⟨4, 1⟩⟩,
      ⟨"", .endOfFile, ⟨5, 1⟩⟩] :=
  .shoot (.here rfl rfl (by simp [NoEquals])) rfl rfl rfl rfl rfl rfl

theorem occurs_move : Occurs reassigned 1 ["HAUTGAUCHE"] (moveTokens ++ shotTokens) := by
  have reads : Reads .expression (⟨"BASDROIT", .word, ⟨1, 14⟩⟩ ::
      ⟨"\n", .lineBreak, ⟨1, 22⟩⟩ :: (moveTokens ++ shotTokens))
      (.literal (.direction .downRight))
        (⟨"\n", .lineBreak, ⟨1, 22⟩⟩ :: (moveTokens ++ shotTokens)) :=
    .expression (.direction rfl rfl) (.noMore (by simp [Reader.isSign]))
  refine ⟨[.statement (.assign ⟨"HAUTGAUCHE", .literal (.direction .downRight)⟩)], ?_, rfl⟩
  rw [reassigned_runs.1]
  exact .item (.simple (.assign (.here rfl rfl reads))) (.lineBreak rfl .nil)

theorem occurs_shot : Occurs reassigned 2 ["HAUTGAUCHE"] shotTokens := by
  have moves :
      Stands ["HAUTGAUCHE"] (moveTokens ++ shotTokens) (.statement (.move (.held "HAUTGAUCHE")))
      (⟨"\n", .lineBreak, ⟨2, 21⟩⟩ :: shotTokens) :=
    directs_move.stands (.held List.mem_cons_self)
  exact (occurs_move.next moves).lineBreaks (.lineBreak rfl .nil)

/-- Of this script the move is reported with what the variable holds, and the shot with its own
direction. -/
theorem keyword_directs_reassigned :
    (fresh [] 500).reply (.interpret reassigned) = some (.suspended (.act (.move .downRight))) ∧
    ((fresh [] 500).after (.interpret reassigned)).reply .resume =
      some (.suspended (.act (.shoot .upRight))) := by
  obtain ⟨-, clean, ⟨moving, moves, atMove, inTime, held⟩,
    ⟨shooting, shoots, atShot, within⟩, -⟩ := reassigned_runs
  refine ⟨?_, ?_⟩
  · have performs : Performs (fresh [] 500) reassigned [] _ moving :=
      ⟨⟨[], rfl, List.forall_mem_nil _⟩, moves⟩
    obtain ⟨-, reports, -⟩ :=
      (keyword_directs clean performs .move .upLeft).1 _ _ _ (atMove ▸ occurs_move) directs_move
    exact (reports List.mem_cons_self .downRight).mpr ⟨inTime, held⟩
  · have performs : Performs (fresh [] 500) reassigned [_] _ shooting :=
      ⟨⟨[.resume], rfl, by decide⟩, shoots⟩
    obtain ⟨reports, -⟩ :=
      (keyword_directs clean performs .shoot .upRight).1 _ _ _ (atShot ▸ occurs_shot) directs_shot
    exact reports (by decide) within

/-- A move that is written with the keyword of a direction is not always reported with this
direction. -/
theorem keyword_misdirects :
    ¬∀ (session : Session) (source : String), (Parse.ofSource source).errors = [] →
      ∀ (before : List Call) (call : Call) (now : Session),
        Performs session source before call now →
      ∀ (aimed : Aimed) (direction : Direction) (assigned : List String)
        (tokens rest : List Token),
        Occurs source now.machine.pc assigned tokens →
        Directs direction.keyword aimed tokens rest → now.budget.used < now.budget.limit →
        (session.afterAll before).reply call =
          some (.suspended (.act (aimed.action direction))) := by
  intro always
  obtain ⟨-, clean, ⟨moving, moves, atMove, inTime, -⟩, -, told⟩ := reassigned_runs
  have performs : Performs (fresh [] 500) reassigned [] _ moving :=
    ⟨⟨[], rfl, List.forall_mem_nil _⟩, moves⟩
  have keyword :=
    always _ _ clean _ _ _ performs .move .upLeft _ _ _ (atMove ▸ occurs_move) directs_move inTime
  cases keyword.symm.trans told

end Session

end RobotScript
