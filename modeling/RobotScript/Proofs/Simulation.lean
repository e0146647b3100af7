import RobotScript.Proofs.Grammar.Parse
import RobotScript.Proofs.Placement
import RobotScript.Proofs.Session.Conversation

/-!
# Blocks as labels and jumps

A script that is laid out as a flat program with labels and jumps tells its host what the script
tells as a tree.

The tale of the flat program, once it has started, does not change while the program runs: it is
fixed from now on and called `whole`. `Tells` says that the program, from some statement on, tells
the rest of it. `Meaning.Meets` says that a part of the tree either ends the tale as it ends or
leaves a world of which something holds. Both go together step by step:

1. `Tells.simple`, `Tells.branch`, `Tells.goto`, `Tells.counted`: one statement of the program.
2. `Simulates.whileLoop`, `Simulates.countedLoop`: the passes of a loop, by induction on the tests
   that are left.
3. `Script.simulates`: a script in its place, by induction on the script. No counted loop of its
   place is entered before it, and after it the loops stand as before.
4. `Session.account_eq_converse`: a whole script, from its text.
-/

namespace RobotScript

variable {σ α β : Type}

/-! ## Parts of a tree within a tale -/

/-- In a world, a part of a tree ends the whole tale, or leaves a value and a world of which `post`
holds. -/
def Meaning.Meets (meaning : Meaning σ α) (whole : List Moment) (post : α → World σ → Prop)
    (world : World σ) : Prop :=
  match meaning world with
  | .ok value after => post value after
  | .error (.unset name) after => (after.tell (.unset name)).audience.heard = whole
  | .error .unknown _ => False

namespace Meaning

variable {whole : List Moment} {world : World σ}

theorem Meets.mono {meaning : Meaning σ α} {post weaker : α → World σ → Prop}
    (meets : meaning.Meets whole post world)
    (implies : ∀ value after, post value after → weaker value after) :
    meaning.Meets whole weaker world := by
  unfold Meets at meets ⊢
  split at meets
  · next value after same => exact implies value after meets
  · exact meets
  · exact meets

/-- One part after another. -/
theorem Meets.bind {first : Meaning σ α} {following : α → Meaning σ β}
    {post : β → World σ → Prop} (meets : first.Meets whole
      (fun value after => (following value).Meets whole post after) world) :
    (first >>= following).Meets whole post world := by
  have ran : (first >>= following) world =
      match first world with
      | .ok value after => following value after
      | .error stop after => .error stop after := by
    show EStateM.bind first following world = _
    unfold EStateM.bind
    cases first world <;> rfl
  unfold Meets at meets ⊢
  rw [ran]
  cases result : first world with
  | ok value after =>
    rw [result] at meets
    exact meets
  | error stop after =>
    rw [result] at meets
    cases stop with
    | unset name => exact meets
    | unknown => exact meets

end Meaning

/-- The machine of a flat program that stands at a statement in a world, with no answers kept. -/
def World.machine (world : World σ) (pc : Nat) (loops : Table Nat Phase) : Machine :=
  { pc, store := world.store, console := world.console, loops }

theorem World.readInto_audience (world : World σ) (name : String) :
    (world.readInto name).audience = world.audience := by
  unfold World.readInto
  split <;> rfl

/-- Reading a line does the same to the world and to the machine. -/
theorem World.readInto_machine (world : World σ) (name : String) (pc : Nat)
    (loops : Table Nat Phase) :
    (world.readInto name).machine pc loops = (world.machine pc loops).readInto name := by
  obtain ⟨store, ⟨output, input⟩, audience⟩ := world
  cases input <;> rfl

/-- Evaluation in a tree is the dialogue of the expression with the host, wherever a flat program
stands. -/
theorem Host.evaluate_eq {host : Host σ} {expr : Expr} {world : World σ} {pc : Nat}
    {loops : Table Nat Phase} {value : Value} {audience : Audience σ}
    (played : ((world.machine pc loops).evaluate expr).play host world.audience =
      (value, audience)) :
    host.evaluate expr world = .ok value { world with audience } := by
  induction expr generalizing world value audience with
  | literal other =>
    obtain ⟨rfl, rfl⟩ := Prod.mk.inj played
    rfl
  | var name =>
    obtain ⟨rfl, rfl⟩ := Prod.mk.inj played
    rfl
  | ask query =>
    obtain ⟨rfl, rfl⟩ := Prod.mk.inj played
    rfl
  | binary op left right ihLeft ihRight =>
    rcases first : ((world.machine pc loops).evaluate left).play host world.audience with
      ⟨x, middle⟩
    rcases second :
      (({ world with audience := middle } : World σ).machine pc loops |>.evaluate right).play host
      middle with ⟨y, last⟩
    have together :
        ((world.machine pc loops).evaluate (.binary op left right)).play host world.audience =
        (op.apply x y, last) := (Dialogue.play_andThen first).trans (Dialogue.play_andThen second)
    obtain ⟨rfl, rfl⟩ := Prod.mk.inj (together.symm.trans played)
    show EStateM.bind (host.evaluate left)
      (fun x => host.evaluate right >>= fun y => pure (op.apply x y)) world = _
    rw [EStateM.bind, ihLeft first]
    show EStateM.bind (host.evaluate right) (fun y => pure (op.apply x y))
      { world with audience := middle } = _
    rw [EStateM.bind, ihRight second]
    rfl

theorem Host.meets_evaluate {host : Host σ} {expr : Expr} {world : World σ}
    {whole : List Moment} {pc : Nat} {loops : Table Nat Phase} {value : Value}
    {audience : Audience σ} {post : Value → World σ → Prop}
    (played : ((world.machine pc loops).evaluate expr).play host world.audience = (value, audience))
    (holds : post value { world with audience }) : (host.evaluate expr).Meets whole post world := by
  unfold Meaning.Meets
  rw [host.evaluate_eq played]
  exact holds

/-- A variable as the direction of an action. -/
theorem Bearing.meaning_held (world : World σ) (name : String) :
    (Bearing.held name).meaning world =
      match world.store.get? name with
      | some value => .ok (value.toDirection?.getD .upRight) world
      | none => .error (.unset name) world := by
  show (match world.store.get? name with
    | some value => (pure (value.toDirection?.getD .upRight) : Meaning σ Direction)
    | none => throw (Stop.unset name)) world = _
  cases world.store.get? name <;> rfl

/-! ## Statements as dialogues -/

/-- Evaluates a condition, and goes on at the next statement or at a target. -/
def Machine.branch (machine : Machine) (condition : Expr) (target : Nat) :
    Dialogue (Machine × Outcome) :=
  (machine.evaluate condition).andThen fun value =>
    .done (if value.isTrue then machine.advance else machine.jump target, .done)

namespace Program

variable {program : Program} {machine : Machine} {condition : Expr} {finish : String} {target : Nat}

theorem perform_si (known : program.labels.get? finish = some target) :
    program.perform machine (.si condition none finish) = machine.branch condition target := by
  simp only [perform, toLabel, known]
  refine congrArg (Dialogue.andThen _) (funext fun value => ?_)
  split <;> rfl

theorem perform_siSinon {otherwise : String} {second : Nat}
    (known : program.labels.get? finish = some target)
    (other : program.labels.get? otherwise = some second) :
    program.perform machine (.si condition (some otherwise) finish) =
      machine.branch condition second := by
  simp only [perform, toLabel, known, other]
  refine congrArg (Dialogue.andThen _) (funext fun value => ?_)
  split <;> rfl

theorem perform_tantque {first : String} (known : program.labels.get? finish = some target) :
    program.perform machine (.tantque condition first finish) =
      machine.branch condition target := by
  simp only [perform, toLabel, known]
  rfl

theorem perform_counted {init step assignment : Assignment} {first : String}
    (known : program.labels.get? finish = some target)
    (due : machine.dueAssignment (.pour init condition step first finish) = some assignment) :
    program.perform machine (.pour init condition step first finish) =
      (machine.evaluate assignment.value).andThen fun value =>
        ((machine.settled assignment value).evaluate condition).andThen fun verdict =>
          .done
            (if verdict.isTrue then (machine.settled assignment value).advance.enterLoop machine.pc
              else (machine.settled assignment value).leaveLoop machine.pc target, .done) := by
  simp only [perform, toLabel, known, Machine.prepare, due]
  exact Dialogue.andThen_assoc ..

end Program

/-! ## Statements of a flat program within a tale -/

namespace Session

/-- A flat program that stands at a statement in a world tells the whole tale. -/
def Tells (program : Program) (host : Host σ) (limit : Nat) (whole : List Moment)
    (world : World σ) (pc : Nat) (loops : Table Nat Phase) (used : Nat) : Prop :=
  tale program host limit world.audience (world.machine pc loops) used = whole

section Statements

variable {program : Program} {host : Host σ} {limit : Nat} {whole : List Moment} {world : World σ}
  {pc used : Nat} {loops : Table Nat Phase} {statement : Statement}

/-- A statement that is executed goes on telling the tale. -/
theorem Tells.perform (tells : Tells program host limit whole world pc loops used)
    (within : Within whole) (found : program.statements[pc]? = some statement)
    {dialogue : Dialogue (Machine × Outcome)} {result : Machine} {outcome : Outcome}
    {audience : Audience σ}
    (performs : program.perform (world.machine pc loops) statement = dialogue)
    (played : dialogue.play host world.audience = ((result, outcome), audience)) :
    ∃ later, used < later ∧
      sequel program host limit audience result later outcome = whole := by
  obtain rfl : _ = whole := tells
  obtain ⟨later, more, same⟩ := tale_perform rfl found within
  rw [performs, played] at same
  exact ⟨later, more, same.symm⟩

/-- A statement within the limit leaves the limit unreached. -/
theorem Tells.used_lt (tells : Tells program host limit whole world pc loops used)
    (within : Within whole) (found : program.statements[pc]? = some statement) : used < limit := by
  obtain rfl : _ = whole := tells
  exact within.used_lt found

/-- The program goes on at a statement, with more of the limit used. -/
def Advances (program : Program) (host : Host σ) (limit : Nat) (whole : List Moment) (pc : Nat)
    (loops : Table Nat Phase) (used : Nat) (after : World σ) : Prop :=
  ∃ later, used < later ∧ Tells program host limit whole after pc loops later

/-- A jump. -/
theorem Tells.goto (tells : Tells program host limit whole world pc loops used)
    (within : Within whole) {label : String} {target : Nat}
    (found : program.statements[pc]? = some (.goto label))
    (known : program.labels.get? label = some target) :
    Advances program host limit whole target loops used world := by
  have performs : program.perform (world.machine pc loops) (.goto label) =
      .done ((world.machine pc loops).jump target, .done) := by
    simp only [Program.perform, Program.toLabel, known]
    rfl
  exact tells.perform within found performs rfl

/-- An action that takes a direction. -/
theorem Tells.aimed (tells : Tells program host limit whole world pc loops used)
    (within : Within whole) (found : program.statements[pc]? = some statement) {bearing : Bearing}
    (action : Direction → Action) (performs : program.perform (world.machine pc loops) statement =
      .done ((world.machine pc loops).advance.withBearing bearing fun direction =>
        ((world.machine pc loops).advance, .act (action direction)))) :
    (bearing.meaning >>= fun direction => (action direction).meaning).Meets whole
      (fun _ after => Advances program host limit whole (pc + 1) loops used after) world := by
  obtain ⟨later, more, same⟩ := tells.perform within found performs rfl
  cases bearing with
  | toward direction => exact ⟨later, more, same⟩
  | held name =>
    refine Meaning.Meets.bind ?_
    cases known : world.store.get? name with
    | none =>
      have unknown : (world.machine pc loops).advance.store.get? name = none := known
      simp only [unknown] at same
      unfold Meaning.Meets
      rw [Bearing.meaning_held, known]
      exact same
    | some value =>
      have holds : (world.machine pc loops).advance.store.get? name = some value := known
      simp only [holds] at same
      unfold Meaning.Meets
      rw [Bearing.meaning_held, known]
      exact ⟨later, more, same⟩

/-- A simple item that does not jump. -/
theorem Tells.simple (tells : Tells program host limit whole world pc loops used)
    (within : Within whole) {item : Simple} (found : program.statements[pc]? = some item.statement)
    (stays : ∀ label, item ≠ .goto label) :
    (item.meaning host).Meets whole
      (fun _ after => Advances program host limit whole (pc + 1) loops used after)
      world := by
  cases item with
  | print expr =>
    rcases played : ((world.machine pc loops).evaluate expr).play host world.audience with
      ⟨value, audience⟩
    obtain ⟨later, more, same⟩ := tells.perform within found rfl (Dialogue.play_andThen played)
    exact Meaning.Meets.bind (Host.meets_evaluate played ⟨later, more, same⟩)
  | input target =>
    -- The machine reads the line, and the world that it stands for has read it.
    obtain ⟨later, more, same⟩ := tells.perform within found rfl rfl
    have read : tale program host limit world.audience
      (((world.machine (pc + 1) loops).readInto target).holding []) later = whole := same
    rw [← World.readInto_machine, ← world.readInto_audience target] at read
    exact ⟨later, more, read⟩
  | assign assignment =>
    rcases played : ((world.machine pc loops).evaluate assignment.value).play host
      world.audience with ⟨value, audience⟩
    obtain ⟨later, more, same⟩ := tells.perform within found rfl (Dialogue.play_andThen played)
    exact Meaning.Meets.bind (Host.meets_evaluate played ⟨later, more, same⟩)
  | goto label => exact absurd rfl (stays label)
  | move bearing => exact tells.aimed within found .move rfl
  | shoot bearing => exact tells.aimed within found .shoot rfl
  | melee direction => exact tells.perform within found rfl rfl
  | reload => exact tells.perform within found rfl rfl

/-- A condition after which the program goes on at the next statement or at a target. -/
theorem Tells.branch (tells : Tells program host limit whole world pc loops used)
    (within : Within whole) (found : program.statements[pc]? = some statement) {condition : Expr}
    {target : Nat} (performs : program.perform (world.machine pc loops) statement =
      (world.machine pc loops).branch condition target) :
    (host.evaluate condition).Meets whole
      (fun value after =>
        Advances program host limit whole (if value.isTrue then pc + 1 else target) loops used
          after) world := by
  rcases played : ((world.machine pc loops).evaluate condition).play host world.audience with
    ⟨value, audience⟩
  obtain ⟨later, more, same⟩ :=
    tells.perform within found performs (Dialogue.play_andThen played)
  refine Host.meets_evaluate played ⟨later, more, ?_⟩
  rw [← same]
  split <;> rfl

/-- The assignment of a counted loop that is due, and its condition. -/
theorem Tells.counted (tells : Tells program host limit whole world pc loops used)
    (within : Within whole) {init step assignment : Assignment} {condition : Expr}
    {first finish : String} {target : Nat}
    (found : program.statements[pc]? = some (.pour init condition step first finish))
    (known : program.labels.get? finish = some target) (due : (world.machine pc loops).dueAssignment
      (.pour init condition step first finish) = some assignment) :
    (host.assign assignment).Meets whole
      (fun _ middle => (host.evaluate condition).Meets whole
        (fun value after =>
          if value.isTrue then
            Advances program host limit whole (pc + 1)
              ((loops.insert pc .checking).insert pc .iterating) used after
          else Advances program host limit whole target
            ((loops.insert pc .checking).erase pc) used after)
        middle) world := by
  rcases entered :
      ((world.machine pc loops).evaluate assignment.value).play host world.audience with
    ⟨value, audience⟩
  -- The condition is evaluated with the assignment made, by the program and by the tree.
  rcases tested : (((({ world with audience } : World σ).write assignment.target value).machine pc
    (loops.insert pc .checking)).evaluate condition).play host audience with ⟨verdict, last⟩
  obtain ⟨later, more, same⟩ := tells.perform within found (Program.perform_counted known due)
    ((Dialogue.play_andThen entered).trans (Dialogue.play_andThen tested))
  refine Meaning.Meets.bind (Host.meets_evaluate entered (Host.meets_evaluate tested ?_))
  split
  · next holds =>
    rw [if_pos holds] at same
    exact ⟨later, more, same⟩
  · next fails =>
    rw [if_neg fails] at same
    exact ⟨later, more, same⟩

end Statements

/-! ## Passes of a loop -/

/-- No counted loop that starts at these statements has been entered. -/
def Idle (first last : Nat) (loops : Table Nat Phase) : Prop :=
  ∀ index, first ≤ index → index < last → loops.get? index = none

/-- The program goes on at a statement, with the counted loops as they were. -/
def Reaches (program : Program) (host : Host σ) (limit : Nat) (whole : List Moment) (last : Nat)
    (loops : Table Nat Phase) (used : Nat) (after : World σ) : Prop :=
  ∃ table later, used ≤ later ∧ (∀ index, table.get? index = loops.get? index) ∧
    Tells program host limit whole after last table later

/-- From the statement `first` to the statement `last` the program does what a part of a tree
means. -/
def Simulates (program : Program) (host : Host σ) (limit : Nat) (whole : List Moment)
    (first last : Nat) (meaning : Meaning σ Unit) : Prop :=
  ∀ ⦃world : World σ⦄ ⦃loops : Table Nat Phase⦄ ⦃used : Nat⦄,
    Tells program host limit whole world first loops used →
    Idle first last loops →
    meaning.Meets whole (fun _ after => Reaches program host limit whole last loops used after)
      world

theorem Idle.mono {first last lower upper : Nat} {loops : Table Nat Phase}
    (idle : Idle first last loops) (left : first ≤ lower) (right : upper ≤ last) :
    Idle lower upper loops :=
  fun index least less => idle index (Nat.le_trans left least) (Nat.lt_of_lt_of_le less right)

theorem Idle.congr {first last : Nat} {loops table : Table Nat Phase} (idle : Idle first last loops)
    (same : ∀ index, table.get? index = loops.get? index) : Idle first last table :=
  fun index least less => (same index).trans (idle index least less)

section Loops

variable {program : Program} {host : Host σ} {limit : Nat} {whole : List Moment} {world : World σ}
  {first middle last used : Nat} {loops : Table Nat Phase}

theorem Advances.reaches (advances : Advances program host limit whole last loops used world) :
    Reaches program host limit whole last loops used world := by
  obtain ⟨later, more, tells⟩ := advances
  exact ⟨loops, later, Nat.le_of_lt more, fun _ => rfl, tells⟩

/-- What the program does after it has come to a statement. -/
theorem Simulates.after {meaning : Meaning σ Unit}
    (simulates : Simulates program host limit whole middle last meaning)
    (reaches : Reaches program host limit whole middle loops used world)
    (idle : Idle middle last loops) :
    meaning.Meets whole (fun _ after => Reaches program host limit whole last loops used after)
      world := by
  obtain ⟨table, later, more, same, tells⟩ := reaches
  refine (simulates tells (idle.congr same)).mono ?_
  rintro _ after ⟨final, latest, further, unchanged, tells⟩
  exact ⟨final, latest, Nat.le_trans more further,
    fun index => (unchanged index).trans (same index), tells⟩

/-- One part after another. -/
theorem Simulates.seq {one other : Meaning σ Unit}
    (leading : Simulates program host limit whole first middle one)
    (following : Simulates program host limit whole middle last other) (left : first ≤ middle)
    (right : middle ≤ last) :
    Simulates program host limit whole first last (one >>= fun _ => other) := by
  intro world loops used tells idle
  refine Meaning.Meets.bind ((leading tells (idle.mono (Nat.le_refl _) right)).mono ?_)
  exact fun _ after reaches => following.after reaches (idle.mono left (Nat.le_refl _))

/-- What both kinds of loops have in common: the body from the statement after the first one on, the
jump back to the first one, and the label of the end. -/
structure Circles (program : Program) (host : Host σ) (limit : Nat) (whole : List Moment)
    (first middle last : Nat) (start finish : String) (body : Meaning σ Unit) : Prop where
  inside : Simulates program host limit whole (first + 1) middle body
  jumps : program.statements[middle]? = some (.goto start)
  starts : program.labels.get? start = some first
  ends : program.labels.get? finish = some last
  room : middle ≤ last

/-- The passes of a `tantque`. Each test is paid for, so the tests last as long as the limit. -/
theorem Simulates.whileLoop (within : Within whole) {condition : Expr} {start finish : String}
    {body : Meaning σ Unit}
    (opens : program.statements[first]? = some (.tantque condition start finish))
    (circles : Circles program host limit whole first middle last start finish body) (tests : Nat)
    {world : World σ} {loops : Table Nat Phase} {used : Nat} (enough : limit ≤ tests + used)
    (tells : Tells program host limit whole world first loops used)
    (idle : Idle (first + 1) last loops) :
    ((host.evaluate condition).repeatWhile body tests).Meets whole
      (fun _ after => Reaches program host limit whole last loops used after) world := by
  induction tests generalizing world loops used with
  | zero =>
    -- The opening statement is still to be executed, so some of the limit is left, and with it a
    -- test.
    have less := tells.used_lt within opens
    omega
  | succ tests ih =>
    refine Meaning.Meets.bind
      ((tells.branch within opens (Program.perform_tantque circles.ends)).mono ?_)
    rintro value after advances
    split
    · next holds =>
      rw [if_pos holds] at advances
      obtain ⟨later, more, tells⟩ := advances
      refine Meaning.Meets.bind
        ((circles.inside tells (idle.mono (Nat.le_refl _) circles.room)).mono ?_)
      rintro _ after ⟨table, further, paid, same, tells⟩
      -- The body leaves the loops as they were, so the next pass finds them idle.
      obtain ⟨again, jumped, tells⟩ := tells.goto within circles.jumps circles.starts
      have left : limit ≤ tests + again := by omega
      refine (ih left tells (idle.congr same)).mono ?_
      rintro _ after ⟨final, latest, most, unchanged, tells⟩
      exact ⟨final, latest, by omega, fun index => (unchanged index).trans (same index), tells⟩
    · next fails =>
      rw [if_neg fails] at advances
      exact advances.reaches

/-- The passes of a `pour`, from the assignment that is due on. Meanwhile the loop itself is marked
as entered, and at the end it is not. -/
theorem Simulates.countedLoop (within : Within whole) {init step : Assignment} {condition : Expr}
    {start finish : String} {body : Meaning σ Unit}
    (opens : program.statements[first]? = some (.pour init condition step start finish))
    (circles : Circles program host limit whole first middle last start finish body) (tests : Nat)
    {assignment : Assignment} {world : World σ} {loops : Table Nat Phase} {used : Nat}
    (enough : limit ≤ tests + used)
    (tells : Tells program host limit whole world first loops used)
    (due : (world.machine first loops).dueAssignment (.pour init condition step start finish) =
      some assignment) (idle : Idle (first + 1) last loops) :
    (host.assign assignment).Meets whole
      (fun _ settled =>
        ((host.evaluate condition).repeatWhile (body >>= fun _ => host.assign step) tests).Meets
          whole (fun _ after => ∃ table later, used ≤ later ∧
            (∀ index, table.get? index = if index = first then none else loops.get? index) ∧
            Tells program host limit whole after last table later) settled) world := by
  induction tests generalizing assignment world loops used with
  | zero =>
    have less := tells.used_lt within opens
    omega
  | succ tests ih =>
    refine (tells.counted within opens circles.ends due).mono fun _ settled tested => ?_
    refine Meaning.Meets.bind (tested.mono ?_)
    intro value after advances
    split
    · next holds =>
      rw [if_pos holds] at advances
      obtain ⟨later, more, tells⟩ := advances
      -- The other loops are as before, and this one is being passed through.
      have entered :
          ∀ index, ((loops.insert first .checking).insert first .iterating).get? index =
          if index = first then some .iterating else loops.get? index := by
        intro index
        rw [Table.get?_insert]
        split
        · rfl
        · next other => rw [Table.get?_insert, if_neg other]
      have others :
          Idle (first + 1) last ((loops.insert first .checking).insert first .iterating) := by
        intro index least less
        rw [entered, if_neg (Nat.ne_of_gt least)]
        exact idle index least less
      have body := circles.inside tells (others.mono (Nat.le_refl _) circles.room)
      refine Meaning.Meets.bind (Meaning.Meets.bind (body.mono ?_))
      rintro _ after ⟨table, further, paid, same, tells⟩
      obtain ⟨again, jumped, tells⟩ := tells.goto within circles.jumps circles.starts
      -- Back at the opening statement, the step is due and no longer the first assignment.
      have iterating : table.get? first = some .iterating := by rw [same, entered, if_pos rfl]
      have dueAgain :
          (after.machine first table).dueAssignment (.pour init condition step start finish) =
          some step := by
        simp only [Machine.dueAssignment, World.machine, iterating]
      have left : limit ≤ tests + again := by omega
      refine (ih left tells dueAgain (others.congr same)).mono fun _ settled rest => rest.mono ?_
      rintro _ after ⟨final, latest, most, unchanged, tells⟩
      refine ⟨final, latest, by omega, fun index => ?_, tells⟩
      rw [unchanged]
      split
      · rfl
      · next other => rw [same, entered, if_neg other]
    · next fails =>
      rw [if_neg fails] at advances
      obtain ⟨later, more, tells⟩ := advances
      refine ⟨_, later, Nat.le_of_lt more, fun index => ?_, tells⟩
      rw [Table.get?_erase]
      split
      · rfl
      · next other => rw [Table.get?_insert, if_neg other]

end Loops

end Session

/-! ## Scripts in their places -/

open Session in
/-- A script that is laid out in a program does there what it means as a tree. -/
theorem Script.simulates {program : Program} {host : Host σ} {limit tests : Nat}
    {whole : List Moment} (within : Within whole) (enough : limit ≤ tests) {script : Script}
    (free : script.jumps = []) {start minted : Nat} (laid : script.LaidOut program start minted) :
    Simulates program host limit whole start (start + script.size) (script.meaning host tests) := by
  induction script generalizing start minted with
  | empty =>
    intro world loops used tells idle
    exact ⟨loops, used, Nat.le_refl _, fun _ => rfl, tells⟩
  | label name rest ih => exact ih free laid.label
  | simple item rest ih =>
    obtain ⟨silent, later⟩ := List.append_eq_nil_iff.mp free
    have stays : ∀ label, item ≠ .goto label := by
      rintro label rfl
      exact nomatch silent
    obtain ⟨found, laidRest⟩ := laid.simple
    have here : Simulates program host limit whole start (start + 1) (item.meaning host) := by
      intro world loops used tells idle
      exact (tells.simple within found stays).mono fun _ after advances => advances.reaches
    rw [show start + (simple item rest).size = start + 1 + rest.size by simp only [size]; omega]
    exact here.seq (ih later laidRest) (Nat.le_succ _) (Nat.le_add_right ..)
  | si condition body rest ihBody ihRest =>
    obtain ⟨freeBody, freeRest⟩ := List.append_eq_nil_iff.mp free
    obtain ⟨finish, inner, later, found, ends, laidBody, laidRest⟩ := laid.si
    have inside := ihBody freeBody laidBody
    have after := ihRest freeRest laidRest
    rw [show start + (si condition body rest).size =
      start + 1 + body.size + rest.size by simp only [size]; omega]
    intro world loops used tells idle
    refine Meaning.Meets.bind ((tells.branch within found (Program.perform_si ends)).mono ?_)
    intro value chosen advances
    split
    · next holds =>
      rw [if_pos holds] at advances
      exact (inside.seq after (Nat.le_add_right ..) (Nat.le_add_right ..)).after advances.reaches
        (idle.mono (Nat.le_succ _) (Nat.le_refl _))
    · next fails =>
      rw [if_neg fails] at advances
      exact after.after advances.reaches (idle.mono (by omega) (Nat.le_refl _))
  | siSinon condition body alternative rest ihBody ihAlternative ihRest =>
    obtain ⟨freeBranches, freeRest⟩ := List.append_eq_nil_iff.mp free
    obtain ⟨freeBody, freeAlternative⟩ := List.append_eq_nil_iff.mp freeBranches
    obtain ⟨otherwise, finish, inner, other, later, found, jumps, divides, ends, laidBody,
        laidAlternative, laidRest⟩ :=
      laid.siSinon
    have inside := ihBody freeBody laidBody
    have second := ihAlternative freeAlternative laidAlternative
    have after := ihRest freeRest laidRest
    -- At the end of the first branch the program jumps over the second one.
    have skipping : Simulates program host limit whole (start + 1 + body.size)
        (start + 1 + body.size + 1 + alternative.size) (pure ()) :=
      fun _ _ _ tells _ => (tells.goto within jumps ends).reaches
    rw [show start + (siSinon condition body alternative rest).size =
      start + 1 + body.size + 1 + alternative.size + rest.size by simp only [size]; omega]
    intro world loops used tells idle
    refine Meaning.Meets.bind
      ((tells.branch within found (Program.perform_siSinon ends divides)).mono ?_)
    intro value chosen advances
    split
    · next holds =>
      rw [if_pos holds] at advances
      exact (inside.seq (skipping.seq after (by omega) (by omega)) (by omega) (by omega)).after
        advances.reaches (idle.mono (Nat.le_succ _) (Nat.le_refl _))
    · next fails =>
      rw [if_neg fails] at advances
      exact (second.seq after (by omega) (by omega)).after advances.reaches
        (idle.mono (by omega) (Nat.le_refl _))
  | tantque condition body rest ihBody ihRest =>
    obtain ⟨freeBody, freeRest⟩ := List.append_eq_nil_iff.mp free
    obtain ⟨first, finish, inner, later, opens, jumps, starts, ends, laidBody, laidRest⟩ :=
      laid.loop (.tantque condition) body rest rfl rfl
    have passes : Simulates program host limit whole start (start + 1 + body.size + 1)
        ((host.evaluate condition).repeatWhile (body.meaning host tests) tests) := by
      intro world loops used tells idle
      exact Simulates.whileLoop within opens ⟨ihBody freeBody laidBody, jumps, starts, ends,
        Nat.le_succ _⟩ tests
        (Nat.le_add_right_of_le enough) tells (idle.mono (Nat.le_succ _) (Nat.le_refl _))
    rw [show start + (tantque condition body rest).size = start + 1 + body.size + 1 + rest.size by
      simp only [size]; omega]
    exact passes.seq (ihRest freeRest laidRest) (by omega) (by omega)
  | pour init condition step body rest ihBody ihRest =>
    obtain ⟨freeBody, freeRest⟩ := List.append_eq_nil_iff.mp free
    obtain ⟨first, finish, inner, later, opens, jumps, starts, ends, laidBody, laidRest⟩ :=
      laid.loop (.pour init condition step) body rest rfl rfl
    rw [show start + (pour init condition step body rest).size =
        start + 1 + body.size + 1 + rest.size by
      simp only [size]; omega]
    intro world loops used tells idle
    have entering : loops.get? start = none := idle start (Nat.le_refl _) (by omega)
    have due : (world.machine start loops).dueAssignment (.pour init condition step first finish) =
        some init := by
      simp only [Machine.dueAssignment, World.machine, entering]
    have passes := Simulates.countedLoop within opens ⟨ihBody freeBody laidBody, jumps, starts,
      ends, Nat.le_succ _⟩
      tests (Nat.le_add_right_of_le enough) tells due (idle.mono (Nat.le_succ _) (by omega))
    refine Meaning.Meets.bind
      (passes.mono fun _ settled looped => Meaning.Meets.bind (looped.mono ?_))
    rintro _ after ⟨table, latest, most, left, tells⟩
    -- The loop forgets that it was entered, so a later entry makes the first assignment again.
    have same : ∀ index, table.get? index = loops.get? index := by
      intro index
      rw [left]
      split
      · next here => rw [here, entering]
      · rfl
    exact (ihRest freeRest laidRest).after ⟨table, latest, most, same, tells⟩
      (idle.mono (by omega) (Nat.le_refl _))

/-! ## Whole scripts -/

open Session in
/-- The conversation of a host with a laid out script is the account of the tree. -/
theorem Script.account_eq_tale (host : Host σ) (state : σ) (console : Console) {limit tests : Nat}
    {script : Script} (lettered : script.Lettered) (free : script.jumps = [])
    (enough : limit ≤ tests)
    (within : Within (tale script.program host limit { state } { console } 0)) :
    script.account host tests state console =
      some (tale script.program host limit { state } { console } 0) := by
  generalize told : tale script.program host limit { state } { console } 0 = whole at within
  have tells : Tells script.program host limit whole { console, audience := { state } } 0 {} 0 :=
    told
  have meets :=
    script.simulates within enough free (laidOut_program lettered) tells fun _ _ _ => rfl
  unfold account
  unfold Meaning.Meets at meets
  split at meets
  · next value world same =>
    obtain ⟨table, later, -, -, tells⟩ := meets
    have ended : script.program.statements[(world.machine (0 + script.size) table).pc]? = none := by
      refine Array.getElem?_eq_none ?_
      rw [program, List.size_toArray, length_statements]
      exact Nat.le_of_eq (Nat.zero_add _).symm
    rw [same]
    exact congrArg some ((tale_ended ended).symm.trans tells)
  · next name world same =>
    rw [same]
    exact congrArg some meets
  · exact meets.elim

/-- Blocks as labels and jumps mean what blocks mean. Let a script without a jump be read from its
text and run by any session with any host, within the limit of the session. Then what the host sees
from the start to the end, that is each message with the variables, the printed lines and the lines
left to read at that moment, is the account of the script as a tree. -/
theorem Session.account_eq_converse (host : Host σ) (state : σ) (session : Session)
    {source : String} {script : Script} {tests : Nat}
    (accepts : Grammar.Accepts (Token.tokenize (source ++ "\n\n")) script)
    (free : script.jumps = []) (enough : session.budget.limit ≤ tests)
    (within : ∀ said ∈
      converse host state (session.interpret source).1 (session.interpret source).2,
        said.1 ≠ .limitExceeded) :
    script.account host tests state session.machine.console =
      some ((converse host state (session.interpret source).1 (session.interpret source).2).map
        Moment.ofSaid) := by
  have parsed := Parse.ofSource_of_accepts accepts
  have ran : session.interpret source =
      (running script.program session.budget.limit
        { console := session.machine.console } 0).run := by
    rw [interpret_eq_run (congrArg Parse.errors parsed), started, parsed]
    rfl
  rw [ran] at within ⊢
  obtain ⟨written, mark, isEnd, derives⟩ := accepts
  have lettered :=
    derives.lettered fun token member isLabel => Token.startsWithLetter_of_mem member (.inr isLabel)
  refine script.account_eq_tale host state _ lettered free enough ?_
  intro moment member
  obtain ⟨said, present, rfl⟩ := List.mem_map.mp member
  exact within said present

/-- A script with a counted loop around a `si` with two branches, and with questions in its
assignments and its test. -/
def patrol : String :=
  "pour (i = detecterEnnemi() ; estVivant() ; i = estVivant())\nsi i\nrecharger()\nsinon\nprint \"-\"\nfinsi\nfinpour"

/-- The first pass takes the first branch and the second pass the second one. The host has no answer
to the last two questions. -/
theorem patrol_account : ∃ script moments,
    Grammar.Accepts (Token.tokenize (patrol ++ "\n\n")) script ∧ script.jumps = [] ∧
      script.account Host.prepared 500 ([some .downLeft], [some 1, some 0, some 1]) {} =
        some moments ∧
      moments.map (fun moment => (moment.message, moment.console.output)) =
        [(.suspended (.ask .enemy), #[]), (.suspended (.ask .alive), #[]),
          (.suspended (.act .reload), #[]), (.suspended (.ask .alive), #[]),
          (.suspended (.ask .alive), #[]), (.suspended (.ask .alive), #["-"]),
          (.suspended (.ask .alive), #["-"]), (.terminated, #["-"])] := by
  have clean : (Parse.ofSource patrol).errors = [] := by decide +kernel
  obtain ⟨script, accepts⟩ := Parse.accepts_of_clean clean
  have noGoto : ∀ token ∈ Token.tokenize (patrol ++ "\n\n"),
      token.text ≠ Keyword.goto.name := by decide +kernel
  have free : script.jumps = [] := by
    obtain ⟨_, _, -, derives⟩ := accepts
    refine List.eq_nil_iff_forall_not_mem.mpr fun label named => ?_
    obtain ⟨⟨word, member, isGoto⟩, -⟩ := derives.jumps label named
    exact noGoto word member isGoto
  have enough : (Session.ofInput []).budget.limit ≤ 500 := Nat.le_refl _
  have told :=
    Session.account_eq_converse Host.prepared ([some .downLeft], [some 1, some 0, some 1])
    (Session.ofInput []) accepts free enough (by decide +kernel)
  exact ⟨script, _, accepts, free, told, by decide +kernel⟩

end RobotScript
