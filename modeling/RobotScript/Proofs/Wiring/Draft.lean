import RobotScript.Proofs.Reading

/-!
# Wired drafts

What holds of a program at every point of its layout, with the blocks that are still open.

`Draft.Wired` is the invariant. It says where labels lead, how a block ends, that the open blocks
lie in one another, and how closed blocks, branches and open blocks lie to each other. Three kinds
of changes keep it:

* `Grows.wired`: statements and labels are added and nothing that is there changes.
* `Wired.enter`, `Wired.leave`: a block is opened or left.
* `Wired.amend`: one statement is changed, to close a block, to divide it, or to fill in a jump.

Every step of the layout is made of these, so `Wired.addItem` follows, and `wired_foldl` for a whole
list of items.
-/

namespace RobotScript

/-! ## Blocks of a program -/

/-- The label of the second branch of a `si`. -/
def Statement.otherwise? : Statement → Option String
  | si _ otherwise _ => otherwise
  | _ => none

namespace Program

/-- The statement at `first` opens a block, and the block is closed and ends before the statement
`last`. -/
def Closes (program : Program) (first last : Nat) : Prop :=
  ∃ statement finish, program.statements[first]? = some statement ∧
    statement.finish? = some finish ∧ finish ≠ "" ∧ program.labels.get? finish = some last

/-- The statement at `first` opens a `si` whose second branch starts at the statement `second`. -/
def Divides (program : Program) (first second : Nat) : Prop :=
  ∃ statement label, program.statements[first]? = some statement ∧
    statement.otherwise? = some label ∧ program.labels.get? label = some second

end Program

namespace Frame

/-- The index of the opening statement. -/
def index : Frame → Nat
  | si index _ => index
  | tantque index => index
  | pour index => index

/-- The index of the last statement of the block that is known when its present branch starts. -/
def last : Frame → Nat
  | si index jump => jump.getD index
  | tantque index => index
  | pour index => index

end Frame

namespace Draft

/-- The name is a numeral that has been minted. -/
def Minted (draft : Draft) (name : String) : Prop :=
  ∃ number < draft.minted, name = toString number

/-- The frame is one of a block that is open: its opening statement has no label for its end yet. A
`si` that has been divided has the label of its second branch, right after a jump without a
label. -/
def Opened (draft : Draft) : Frame → Prop
  | .si index none => ∃ condition, draft.program.statements[index]? = some (.si condition none "")
  | .si index (some jump) =>
    ∃ condition label, draft.program.statements[index]? = some (.si condition (some label) "") ∧
      index < jump ∧
      draft.program.labels.get? label = some (jump + 1) ∧
        draft.program.statements[jump]? = some (.goto "")
  | .tantque index =>
    ∃ condition start, draft.program.statements[index]? = some (.tantque condition start "")
  | .pour index =>
    ∃ init condition step start,
      draft.program.statements[index]? = some (.pour init condition step start "")

/-- A block with the given opening statement at `first` ends at the minted label `finish`. A loop
ends with a jump to its start, and the first of two branches with a jump to the end. -/
def Ends (draft : Draft) (first : Nat) (statement : Statement) (finish : String) : Prop :=
  draft.Minted finish ∧ ∃ last, draft.program.labels.get? finish = some last ∧
    first < last ∧
    (∀ start, statement.start? = some start →
      first + 2 ≤ last ∧ draft.program.statements[last - 1]? = some (.goto start)) ∧
    ∀ label, statement.otherwise? = some label →
      ∃ second, draft.program.labels.get? label = some second ∧
      first + 2 ≤ second ∧ second ≤ last ∧
      draft.program.statements[second - 1]? = some (.goto finish)

/-- The labels, the statements and the open blocks of a draft fit together. -/
structure Wired (draft : Draft) : Prop where
  targets : ∀ {name target}, draft.program.labels.get? name = some target →
    target ≤ draft.size
  names : ∀ {name target}, draft.program.labels.get? name = some target →
    Text.StartsWithLetter name ∨ draft.Minted name
  numerals : ∀ {name}, draft.Minted name →
    ∃ target, draft.program.labels.get? name = some target
  starts : ∀ {first : Nat} {statement : Statement} {start},
    draft.program.statements[first]? = some statement →
    statement.start? = some start → draft.Minted start ∧
      draft.program.labels.get? start = some first
  branches : ∀ {first : Nat} {statement : Statement} {label},
    draft.program.statements[first]? = some statement →
    statement.otherwise? = some label → draft.Minted label
  ends : ∀ {first : Nat} {statement : Statement} {finish},
    draft.program.statements[first]? = some statement →
    statement.finish? = some finish → finish ≠ "" → draft.Ends first statement finish
  frames : ∀ frame ∈ draft.frames, draft.Opened frame
  ordered : draft.frames.Pairwise fun inner outer => outer.last < inner.index
  nested : ∀ {first last inner final}, draft.program.Closes first last →
    draft.program.Closes inner final → first < inner → last ≤ inner ∨ final ≤ last
  parted : ∀ {first second inner final}, draft.program.Divides first second →
    draft.program.Closes inner final → first < inner → final < second ∨ second ≤ inner
  closedBefore : ∀ {first last}, draft.program.Closes first last → ∀ frame ∈ draft.frames,
    first < frame.index →
    last ≤ frame.index
  dividedBefore : ∀ {first second}, draft.program.Divides first second →
    ∀ frame ∈ draft.frames, first < frame.index → second ≤ frame.index

/-- A draft with more statements and labels than another, and the same open blocks. Minted labels
keep their targets. -/
structure Grows (old new : Draft) : Prop where
  frames : new.frames = old.frames
  minted : old.minted ≤ new.minted
  size : old.size ≤ new.size
  kept : ∀ {index : Nat}, index < old.size →
    new.program.statements[index]? = old.program.statements[index]?
  labels : ∀ {name}, old.Minted name →
    new.program.labels.get? name = old.program.labels.get? name

/-- The statements of the new draft that the old one does not have open no closed block. -/
def Fresh (old new : Draft) : Prop :=
  ∀ {index : Nat} {statement : Statement}, old.size ≤ index →
    new.program.statements[index]? = some statement →
    statement.otherwise? = none ∧
    (∀ finish, statement.finish? = some finish → finish = "") ∧
    ∀ start, statement.start? = some start → new.Minted start ∧
      new.program.labels.get? start = some index

theorem Grows.minted_of {old new : Draft} (grows : Grows old new) {name : String}
    (minted : old.Minted name) :
    new.Minted name := by
  obtain ⟨number, less, rfl⟩ := minted
  exact ⟨number, Nat.lt_of_lt_of_le less grows.minted, rfl⟩

theorem lt_size {draft : Draft} {index : Nat} {statement : Statement}
    (found : draft.program.statements[index]? = some statement) : index < draft.size := by
  obtain ⟨less, -⟩ := Array.getElem?_eq_some_iff.mp found
  exact less

theorem Grows.closes {old new : Draft} (grows : Grows old new) (fresh : Fresh old new)
    (wired : old.Wired) {first last : Nat} (closes : new.program.Closes first last) :
    old.program.Closes first last := by
  obtain ⟨statement, finish, found, named, filled, target⟩ := closes
  rcases Nat.lt_or_ge first old.size with inside | outside
  · rw [grows.kept inside] at found
    obtain ⟨minted, -⟩ := wired.ends found named filled
    exact ⟨statement, finish, found, named, filled, grows.labels minted ▸ target⟩
  · exact absurd ((fresh outside found).2.1 finish named) filled

theorem Grows.divides {old new : Draft} (grows : Grows old new) (fresh : Fresh old new)
    (wired : old.Wired) {first second : Nat} (divides : new.program.Divides first second) :
    old.program.Divides first second := by
  obtain ⟨statement, label, found, named, target⟩ := divides
  rcases Nat.lt_or_ge first old.size with inside | outside
  · rw [grows.kept inside] at found
    exact ⟨statement, label, found, named, grows.labels (wired.branches found named) ▸ target⟩
  · exact nomatch (fresh outside found).1.symm.trans named

theorem Grows.statement {old new : Draft} (grows : Grows old new) {index : Nat}
    {statement : Statement} (found : old.program.statements[index]? = some statement) :
    new.program.statements[index]? = some statement := by
  rw [grows.kept (lt_size found)]
  exact found

theorem Grows.opened {old new : Draft} (grows : Grows old new) (wired : old.Wired) {frame : Frame}
    (opened : old.Opened frame) : new.Opened frame := by
  cases frame with
  | si index jump =>
    cases jump with
    | none =>
      obtain ⟨condition, found⟩ := opened
      exact ⟨condition, grows.statement found⟩
    | some jump =>
      obtain ⟨condition, label, found, less, target, jumps⟩ := opened
      have minted : old.Minted label := wired.branches found rfl
      exact ⟨condition, label, grows.statement found, less, (grows.labels minted).trans target,
        grows.statement jumps⟩
  | tantque index =>
    obtain ⟨condition, start, found⟩ := opened
    exact ⟨condition, start, grows.statement found⟩
  | pour index =>
    obtain ⟨init, condition, step, start, found⟩ := opened
    exact ⟨init, condition, step, start, grows.statement found⟩

/-- A draft that grows stays wired, if its table of labels is in order and what is new opens no
closed block. -/
theorem Grows.wired {old new : Draft} (grows : Grows old new) (fresh : Fresh old new)
    (wired : old.Wired) (targets : ∀ {name target}, new.program.labels.get? name = some target →
      target ≤ new.size)
    (names : ∀ {name target}, new.program.labels.get? name = some target →
      Text.StartsWithLetter name ∨ new.Minted name)
    (numerals : ∀ {name}, new.Minted name →
      ∃ target, new.program.labels.get? name = some target) : new.Wired where
  targets := targets
  names := names
  numerals := numerals
  starts := by
    intro first statement start found named
    rcases Nat.lt_or_ge first old.size with inside | outside
    · rw [grows.kept inside] at found
      obtain ⟨minted, target⟩ := wired.starts found named
      exact ⟨grows.minted_of minted, (grows.labels minted).trans target⟩
    · exact (fresh outside found).2.2 start named
  branches := by
    intro first statement label found named
    rcases Nat.lt_or_ge first old.size with inside | outside
    · rw [grows.kept inside] at found
      exact grows.minted_of (wired.branches found named)
    · exact nomatch (fresh outside found).1.symm.trans named
  ends := by
    intro first statement finish found named filled
    rcases Nat.lt_or_ge first old.size with inside | outside
    · rw [grows.kept inside] at found
      obtain ⟨minted, last, target, less, loops, divided⟩ := wired.ends found named filled
      refine ⟨grows.minted_of minted, last, (grows.labels minted).trans target, less, ?_, ?_⟩
      · intro start starts
        obtain ⟨room, jumps⟩ := loops start starts
        exact ⟨room, grows.statement jumps⟩
      · intro label branch
        obtain ⟨second, there, after, before, jumps⟩ := divided label branch
        have labelled := wired.branches found branch
        exact ⟨second, (grows.labels labelled).trans there, after, before,
          grows.statement jumps⟩
    · exact absurd ((fresh outside found).2.1 finish named) filled
  frames := by
    rw [grows.frames]
    exact fun frame member => grows.opened wired (wired.frames frame member)
  ordered := by
    rw [grows.frames]
    exact wired.ordered
  nested := fun closes inner =>
    wired.nested (grows.closes fresh wired closes) (grows.closes fresh wired inner)
  parted := fun divides inner =>
    wired.parted (grows.divides fresh wired divides) (grows.closes fresh wired inner)
  closedBefore := by
    rw [grows.frames]
    exact fun closes => wired.closedBefore (grows.closes fresh wired closes)
  dividedBefore := by
    rw [grows.frames]
    exact fun divides => wired.dividedBefore (grows.divides fresh wired divides)

/-! ## Statements and labels -/

/-- A draft with other errors is wired as before. -/
theorem Wired.withErrors {draft : Draft} (wired : draft.Wired) (errors : Array Diagnostic) :
    { draft with errors := errors }.Wired := by
  have grows : Grows draft { draft with errors := errors } :=
    ⟨rfl, Nat.le_refl _, Nat.le_refl _, fun _ => rfl, fun _ => rfl⟩
  refine grows.wired ?_ wired wired.targets wired.names wired.numerals
  intro index statement outside found
  exact absurd (lt_size found) (Nat.not_lt.mpr outside)

theorem grows_push (draft : Draft) (statement : Statement) :
    Grows draft (draft.push statement) where
  frames := rfl
  minted := Nat.le_refl _
  size := by simp [push, size]
  kept := fun inside => Array.getElem?_push_lt inside ▸ (Array.getElem?_eq_getElem inside).symm
  labels := fun _ => rfl

/-- What stands at the end of a draft after a statement was added is that statement. -/
theorem eq_of_push {draft : Draft} {statement other : Statement} {index : Nat}
    (outside : draft.size ≤ index)
    (found : (draft.push statement).program.statements[index]? = some other) :
    index = draft.size ∧ other = statement := by
  have inside := lt_size found
  have last : index = draft.size := by
    rw [push_eq_append, size_append] at inside
    exact Nat.le_antisymm (Nat.le_of_lt_succ inside) outside
  subst last
  rw [push_eq_append, getElem?_append_cons] at found
  exact ⟨rfl, (Option.some.inj found).symm⟩

/-- A statement that opens no block, or one that is not closed, is added. -/
theorem Wired.push {draft : Draft} (wired : draft.Wired) {statement : Statement}
    (whole : statement.otherwise? = none)
    (unfinished : ∀ finish, statement.finish? = some finish → finish = "")
    (starts : ∀ start, statement.start? = some start →
      draft.Minted start ∧ draft.program.labels.get? start = some draft.size) :
    (draft.push statement).Wired := by
  have grows := draft.grows_push statement
  refine grows.wired ?_ wired (fun found => Nat.le_trans (wired.targets found) grows.size)
    wired.names wired.numerals
  intro index other outside found
  obtain ⟨rfl, rfl⟩ := eq_of_push outside found
  exact ⟨whole, unfinished, starts⟩

theorem Wired.pushPlain {draft : Draft} (wired : draft.Wired) {statement : Statement}
    (plain : statement.finish? = none) : (draft.push statement).Wired := by
  have whole : statement.otherwise? = none ∧ statement.start? = none := by
    cases statement <;> first | exact ⟨rfl, rfl⟩ | exact nomatch plain
  refine wired.push whole.1 ?_ ?_
  · exact fun finish named => nomatch plain.symm.trans named
  · exact fun start named => nomatch whole.2.symm.trans named

/-- A minted label is not what starts with a letter. -/
theorem Minted.ne_of_letter {draft : Draft} {name label : String} (minted : draft.Minted name)
    (letter : Text.StartsWithLetter label) : name ≠ label := by
  obtain ⟨number, -, rfl⟩ := minted
  rintro rfl
  exact Text.not_startsWithLetter_toString number letter

/-- A minted label is none that is minted later. -/
theorem Minted.ne_of_le {draft : Draft} {name : String} (minted : draft.Minted name) {number : Nat}
    (later : draft.minted ≤ number) : name ≠ toString number := by
  obtain ⟨earlier, less, rfl⟩ := minted
  intro same
  have := Text.toString_injective same
  omega

theorem Minted.ne_empty {draft : Draft} {name : String} (minted : draft.Minted name) :
    name ≠ "" := by
  obtain ⟨number, -, rfl⟩ := minted
  exact Text.toString_ne_empty number

theorem grows_mark {draft : Draft} {label : String}
    (other : ∀ name, draft.Minted name → name ≠ label) :
    Grows draft (draft.mark label) where
  frames := rfl
  minted := Nat.le_refl _
  size := Nat.le_refl _
  kept := fun _ => rfl
  labels := by
    intro name minted
    simp only [mark, Table.get?_insert, if_neg (other name minted)]

theorem Wired.mark {draft : Draft} (wired : draft.Wired) {label : String}
    (letter : Text.StartsWithLetter label) :
    (draft.mark label).Wired := by
  have grows : Grows draft (draft.mark label) :=
    grows_mark fun name minted => minted.ne_of_letter letter
  refine grows.wired ?_ wired ?_ ?_ ?_
  · intro index statement outside found
    exact absurd (show index < draft.size from lt_size found) (Nat.not_lt.mpr outside)
  · intro name target found
    simp only [Draft.mark, Table.get?_insert] at found
    split at found
    · cases found
      exact Nat.le_refl _
    · exact wired.targets found
  · intro name target found
    simp only [Draft.mark, Table.get?_insert] at found
    split at found
    · next same => exact .inl (same ▸ letter)
    · exact wired.names found
  · intro name minted
    obtain ⟨target, found⟩ := wired.numerals minted
    exact ⟨target, (grows.labels minted).trans found⟩

theorem get?_mint (draft : Draft) (name : String) :
    draft.mint.program.labels.get? name =
      if name = toString draft.minted then some draft.size else draft.program.labels.get? name :=
  Table.get?_insert ..

theorem grows_mint (draft : Draft) : Grows draft draft.mint where
  frames := rfl
  minted := Nat.le_succ _
  size := Nat.le_refl _
  kept := fun _ => rfl
  labels := by
    intro name minted
    rw [get?_mint, if_neg (minted.ne_of_le (Nat.le_refl _))]

theorem Wired.mint {draft : Draft} (wired : draft.Wired) : draft.mint.Wired := by
  have grows := draft.grows_mint
  refine grows.wired ?_ wired ?_ ?_ ?_
  · intro index statement outside found
    exact absurd (show index < draft.size from lt_size found) (Nat.not_lt.mpr outside)
  · intro name target found
    rw [get?_mint] at found
    split at found
    · cases found
      exact Nat.le_refl _
    · exact wired.targets found
  · intro name target found
    rw [get?_mint] at found
    split at found
    · next same => exact .inr ⟨draft.minted, Nat.lt_succ_self _, same⟩
    · exact (wired.names found).imp_right grows.minted_of
  · rintro name ⟨number, less, rfl⟩
    rw [get?_mint]
    split
    · exact ⟨_, rfl⟩
    · next other =>
      have earlier : number < draft.minted := by
        rcases Nat.lt_or_eq_of_le (Nat.le_of_lt_succ less) with earlier | rfl
        · exact earlier
        · exact absurd rfl other
      exact wired.numerals ⟨number, earlier, rfl⟩

/-! ## Open blocks -/

theorem Wired.leave {draft : Draft} (wired : draft.Wired) : draft.leave.Wired where
  targets := wired.targets
  names := wired.names
  numerals := wired.numerals
  starts := wired.starts
  branches := wired.branches
  ends := wired.ends
  frames := fun frame member => wired.frames frame (List.mem_of_mem_tail member)
  ordered := wired.ordered.sublist (List.tail_sublist _)
  nested := wired.nested
  parted := wired.parted
  closedBefore :=
    fun closes frame member => wired.closedBefore closes frame (List.mem_of_mem_tail member)
  dividedBefore :=
    fun divides frame member => wired.dividedBefore divides frame (List.mem_of_mem_tail member)

/-- Every open block and every part of a block that starts before an index ends before it. -/
structure Clears (draft : Draft) (index : Nat) : Prop where
  frames : ∀ frame ∈ draft.frames, frame.last < index
  closed : ∀ {first last}, draft.program.Closes first last → first < index → last ≤ index
  divided : ∀ {first second}, draft.program.Divides first second → first < index →
    second ≤ index

theorem Wired.enter {draft : Draft} (wired : draft.Wired) {frame : Frame}
    (opened : draft.Opened frame) (clears : draft.Clears frame.index) :
    (draft.enter frame).Wired where
  targets := wired.targets
  names := wired.names
  numerals := wired.numerals
  starts := wired.starts
  branches := wired.branches
  ends := wired.ends
  frames := by
    intro other member
    rcases List.mem_cons.mp member with rfl | member
    · exact opened
    · exact wired.frames other member
  ordered := List.pairwise_cons.mpr ⟨clears.frames, wired.ordered⟩
  nested := wired.nested
  parted := wired.parted
  closedBefore := by
    intro first last closes other member
    rcases List.mem_cons.mp member with rfl | member
    · exact clears.closed closes
    · exact wired.closedBefore closes other member
  dividedBefore := by
    intro first second divides other member
    rcases List.mem_cons.mp member with rfl | member
    · exact clears.divided divides
    · exact wired.dividedBefore divides other member

/-- The innermost open block lies after the others and after what is closed before it. -/
theorem Wired.clears {draft : Draft} (wired : draft.Wired) {frame : Frame} {others : List Frame}
    (frames : draft.frames = frame :: others) : draft.leave.Clears frame.index where
  frames := by
    intro outer member
    have ordered := wired.ordered
    rw [frames] at ordered
    refine (List.pairwise_cons.mp ordered).1 outer ?_
    rw [Draft.leave, frames] at member
    exact member
  closed := fun closes less => wired.closedBefore closes frame (frames ▸ List.mem_cons_self) less
  divided :=
    fun divides less => wired.dividedBefore divides frame (frames ▸ List.mem_cons_self) less

/-! ## Changed statements -/

theorem getElem?_amend (draft : Draft) (index : Nat) (change : Statement → Statement)
    (other : Nat) :
    (draft.amend index change).program.statements[other]? =
      if index = other then draft.program.statements[other]?.map change else
        draft.program.statements[other]? :=
  Array.getElem?_modify

theorem size_amend (draft : Draft) (index : Nat) (change : Statement → Statement) :
    (draft.amend index change).size = draft.size :=
  Array.size_modify

theorem Opened.index_le_last {draft : Draft} {frame : Frame} (opened : draft.Opened frame) :
    frame.index ≤ frame.last := by
  cases frame with
  | si index jump =>
    cases jump with
    | none => exact Nat.le_refl _
    | some jump =>
      obtain ⟨_, _, _, less, _⟩ := opened
      exact Nat.le_of_lt less
  | tantque index => exact Nat.le_refl _
  | pour index => exact Nat.le_refl _

section

variable {draft : Draft} {index : Nat} {change : Statement → Statement} {statement : Statement}

/-- A statement of a changed draft is the changed one, or one of the draft before. -/
theorem amend_cases {other : Nat} {given : Statement}
    (found : draft.program.statements[index]? = some statement)
    (there : (draft.amend index change).program.statements[other]? = some given) :
    other = index ∧ given = change statement ∨ other ≠ index ∧
      draft.program.statements[other]? = some given := by
  rw [getElem?_amend] at there
  split at there
  · next same =>
    subst same
    rw [found] at there
    exact .inl ⟨rfl, (Option.some.inj there).symm⟩
  · next differs => exact .inr ⟨fun same => differs same.symm, there⟩

theorem amend_self (found : draft.program.statements[index]? = some statement) :
    (draft.amend index change).program.statements[index]? = some (change statement) := by
  rw [getElem?_amend, if_pos rfl, found]
  rfl

theorem amend_other {other : Nat} (differs : other ≠ index) :
    (draft.amend index change).program.statements[other]? = draft.program.statements[other]? := by
  rw [getElem?_amend, if_neg fun same => differs same.symm]

/-- Blocks at other places are closed in the changed draft when they were before. -/
theorem closes_of_amend {first last : Nat} (differs : first ≠ index)
    (closes : (draft.amend index change).program.Closes first last) :
    draft.program.Closes first last := by
  obtain ⟨given, finish, found, rest⟩ := closes
  exact ⟨given, finish, amend_other differs ▸ found, rest⟩

theorem divides_of_amend {first second : Nat} (differs : first ≠ index)
    (divides : (draft.amend index change).program.Divides first second) :
    draft.program.Divides first second := by
  obtain ⟨given, label, found, rest⟩ := divides
  exact ⟨given, label, amend_other differs ▸ found, rest⟩

/-- A block that is open stays so when no statement that it waits for is changed. -/
theorem Opened.amend {frame : Frame} (opened : draft.Opened frame) (before : frame.last < index) :
    (draft.amend index change).Opened frame := by
  have first : frame.index ≠ index :=
    Nat.ne_of_lt (Nat.lt_of_le_of_lt opened.index_le_last before)
  cases frame with
  | si first jump =>
    cases jump with
    | none =>
      obtain ⟨condition, there⟩ := opened
      exact ⟨condition, (amend_other first).trans there⟩
    | some jump =>
      obtain ⟨condition, label, there, less, target, jumps⟩ := opened
      exact ⟨condition, label, (amend_other first).trans there, less, target,
        (amend_other (Nat.ne_of_lt before)).trans jumps⟩
  | tantque first =>
    obtain ⟨condition, start, there⟩ := opened
    exact ⟨condition, start, (amend_other first).trans there⟩
  | pour first =>
    obtain ⟨init, condition, step, start, there⟩ := opened
    exact ⟨init, condition, step, start, (amend_other first).trans there⟩

theorem finish?_of_otherwise? {label : String} (named : statement.otherwise? = some label) :
    statement.finish? ≠ none := by
  cases statement <;> first | exact Option.some_ne_none _ | cases named

/-- A statement is changed that is no jump with a label. The open blocks lie before it. If it opens
a block afterwards, then so does all that starts before it, and the block covers what starts after
it. -/
theorem Wired.amend (wired : draft.Wired)
    (found : draft.program.statements[index]? = some statement)
    (noJump : ∀ label, statement = .goto label → label = "")
    (outer : ∀ frame ∈ draft.frames, frame.last < index)
    (clears : (change statement).finish? ≠ none → draft.Clears index)
    (starts : (change statement).start? = statement.start?)
    (branches : ∀ label, (change statement).otherwise? = some label → draft.Minted label)
    (ends : ∀ finish, (change statement).finish? = some finish → finish ≠ "" →
      draft.Ends index (change statement) finish)
    (covers : ∀ {last inner final}, (draft.amend index change).program.Closes index last →
      draft.program.Closes inner final → index < inner → last ≤ inner ∨ final ≤ last)
    (parts : ∀ {second inner final}, (draft.amend index change).program.Divides index second →
      draft.program.Closes inner final → index < inner → final < second ∨ second ≤ inner) :
    (draft.amend index change).Wired := by
  have jumps : ∀ {other : Nat} {label : String}, label ≠ "" →
      draft.program.statements[other]? = some (.goto label) →
      (draft.amend index change).program.statements[other]? = some (.goto label) := by
    intro other label filled there
    rw [amend_other ?_]
    · exact there
    · rintro rfl
      exact filled (noJump label (Option.some.inj (found.symm.trans there)))
  have kept : ∀ {first : Nat} {given : Statement} {finish : String},
      (∀ start, given.start? = some start → draft.Minted start) →
      draft.Ends first given finish →
      (draft.amend index change).Ends first given finish := by
    rintro first given finish loop ⟨minted, last, target, less, loops, divided⟩
    refine ⟨minted, last, target, less, ?_, ?_⟩
    · intro start named
      obtain ⟨room, there⟩ := loops start named
      exact ⟨room, jumps (loop start named).ne_empty there⟩
    · intro label named
      obtain ⟨second, there, after, before, jump⟩ := divided label named
      exact ⟨second, there, after, before, jumps minted.ne_empty jump⟩
  have isBlock : ∀ {last}, (draft.amend index change).program.Closes index last →
      (change statement).finish? ≠ none := by
    rintro last ⟨given, finish, there, named, -⟩ none
    cases (amend_self found).symm.trans there
    exact nomatch none.symm.trans named
  have isDivided : ∀ {second}, (draft.amend index change).program.Divides index second →
      (change statement).finish? ≠ none := by
    rintro second ⟨given, label, there, named, -⟩
    cases (amend_self found).symm.trans there
    exact finish?_of_otherwise? named
  have outside : ∀ frame ∈ draft.frames, frame.index < index := fun frame member =>
    Nat.lt_of_le_of_lt (wired.frames frame member).index_le_last (outer frame member)
  refine ⟨?_, wired.names, wired.numerals, ?_, ?_, ?_, ?_, wired.ordered, ?_, ?_, ?_, ?_⟩
  · intro name target there
    rw [size_amend]
    exact wired.targets there
  · intro first given start there named
    rcases amend_cases found there with ⟨rfl, rfl⟩ | ⟨-, there⟩
    · exact wired.starts found (starts ▸ named)
    · exact wired.starts there named
  · intro first given label there named
    rcases amend_cases found there with ⟨rfl, rfl⟩ | ⟨-, there⟩
    · exact branches label named
    · exact wired.branches there named
  · intro first given finish there named filled
    rcases amend_cases found there with ⟨rfl, rfl⟩ | ⟨-, there⟩
    · exact kept (fun start named => (wired.starts found (starts ▸ named)).1)
        (ends finish named filled)
    · exact kept (fun start named => (wired.starts there named).1) (wired.ends there named filled)
  · exact fun frame member => (wired.frames frame member).amend (outer frame member)
  · intro first last inner final closes inside less
    by_cases here : first = index
    · subst here
      exact covers closes (closes_of_amend (Nat.ne_of_gt less) inside) less
    · have before := closes_of_amend here closes
      by_cases there : inner = index
      · subst there
        exact .inl ((clears (isBlock inside)).closed before less)
      · exact wired.nested before (closes_of_amend there inside) less
  · intro first second inner final divides inside less
    by_cases here : first = index
    · subst here
      exact parts divides (closes_of_amend (Nat.ne_of_gt less) inside) less
    · have before := divides_of_amend here divides
      by_cases there : inner = index
      · subst there
        exact .inr ((clears (isBlock inside)).divided before less)
      · exact wired.parted before (closes_of_amend there inside) less
  · intro first last closes frame member less
    have := outside frame member
    exact wired.closedBefore (closes_of_amend (by omega) closes) frame member less
  · intro first second divides frame member less
    have := outside frame member
    exact wired.dividedBefore (divides_of_amend (by omega) divides) frame member less

/-- A jump without a label is filled in, when no open block waits for it. -/
theorem Wired.fillJump (wired : draft.Wired)
    (found : draft.program.statements[index]? = some (.goto ""))
    (outer : ∀ frame ∈ draft.frames, frame.last < index) (label : String) :
    (draft.amend index fun _ => .goto label).Wired := by
  refine wired.amend found ?_ outer ?_ rfl nofun nofun ?_ ?_
  · intro label same
    cases same
    rfl
  · exact fun isBlock => absurd rfl isBlock
  · rintro last inner final ⟨given, finish, there, named, -⟩
    cases (amend_self found).symm.trans there
    exact nomatch named
  · rintro second inner final ⟨given, label, there, named, -⟩
    cases (amend_self found).symm.trans there
    exact nomatch named

theorem withFinish_of_block (isBlock : statement.finish? ≠ none) (label : String) :
    (statement.withFinish label).start? = statement.start? ∧
    (statement.withFinish label).otherwise? = statement.otherwise? ∧
    (statement.withFinish label).finish? = some label := by
  cases statement <;> first | exact ⟨rfl, rfl, rfl⟩ | exact absurd rfl isBlock

/-- A block is closed at the end of the draft. -/
theorem Wired.finish (wired : draft.Wired)
    (found : draft.program.statements[index]? = some statement)
    (isBlock : statement.finish? ≠ none) (clears : draft.Clears index) {label : String}
    (minted : draft.Minted label) (target : draft.program.labels.get? label = some draft.size)
    (loops : ∀ start, statement.start? = some start →
      index + 2 ≤ draft.size ∧ draft.program.statements[draft.size - 1]? = some (.goto start))
    (divided : ∀ other, statement.otherwise? = some other →
      ∃ second, draft.program.labels.get? other = some second ∧
      index + 2 ≤ second ∧ second ≤ draft.size ∧
      draft.program.statements[second - 1]? = some (.goto label)) :
    (draft.amend index (.withFinish label)).Wired := by
  obtain ⟨starts, otherwises, finishes⟩ := withFinish_of_block isBlock label
  refine wired.amend found ?_ clears.frames (fun _ => clears) starts ?_ ?_ ?_ ?_
  · rintro other rfl
    exact absurd rfl isBlock
  · exact fun other named => wired.branches found (otherwises ▸ named)
  · intro finish named _
    cases finishes.symm.trans named
    refine ⟨minted, draft.size, target, lt_size found, ?_, ?_⟩
    · exact fun start named => loops start (starts ▸ named)
    · exact fun other named => divided other (otherwises ▸ named)
  · rintro last inner final ⟨given, finish, there, named, -, target'⟩
      ⟨_, _, _, _, _, inside⟩ -
    cases (amend_self found).symm.trans there
    cases finishes.symm.trans named
    cases target.symm.trans target'
    exact .inr (wired.targets inside)
  · rintro second inner final ⟨given, other, there, named, target'⟩
    cases (amend_self found).symm.trans there
    exact wired.parted ⟨statement, other, found, otherwises ▸ named, target'⟩

end

/-! ## Steps -/

theorem Opened.last_lt_size {draft : Draft} {frame : Frame} (opened : draft.Opened frame) :
    frame.last < draft.size := by
  cases frame with
  | si index jump =>
    cases jump with
    | none =>
      obtain ⟨_, found⟩ := opened
      exact lt_size found
    | some jump =>
      obtain ⟨_, _, _, _, _, found⟩ := opened
      exact lt_size found
  | tantque index =>
    obtain ⟨_, _, found⟩ := opened
    exact lt_size found
  | pour index =>
    obtain ⟨_, _, _, _, found⟩ := opened
    exact lt_size found

/-- A block is opened at the end of the draft. -/
theorem Wired.begin {draft : Draft} (wired : draft.Wired) {statement : Statement} {frame : Frame}
    (whole : statement.otherwise? = none) (unfinished : statement.finish? = some "")
    (starts : ∀ start, statement.start? = some start →
      draft.Minted start ∧ draft.program.labels.get? start = some draft.size)
    (atEnd : frame.index = draft.size) (opened : (draft.push statement).Opened frame) :
    ((draft.push statement).enter frame).Wired := by
  have grows := draft.grows_push statement
  have fresh : Fresh draft (draft.push statement) := by
    intro index other outside found
    obtain ⟨rfl, rfl⟩ := eq_of_push outside found
    exact ⟨whole, fun finish named => (Option.some.inj (unfinished.symm.trans named)).symm,
      starts⟩
  have pushed := wired.push whole
    (fun finish named => (Option.some.inj (unfinished.symm.trans named)).symm) starts
  refine pushed.enter opened ⟨?_, ?_, ?_⟩
  · intro other member
    rw [atEnd]
    exact (wired.frames other member).last_lt_size
  · intro first last closes _
    obtain ⟨_, _, _, _, _, target⟩ := grows.closes fresh wired closes
    rw [atEnd]
    exact wired.targets target
  · intro first second divides _
    obtain ⟨_, _, _, _, target⟩ := grows.divides fresh wired divides
    rw [atEnd]
    exact wired.targets target

/-- What was added last stands at the former end. -/
theorem getElem?_push_size (draft : Draft) (statement : Statement) :
    (draft.push statement).program.statements[draft.size]? = some statement := by
  rw [push_eq_append, getElem?_append_cons]

/-- The label that was minted last is at the end. -/
theorem minted_mint (draft : Draft) :
    draft.mint.Minted (toString draft.minted) ∧
      draft.mint.program.labels.get? (toString draft.minted) = some draft.size := by
  refine ⟨⟨draft.minted, Nat.lt_succ_self _, rfl⟩, ?_⟩
  rw [get?_mint, if_pos rfl]

theorem Wired.openBlock {draft : Draft} (wired : draft.Wired) (header : Header) :
    (draft.openBlock header).Wired := by
  cases header with
  | si condition =>
    exact wired.begin rfl rfl nofun rfl ⟨condition, draft.getElem?_push_size _⟩
  | tantque condition =>
    refine wired.mint.begin rfl rfl ?_ rfl ⟨condition, _, draft.mint.getElem?_push_size _⟩
    rintro start ⟨⟩
    exact draft.minted_mint
  | pour init condition step =>
    refine wired.mint.begin rfl rfl ?_ rfl ⟨init, condition, step, _,
      draft.mint.getElem?_push_size _⟩
    rintro start ⟨⟩
    exact draft.minted_mint

/-- The innermost loop is closed. -/
theorem Wired.closeLoop {draft : Draft} (wired : draft.Wired) {frame : Frame} {others : List Frame}
    (inside : draft.frames = frame :: others) {statement : Statement} {start : String}
    (found : draft.program.statements[frame.index]? = some statement)
    (isBlock : statement.finish? ≠ none) (whole : statement.otherwise? = none)
    (starts : statement.start? = some start) :
    (draft.closeLoop frame.index).Wired := by
  have jumps : draft.loopStart frame.index = start := by
    rw [loopStart, found, Option.bind_some, starts]
    rfl
  let jumped := draft.push (.goto start)
  have pushed : jumped.Wired := wired.pushPlain rfl
  have size : jumped.size = draft.size + 1 := by
    simp [jumped, push_eq_append]
  obtain ⟨minted, target⟩ := jumped.minted_mint
  have closed :
      (jumped.mint.leave.amend frame.index (.withFinish (toString draft.minted))).Wired := by
    refine pushed.mint.leave.finish ((draft.grows_push _).statement found) isBlock
      (pushed.mint.clears inside) minted target ?_ ?_
    · intro other same
      cases starts.symm.trans same
      refine ⟨?_, ?_⟩
      · have := lt_size found
        show _ ≤ jumped.size
        omega
      · show jumped.program.statements[jumped.size - 1]? = _
        rw [size]
        exact draft.getElem?_push_size _
    · exact fun other named => nomatch whole.symm.trans named
  unfold Draft.closeLoop
  rw [jumps]
  exact closed

/-- The innermost `si` is divided. -/
theorem Wired.divide {draft : Draft} (wired : draft.Wired) {index : Nat} {others : List Frame}
    (inside : draft.frames = .si index none :: others) : (draft.divide index).Wired := by
  obtain ⟨condition, found⟩ := wired.frames (.si index none) (inside ▸ List.mem_cons_self)
  let jumped := draft.push (.goto "")
  have grows : Grows draft jumped := draft.grows_push _
  have pushed : jumped.Wired := wired.pushPlain rfl
  have size : jumped.size = draft.size + 1 := by
    simp [jumped, push_eq_append]
  obtain ⟨minted, target⟩ := jumped.minted_mint
  have clears := pushed.mint.clears inside
  have there : jumped.mint.leave.program.statements[index]? = some (.si condition none "") :=
    grows.statement found
  -- No block that was closed before reaches behind the jump.
  have before : ∀ {inner final}, jumped.mint.leave.program.Closes inner final →
      final ≤ draft.size := by
    intro inner final closes
    have fresh : Fresh draft jumped := by
      intro place other outside there
      obtain ⟨-, rfl⟩ := eq_of_push outside there
      exact ⟨rfl, nofun, nofun⟩
    have fresh' : Fresh jumped jumped.mint := fun outside there =>
      absurd (show _ < jumped.size from lt_size there) (Nat.not_lt.mpr outside)
    obtain ⟨_, _, _, _, _, target⟩ :=
      grows.closes fresh wired (jumped.grows_mint.closes fresh' pushed closes)
    exact wired.targets target
  let label := toString draft.minted
  have divided : (jumped.mint.leave.amend index (.withOtherwise label)).Wired := by
    refine pushed.mint.leave.amend there nofun clears.frames (fun _ => clears) rfl ?_ ?_ ?_ ?_
    · rintro other ⟨⟩
      exact minted
    · rintro finish ⟨⟩ filled
      exact absurd rfl filled
    · rintro last inner final ⟨given, finish, found, named, filled, -⟩
      cases (amend_self there).symm.trans found
      cases named
      exact absurd rfl filled
    · rintro second inner final ⟨given, other, found, named, target'⟩ closes -
      cases (amend_self there).symm.trans found
      cases named
      cases target.symm.trans target'
      have := before closes
      exact .inl (by omega)
  refine divided.enter ⟨condition, label, amend_self there, lt_size found, ?_, ?_⟩
    ⟨clears.frames, ?_, ?_⟩
  · rw [← size]
    exact target
  · rw [amend_other (Nat.ne_of_gt (lt_size found))]
    exact draft.getElem?_push_size _
  · intro first last closes less
    exact clears.closed (closes_of_amend (Nat.ne_of_lt less) closes) less
  · intro first second divides less
    exact clears.divided (divides_of_amend (Nat.ne_of_lt less) divides) less

/-- The innermost `si` is closed. -/
theorem Wired.closeSi {draft : Draft} (wired : draft.Wired) {index : Nat} {jump : Option Nat}
    {others : List Frame} (inside : draft.frames = .si index jump :: others) :
    (draft.closeSi index jump).Wired := by
  have opened := wired.frames (.si index jump) (inside ▸ List.mem_cons_self)
  obtain ⟨minted, target⟩ := draft.minted_mint
  have clears := wired.mint.clears inside
  cases jump with
  | none =>
    obtain ⟨condition, found⟩ := opened
    exact wired.mint.leave.finish found nofun clears minted target nofun nofun
  | some jump =>
    obtain ⟨condition, label, found, less, second, jumps⟩ := opened
    have outer : ∀ frame ∈ draft.mint.leave.frames, frame.last < jump := fun frame member =>
      Nat.lt_trans (clears.frames frame member) less
    have filled := wired.mint.leave.fillJump jumps outer (toString draft.minted)
    refine filled.finish ((amend_other (Nat.ne_of_lt less)).trans found) nofun
      ⟨clears.frames, ?_, ?_⟩ minted ?_ nofun ?_
    · intro first last closes before
      exact clears.closed (closes_of_amend (Nat.ne_of_lt (Nat.lt_trans before less)) closes) before
    · intro first last divides before
      exact clears.divided (divides_of_amend (Nat.ne_of_lt (Nat.lt_trans before less)) divides)
        before
    · rw [size_amend]
      exact target
    · rintro other ⟨⟩
      refine ⟨jump + 1, (draft.grows_mint.labels (wired.branches found rfl)).trans second, ?_, ?_,
        amend_self jumps⟩
      · omega
      · rw [size_amend]
        exact lt_size jumps

/-- One item is laid out. -/
theorem Wired.addItem {draft : Draft} (wired : draft.Wired) {item : Item} (sound : item.Sound) :
    (draft.addItem item).Wired := by
  have change := draft.change_addItem item
  generalize draft.addItem item = after at change
  cases change with
  | label name => exact wired.mark sound
  | statement statement => exact wired.pushPlain sound
  | opening header => exact wired.openBlock header
  | divide inside => exact wired.divide inside
  | closeSi inside => exact wired.closeSi inside
  | @closeTantque index _ _ inside =>
    obtain ⟨condition, start, found⟩ :=
      wired.frames (.tantque index) (inside ▸ List.mem_cons_self)
    have starts : (Statement.tantque condition start "").start? = some start := rfl
    have closed := wired.closeLoop inside found nofun rfl starts
    exact closed
  | @closePour index _ _ inside =>
    obtain ⟨init, condition, step, start, found⟩ :=
      wired.frames (.pour index) (inside ▸ List.mem_cons_self)
    have starts : (Statement.pour init condition step start "").start? = some start := rfl
    have closed := wired.closeLoop inside found nofun rfl starts
    exact closed
  | reject => exact wired.withErrors _
  | void => exact wired

theorem wired_empty : ({} : Draft).Wired where
  targets := nofun
  names := nofun
  numerals := by
    rintro name ⟨number, less, -⟩
    exact absurd less (Nat.not_lt_zero number)
  starts := by simp
  branches := by simp
  ends := by simp
  frames := nofun
  ordered := .nil
  nested := by simp [Program.Closes]
  parted := by simp [Program.Closes]
  closedBefore := by simp
  dividedBefore := by simp

/-- Every draft of sound items is wired. -/
theorem wired_foldl {items : List (Item × List Finding)} {draft : Draft} (wired : draft.Wired)
    (sound : ∀ entry ∈ items, entry.1.Sound) : (items.foldl add draft).Wired := by
  induction items generalizing draft with
  | nil => exact wired
  | cons entry items ih =>
    refine ih ?_ fun other member => sound other (List.mem_cons_of_mem _ member)
    exact (wired.withErrors _).addItem (sound entry List.mem_cons_self)

end Draft

end RobotScript
