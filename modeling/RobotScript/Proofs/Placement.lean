import RobotScript.Proofs.Grammar
import RobotScript.Proofs.Token

/-!
# Scripts in their places

`Script.LaidOut` says that the statements of a script stand in a program from some index on and that
the labels of its blocks lead where the layout means them to. A part of a script that is laid out is
laid out in its own place: there is one lemma for each kind of block, and it also gives the
statements that open, divide and close the block.

`Script.laidOut_program` says that a whole script is laid out in its program. The labels of blocks
are numerals, each is set once, and no label that a script defines is one.
-/

namespace RobotScript

/-! ## Tables of labels -/

/-- After a list of writes that agree on a key, the key has their value. -/
theorem Table.get?_foldl_insert {κ α : Type} [DecidableEq κ] {entries : List (κ × α)}
    {table : Table κ α} {key : κ} {value : α}
    (unique : ∀ other, (key, other) ∈ entries → other = value)
    (present : table.get? key = some value ∨ (key, value) ∈ entries) :
    (entries.foldl (fun table entry => table.insert entry.1 entry.2) table).get? key =
      some value := by
  induction entries generalizing table with
  | nil => exact present.resolve_right nofun
  | cons entry rest ih =>
    refine ih (fun other member => unique other (List.mem_cons_of_mem _ member)) ?_
    rw [get?_insert]
    by_cases same : key = entry.1
    · rw [if_pos same, unique entry.2 (same ▸ List.mem_cons_self)]
      exact .inl rfl
    · rw [if_neg same]
      exact present.imp_right fun member =>
        (List.mem_cons.mp member).resolve_left fun here => same (congrArg Prod.fst here)

/-- The numerals among the labels lie between two bounds, and each has one target. -/
structure Numbered (least bound : Nat) (labels : List (String × Nat)) : Prop where
  ordered : least ≤ bound
  bounds : ∀ {number target : Nat}, (toString number, target) ∈ labels → least ≤ number ∧
    number < bound
  unique : ∀ {number target other : Nat}, (toString number, target) ∈ labels →
    (toString number, other) ∈ labels → target = other

theorem Numbered.nil (least : Nat) : Numbered least least [] :=
  ⟨Nat.le_refl _, nofun, nofun⟩

theorem Numbered.append {least middle bound : Nat} {first second : List (String × Nat)}
    (lower : Numbered least middle first) (upper : Numbered middle bound second) :
    Numbered least bound (first ++ second) where
  ordered := Nat.le_trans lower.ordered upper.ordered
  bounds := by
    intro number target member
    rcases List.mem_append.mp member with member | member
    · exact ⟨(lower.bounds member).1, Nat.lt_of_lt_of_le (lower.bounds member).2 upper.ordered⟩
    · exact ⟨Nat.le_trans lower.ordered (upper.bounds member).1, (upper.bounds member).2⟩
  unique := by
    intro number target other one two
    rcases List.mem_append.mp one with one | one <;> rcases List.mem_append.mp two with two | two
    · exact lower.unique one two
    · exact absurd (upper.bounds two).1 (Nat.not_le.mpr (lower.bounds one).2)
    · exact absurd (upper.bounds one).1 (Nat.not_le.mpr (lower.bounds two).2)
    · exact upper.unique one two

/-- A numeral below all others. -/
theorem Numbered.cons {number bound target : Nat} {labels : List (String × Nat)}
    (upper : Numbered (number + 1) bound labels) :
    Numbered number bound ((toString number, target) :: labels) := by
  have single : Numbered number (number + 1) [(toString number, target)] := by
    refine ⟨Nat.le_succ _, ?_, ?_⟩
    · intro other place member
      obtain ⟨same, -⟩ := Prod.mk.inj (List.mem_singleton.mp member)
      rw [Text.toString_injective same]
      exact ⟨Nat.le_refl _, Nat.lt_succ_self _⟩
    · intro other place further one two
      exact (Prod.mk.inj ((List.mem_singleton.mp one).trans (List.mem_singleton.mp two).symm)).2
  exact single.append upper

/-- A label that starts with a letter is no numeral. -/
theorem Numbered.letter {least bound target : Nat} {name : String} {labels : List (String × Nat)}
    (letter : Text.StartsWithLetter name) (others : Numbered least bound labels) :
    Numbered least bound ((name, target) :: labels) := by
  have later : ∀ {number place : Nat}, (toString number, place) ∈ (name, target) :: labels →
      (toString number, place) ∈ labels := by
    intro number place member
    refine (List.mem_cons.mp member).resolve_left fun here => ?_
    exact Text.not_startsWithLetter_toString number ((Prod.mk.inj here).1 ▸ letter)
  exact ⟨others.ordered, fun member => others.bounds (later member),
    fun one two => others.unique (later one) (later two)⟩

namespace Script

/-- The labels that a script defines start with a letter. -/
def Lettered : Script → Prop
  | empty => True
  | label name rest => Text.StartsWithLetter name ∧ rest.Lettered
  | simple _ rest => rest.Lettered
  | si _ body rest => body.Lettered ∧ rest.Lettered
  | siSinon _ body alternative rest => body.Lettered ∧ alternative.Lettered ∧ rest.Lettered
  | tantque _ body rest => body.Lettered ∧ rest.Lettered
  | pour _ _ _ body rest => body.Lettered ∧ rest.Lettered

/-- The labels of the blocks of a script are the numerals that are minted for it. -/
theorem numbered_labels {script : Script} (lettered : script.Lettered) (start minted : Nat) :
    Numbered minted (minted + script.mints) (script.labels start minted) := by
  induction script generalizing start minted with
  | empty => exact .nil minted
  | label name rest ih => exact .letter lettered.1 (ih lettered.2 start minted)
  | simple item rest ih => exact ih lettered (start + 1) minted
  | si condition body rest ihBody ihRest =>
    have later := ihRest lettered.2 (start + 1 + body.size) (minted + body.mints + 1)
    rw [show minted + (si condition body rest).mints = minted + body.mints + 1 + rest.mints by
      simp only [mints]; omega]
    exact (ihBody lettered.1 (start + 1) minted).append later.cons
  | siSinon condition body alternative rest ihBody ihAlternative ihRest =>
    have second := ihAlternative lettered.2.1 (start + 1 + body.size + 1) (minted + body.mints + 1)
    have later := ihRest lettered.2.2 (start + 1 + body.size + 1 + alternative.size)
      (minted + body.mints + 1 + alternative.mints + 1)
    rw [show minted + (siSinon condition body alternative rest).mints =
      minted + body.mints + 1 + alternative.mints + 1 + rest.mints by simp only [mints]; omega]
    simp only [labels, List.append_assoc, List.cons_append]
    exact (ihBody lettered.1 (start + 1) minted).append (second.append later.cons).cons
  | tantque condition body rest ihBody ihRest =>
    have later := ihRest lettered.2 (start + 1 + body.size + 1) (minted + 1 + body.mints + 1)
    rw [show minted + (tantque condition body rest).mints =
        minted + 1 + body.mints + 1 + rest.mints by
      simp only [mints]; omega]
    exact ((ihBody lettered.1 (start + 1) (minted + 1)).append later.cons).cons
  | pour init condition step body rest ihBody ihRest =>
    have later := ihRest lettered.2 (start + 1 + body.size + 1) (minted + 1 + body.mints + 1)
    rw [show minted + (pour init condition step body rest).mints =
        minted + 1 + body.mints + 1 + rest.mints by
      simp only [mints]; omega]
    exact ((ihBody lettered.1 (start + 1) (minted + 1)).append later.cons).cons

end Script

/-! ## Pieces of a program -/

/-- The statements stand in a program from an index on. -/
def Program.Holds (program : Program) (start : Nat) (statements : List Statement) : Prop :=
  ∀ offset statement, statements[offset]? = some statement →
    program.statements[start + offset]? = some statement

namespace Program

variable {program : Program} {start : Nat}

theorem Holds.append {first second : List Statement}
    (holds : program.Holds start (first ++ second)) :
    program.Holds start first ∧ program.Holds (start + first.length) second := by
  constructor
  · intro offset statement found
    have inside : offset < first.length := (List.getElem?_eq_some_iff.mp found).1
    exact holds offset statement ((List.getElem?_append_left inside).trans found)
  · intro offset statement found
    rw [Nat.add_assoc]
    refine holds (first.length + offset) statement ?_
    rw [List.getElem?_append_right (Nat.le_add_right ..), Nat.add_sub_cancel_left, found]

theorem Holds.cons {statement : Statement} {rest : List Statement}
    (holds : program.Holds start (statement :: rest)) :
    program.statements[start]? = some statement ∧ program.Holds (start + 1) rest :=
  ⟨holds 0 statement rfl, (show program.Holds start ([statement] ++ rest) from holds).append.2⟩

end Program

namespace Script

/-- The script stands in the program from the statement `start` on, and the labels of its blocks
have their targets, where `minted` labels have been minted before it. -/
structure LaidOut (program : Program) (start minted : Nat) (script : Script) : Prop where
  statements : program.Holds start (script.statements minted)
  labels : ∀ {number target : Nat}, (toString number, target) ∈ script.labels start minted →
    program.labels.get? (toString number) = some target

/-- A script is laid out in its program. -/
theorem laidOut_program {script : Script} (lettered : script.Lettered) :
    LaidOut script.program 0 0 script where
  statements := by
    intro offset statement found
    rw [Nat.zero_add, program, List.getElem?_toArray]
    exact found
  labels := by
    intro number target member
    refine Table.get?_foldl_insert (fun other again => ?_) (.inr member)
    exact (numbered_labels lettered 0 0).unique again member

section Parts

variable {program : Program} {start minted : Nat} {condition : Expr}
  {body alternative rest : Script}

theorem LaidOut.label {name : String} (laid : LaidOut program start minted (label name rest)) :
    LaidOut program start minted rest :=
  ⟨laid.statements, fun member => laid.labels (List.mem_cons_of_mem _ member)⟩

theorem LaidOut.simple {item : Simple} (laid : LaidOut program start minted (simple item rest)) :
    program.statements[start]? = some item.statement ∧
      LaidOut program (start + 1) minted rest := by
  obtain ⟨here, after⟩ := laid.statements.cons
  exact ⟨here, after, laid.labels⟩

/-- A `si` without a second branch: its opening statement, its body, and the label of its end. -/
theorem LaidOut.si (laid : LaidOut program start minted (si condition body rest)) :
    ∃ finish inner later, program.statements[start]? = some (.si condition none finish) ∧
      program.labels.get? finish = some (start + 1 + body.size) ∧
      LaidOut program (start + 1) inner body ∧
      LaidOut program (start + 1 + body.size) later rest := by
  obtain ⟨holds, labels⟩ := laid
  simp only [Script.statements, Script.labels, List.cons_append, List.mem_append, List.mem_cons]
    at holds labels
  obtain ⟨opening, holds⟩ := holds.cons
  obtain ⟨inside, after⟩ := holds.append
  rw [length_statements] at after
  refine ⟨_, _, _, opening, labels (.inr (.inl rfl)), ⟨inside, ?_⟩, ⟨after, ?_⟩⟩
  · exact fun member => labels (.inl member)
  · exact fun member => labels (.inr (.inr member))

/-- A `si` with a second branch: the jump over the second branch, and the labels of that branch and
of the end. -/
theorem LaidOut.siSinon
    (laid : LaidOut program start minted (siSinon condition body alternative rest)) :
    ∃ otherwise finish inner other later,
      program.statements[start]? = some (.si condition (some otherwise) finish) ∧
      program.statements[start + 1 + body.size]? = some (.goto finish) ∧
      program.labels.get? otherwise = some (start + 1 + body.size + 1) ∧
      program.labels.get? finish = some (start + 1 + body.size + 1 + alternative.size) ∧
      LaidOut program (start + 1) inner body ∧
      LaidOut program (start + 1 + body.size + 1) other alternative ∧
      LaidOut program (start + 1 + body.size + 1 + alternative.size) later rest := by
  obtain ⟨holds, labels⟩ := laid
  simp only [Script.statements, Script.labels, List.cons_append, List.append_assoc, List.mem_append,
    List.mem_cons] at holds labels
  obtain ⟨opening, holds⟩ := holds.cons
  obtain ⟨inside, holds⟩ := holds.append
  rw [length_statements] at holds
  obtain ⟨jump, holds⟩ := holds.cons
  obtain ⟨second, after⟩ := holds.append
  rw [length_statements] at after
  refine ⟨_, _, _, _, _, opening, jump, labels (.inr (.inl rfl)),
    labels (.inr (.inr (.inr (.inl rfl)))), ⟨inside, ?_⟩, ⟨second, ?_⟩, ⟨after, ?_⟩⟩
  · exact fun member => labels (.inl member)
  · exact fun member => labels (.inr (.inr (.inl member)))
  · exact fun member => labels (.inr (.inr (.inr (.inr member))))

/-- A loop with some opening statement: its body, the jump back, and the labels of its start and its
end. -/
def Looped (program : Program) (start : Nat) (opening : String → String → Statement)
    (body rest : Script) : Prop :=
  ∃ first finish inner later, program.statements[start]? = some (opening first finish) ∧
    program.statements[start + 1 + body.size]? = some (.goto first) ∧
    program.labels.get? first = some start ∧
    program.labels.get? finish = some (start + 1 + body.size + 1) ∧
    LaidOut program (start + 1) inner body ∧
    LaidOut program (start + 1 + body.size + 1) later rest

/-- Both kinds of loops have the same parts. -/
theorem LaidOut.loop {script : Script} (laid : LaidOut program start minted script)
    (opening : String → String → Statement) (body rest : Script)
    (statements : script.statements minted =
      opening (toString minted) (toString (minted + 1 + body.mints)) ::
      (body.statements (minted + 1) ++
        .goto (toString minted) :: rest.statements (minted + 1 + body.mints + 1)))
    (labels : script.labels start minted =
      (toString minted, start) :: (body.labels (start + 1) (minted + 1) ++
        (toString (minted + 1 + body.mints), start + 1 + body.size + 1) ::
          rest.labels (start + 1 + body.size + 1) (minted + 1 + body.mints + 1))) :
    Looped program start opening body rest := by
  obtain ⟨holds, targets⟩ := laid
  rw [statements] at holds
  simp only [labels, List.mem_append, List.mem_cons] at targets
  obtain ⟨opens, holds⟩ := holds.cons
  obtain ⟨inside, holds⟩ := holds.append
  rw [length_statements] at holds
  obtain ⟨jump, after⟩ := holds.cons
  refine ⟨_, _, _, _, opens, jump, targets (.inl rfl), targets (.inr (.inr (.inl rfl))),
    ⟨inside, ?_⟩, ⟨after, ?_⟩⟩
  · exact fun member => targets (.inr (.inl member))
  · exact fun member => targets (.inr (.inr (.inr member)))

end Parts

end Script

/-- A script that derives from tokens defines labels of these tokens. -/
theorem Grammar.Derives.lettered {assigned written : List String} {tokens rest : List Token}
    {script : Script} (derives : Derives assigned tokens script written rest)
    (letters : ∀ token ∈ tokens, token.kind = .label → Text.StartsWithLetter token.text) :
    script.Lettered := by
  -- What holds of all tokens holds of those that are left.
  have narrow : ∀ {tokens rest : List Token}, Spends tokens rest →
      (∀ token ∈ tokens, token.kind = .label → Text.StartsWithLetter token.text) →
      ∀ token ∈ rest, token.kind = .label → Text.StartsWithLetter token.text :=
    fun spends letters token member => letters token (spends.mem member)
  induction derives with
  | empty => trivial
  | lineBreak isBreak later ih => exact ih (narrow (.cons isBreak (by decide) (.refl _)) letters)
  | label isLabel later ih =>
    exact ⟨letters _ List.mem_cons_self isLabel,
      ih (narrow (.cons isLabel (by decide) (.refl _)) letters)⟩
  | simple forms later ih => exact ih (narrow forms.spends letters)
  | si opens inside ends later ihInside ihLater =>
    exact ⟨ihInside (narrow opens.spends letters),
      ihLater (narrow (opens.spends.trans (inside.spends.trans ends.spends)) letters)⟩
  | siSinon opens inside divides other ends later ihInside ihOther ihLater =>
    have second := opens.spends.trans (inside.spends.trans divides.spends)
    exact ⟨ihInside (narrow opens.spends letters), ihOther (narrow second letters),
      ihLater (narrow (second.trans (other.spends.trans ends.spends)) letters)⟩
  | tantque opens inside ends later ihInside ihLater =>
    exact ⟨ihInside (narrow opens.spends letters),
      ihLater (narrow (opens.spends.trans (inside.spends.trans ends.spends)) letters)⟩
  | pour opens inside ends later ihInside ihLater =>
    exact ⟨ihInside (narrow opens.spends letters),
      ihLater (narrow (opens.spends.trans (inside.spends.trans ends.spends)) letters)⟩

end RobotScript
