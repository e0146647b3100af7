import RobotScript.Proofs.Wiring.Draft

/-!
# Wired programs

`Parse.blocks_wired` is the main result: in the program of every script, faulty or not, the labels
of blocks lead where the layout means them to, and closed blocks lie in one another or apart. It
follows from the invariant of drafts. That minted labels keep their targets is shown item by item,
as in `persists_addItem`: a label that a script defines starts with a letter, so it is no numeral.
That no label of a script without an error is empty follows from its derivation.
-/

namespace RobotScript

namespace Draft

/-! ## Minted labels stay -/

/-- Labels that were minted in the old draft have the same targets in the new one. -/
structure Persists (old new : Draft) : Prop where
  minted : old.minted ≤ new.minted
  labels : ∀ {name}, old.Minted name →
    new.program.labels.get? name = old.program.labels.get? name

theorem Persists.trans {old middle new : Draft} (first : Persists old middle)
    (second : Persists middle new) :
    Persists old new where
  minted := Nat.le_trans first.minted second.minted
  labels := by
    rintro name ⟨number, less, rfl⟩
    have later : middle.Minted (toString number) :=
      ⟨number, Nat.lt_of_lt_of_le less first.minted, rfl⟩
    rw [second.labels later, first.labels ⟨number, less, rfl⟩]

theorem Grows.persists {old new : Draft} (grows : Grows old new) : Persists old new :=
  ⟨grows.minted, grows.labels⟩

/-- One item mints its own labels and leaves the others, whatever labels a script defines. -/
theorem persists_addItem (draft : Draft) {item : Item} (sound : item.Sound) :
    Persists draft (draft.addItem item) := by
  have change := draft.change_addItem item
  generalize draft.addItem item = after at change
  have refl : Persists draft draft := ⟨Nat.le_refl _, fun _ => rfl⟩
  have minted := draft.grows_mint.persists
  have jumped : ∀ statement, Persists draft (draft.push statement).mint := fun statement =>
    (draft.grows_push statement).persists.trans (draft.push statement).grows_mint.persists
  cases change with
  | label name => exact (grows_mark fun other minted => minted.ne_of_letter sound).persists
  | statement statement => exact (draft.grows_push statement).persists
  | opening header =>
    cases header with
    | si condition => exact ⟨refl.minted, refl.labels⟩
    | tantque condition => exact ⟨minted.minted, minted.labels⟩
    | pour init condition step => exact ⟨minted.minted, minted.labels⟩
  | divide => exact ⟨(jumped _).minted, (jumped _).labels⟩
  | @closeSi _ jump =>
    cases jump with
    | none => exact ⟨minted.minted, minted.labels⟩
    | some jump => exact ⟨minted.minted, minted.labels⟩
  | closeTantque => exact ⟨(jumped _).minted, (jumped _).labels⟩
  | closePour => exact ⟨(jumped _).minted, (jumped _).labels⟩
  | reject => exact ⟨refl.minted, refl.labels⟩
  | void => exact refl

theorem persists_foldl {items : List (Item × List Finding)} (draft : Draft)
    (sound : ∀ entry ∈ items, entry.1.Sound) : Persists draft (items.foldl add draft) := by
  induction items generalizing draft with
  | nil => exact ⟨Nat.le_refl _, fun _ => rfl⟩
  | cons entry items ih =>
    refine .trans ?_ (ih _ fun other member => sound other (List.mem_cons_of_mem _ member))
    let reported :=
      draft.errors ++ entry.2.map (Finding.diagnose (draft.frames.head?.map Frame.block))
    have added :=
      persists_addItem { draft with errors := reported } (sound entry List.mem_cons_self)
    exact ⟨added.minted, added.labels⟩

end Draft

/-! ## Labels of a script without an error -/

/-- The statements of a script name labels to which the script jumps, and numerals. -/
theorem Script.labels_of_statements {script : Script} {minted : Nat} {statement : Statement}
    (member : statement ∈ script.statements minted) {label : String}
    (named : label ∈ statement.labels) :
    label ∈ script.jumps ∨ ∃ number : Nat, label = toString number := by
  induction script generalizing minted with
  | empty => exact nomatch member
  | label name rest ih => exact ih member
  | simple item rest ih =>
    simp only [statements, jumps, List.mem_cons, List.mem_append] at member ⊢
    rcases member with rfl | member
    · exact .inl (.inl named)
    · exact (ih member).imp_left .inr
  | si condition body rest ihBody ihRest =>
    simp only [statements, jumps, List.mem_cons, List.mem_append] at member ⊢
    rcases member with (rfl | member) | member
    · exact .inr ⟨_, List.mem_singleton.mp named⟩
    · exact (ihBody member).imp_left .inl
    · exact (ihRest member).imp_left .inr
  | siSinon condition body alternative rest ihBody ihAlternative ihRest =>
    simp only [statements, jumps, List.mem_cons, List.mem_append] at member ⊢
    rcases member with ((rfl | member) | rfl | member) | member
    · rcases List.mem_cons.mp named with rfl | named
      · exact .inr ⟨_, rfl⟩
      · exact .inr ⟨_, List.mem_singleton.mp named⟩
    · exact (ihBody member).imp_left fun inside => .inl (.inl inside)
    · exact .inr ⟨_, List.mem_singleton.mp named⟩
    · exact (ihAlternative member).imp_left fun inside => .inl (.inr inside)
    · exact (ihRest member).imp_left .inr
  | tantque condition body rest ihBody ihRest =>
    simp only [statements, jumps, List.mem_cons, List.mem_append] at member ⊢
    rcases member with (rfl | member) | rfl | member
    · rcases List.mem_cons.mp named with rfl | named
      · exact .inr ⟨_, rfl⟩
      · exact .inr ⟨_, List.mem_singleton.mp named⟩
    · exact (ihBody member).imp_left .inl
    · exact .inr ⟨_, List.mem_singleton.mp named⟩
    · exact (ihRest member).imp_left .inr
  | pour init condition step body rest ihBody ihRest =>
    simp only [statements, jumps, List.mem_cons, List.mem_append] at member ⊢
    rcases member with (rfl | member) | rfl | member
    · rcases List.mem_cons.mp named with rfl | named
      · exact .inr ⟨_, rfl⟩
      · exact .inr ⟨_, List.mem_singleton.mp named⟩
    · exact (ihBody member).imp_left .inl
    · exact .inr ⟨_, List.mem_singleton.mp named⟩
    · exact (ihRest member).imp_left .inr

/-! ## Programs -/

/-- The blocks of a program are wired by its labels.

* A label is at a statement or at the end.
* The start label of a loop is at the loop. A loop that is closed ends with a jump to its start.
* A `si` that is closed ends after its opening statement. If it is divided, its second branch starts
  right after a jump to its end.
* Of two closed blocks one lies before the other or in it, and if it lies in a divided `si`, then in
  one of its branches. -/
structure Program.BlocksWired (program : Program) : Prop where
  targets : ∀ name target, program.labels.get? name = some target →
    target ≤ program.statements.size
  loops : ∀ (first : Nat) (statement : Statement) (start finish : String),
    program.statements[first]? = some statement → statement.start? = some start →
    statement.finish? = some finish →
    program.labels.get? start = some first ∧
      (finish = "" ∨ ∃ last, program.labels.get? finish = some last ∧
        first + 2 ≤ last ∧ last ≤ program.statements.size ∧
        program.statements[last - 1]? = some (.goto start))
  branches : ∀ (first : Nat) (condition : Expr) (otherwise : Option String) (finish : String),
    program.statements[first]? = some (.si condition otherwise finish) → finish ≠ "" →
    ∃ last, program.labels.get? finish = some last ∧ first < last ∧
      last ≤ program.statements.size ∧
      ∀ label, otherwise = some label → ∃ second, program.labels.get? label = some second ∧
        first + 2 ≤ second ∧
        second ≤ last ∧ program.statements[second - 1]? = some (.goto finish)
  nested : ∀ first last inner final, program.Closes first last → program.Closes inner final →
    first < inner →
    last ≤ inner ∨ final ≤ last ∧ ∀ second, program.Divides first second →
      final < second ∨ second ≤ inner

theorem Draft.Wired.blocksWired {draft : Draft} (wired : draft.Wired) :
    draft.program.BlocksWired where
  targets := fun name target found => wired.targets found
  loops := by
    intro first statement start finish found starts named
    refine ⟨(wired.starts found starts).2, ?_⟩
    by_cases filled : finish = ""
    · exact .inl filled
    · obtain ⟨-, last, target, -, loops, -⟩ := wired.ends found named filled
      obtain ⟨room, jumps⟩ := loops start starts
      exact .inr ⟨last, target, room, wired.targets target, jumps⟩
  branches := by
    intro first condition otherwise finish found filled
    obtain ⟨-, last, target, less, -, divided⟩ := wired.ends found rfl filled
    exact ⟨last, target, less, wired.targets target, divided⟩
  nested := by
    intro first last inner final closes inside less
    refine (wired.nested closes inside less).imp_right fun within => ⟨within, ?_⟩
    exact fun second divides => wired.parted divides inside less

namespace Parse

theorem sound_readAll (source : String) :
    ∀ entry ∈ Item.readAll (Token.tokenize source), entry.1.Sound :=
  Item.sound_readFrom fun _ member isLabel => Token.startsWithLetter_of_mem member (.inr isLabel)

/-- The items of a script, with what is wrong with them. -/
def itemsOf (source : String) : List (Item × List Finding) :=
  Item.readAll (Token.tokenize (source ++ "\n\n"))

/-- Whatever a script holds and whatever is wrong with it, the blocks of its program are wired. The
minted labels are the numerals below some number, and each has in the program the target that it had
after the items up to its minting. If nothing is wrong, no label is empty. -/
theorem blocks_wired (source : String) :
    (Parse.ofSource source).program.BlocksWired ∧
    (∃ minted,
      (∀ number, ((Parse.ofSource source).program.labels.get? (toString number)).isSome ↔
        number < minted) ∧
      ∀ before after, itemsOf source = before ++ after →
        (Draft.ofItems before).minted ≤ minted ∧
        ∀ number < (Draft.ofItems before).minted,
          (Parse.ofSource source).program.labels.get? (toString number) =
          (Draft.ofItems before).program.labels.get? (toString number)) ∧
    ((Parse.ofSource source).errors = [] →
      (Parse.ofSource source).program.labels.get? "" = none ∧
      ∀ statement ∈ (Parse.ofSource source).program.statements, ∀ label ∈ statement.labels,
        label ≠ "") := by
  have sound : ∀ entry ∈ itemsOf source, entry.1.Sound := sound_readAll _
  have wired : (Draft.ofItems (itemsOf source)).Wired := Draft.wired_foldl Draft.wired_empty sound
  refine ⟨wired.blocksWired, ⟨(Draft.ofItems (itemsOf source)).minted, ?_, ?_⟩, ?_⟩
  · intro number
    rw [Option.isSome_iff_exists]
    constructor
    · rintro ⟨target, found⟩
      rcases wired.names found with letter | ⟨other, less, same⟩
      · exact absurd letter (Text.not_startsWithLetter_toString number)
      · rw [Text.toString_injective same]
        exact less
    · exact fun less => wired.numerals ⟨number, less, rfl⟩
  · intro before after same
    have later : ∀ entry ∈ after, entry.1.Sound := fun entry member =>
      sound entry (same ▸ List.mem_append_right _ member)
    have persists := Draft.persists_foldl (Draft.ofItems before) later
    have joined :
        after.foldl Draft.add (Draft.ofItems before) = Draft.ofItems (itemsOf source) := by
      rw [same, Draft.ofItems, Draft.ofItems, List.foldl_append]
    rw [joined] at persists
    exact ⟨persists.minted, fun number less => persists.labels ⟨number, less, rfl⟩⟩
  · intro clean
    obtain ⟨script, accepts⟩ := accepts_of_clean clean
    have laidOut : (Parse.ofSource source).program = script.program :=
      congrArg Parse.program (ofSource_of_accepts accepts)
    obtain ⟨written, mark, isEnd, derives⟩ := accepts
    refine ⟨?_, ?_⟩
    · rw [Option.eq_none_iff_forall_ne_some]
      intro target found
      rcases wired.names found with ⟨c, rest, same, -⟩ | minted
      · cases same
      · exact minted.ne_empty rfl
    · intro statement member label named
      rw [laidOut] at member
      rcases Script.labels_of_statements (List.mem_toArray.mp member) named with
        jumps | ⟨number, rfl⟩
      · obtain ⟨-, token, there, isWord, rfl⟩ := derives.jumps label jumps
        obtain ⟨c, rest, starts, -⟩ := Token.startsWithLetter_of_mem there (.inl isWord)
        intro empty
        rw [empty] at starts
        cases starts
      · exact Text.toString_ne_empty number

end Parse

end RobotScript
