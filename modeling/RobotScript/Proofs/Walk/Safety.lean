import RobotScript.Proofs.Walk.Reading
import RobotScript.Proofs.Walk.Frames
import RobotScript.Proofs.Grammar.Parse

/-!
# Walks are never broken off

A walk through any list of tokens gives the program that `Parse.ofTokens` gives, in a number of
steps that is linear in the number of tokens. Along the way every open block has its opening
statement and its jump, by `Draft.Framed`, and a word that closes no block is the word that was just
read.

* `Walk.Lays` says that a walk lays out the item that a reader reads.
* `gives_instruction` is for an item that starts with a keyword, `gives_item` for any item.
* `run_script` is for all items up to the end, by induction on the number of steps.
* `Walk.Visits` are the walkers between items, and `framed_of_visits` says that the invariant holds
  at each of them.
-/

namespace RobotScript

/-! ## Laws of readers -/

instance : LawfulMonad Reader := LawfulMonad.mk' Reader
  (fun reader => funext fun cursor =>
    Subtype.ext (congrArg (Reading.mk _ · _) (List.append_nil _)))
  (fun _ _ => rfl)
  (fun reader second third => funext fun cursor =>
    Subtype.ext (congrArg (Reading.mk _ · _) (List.append_assoc _ _ _)))

/-- An item that starts with a word: an assignment if a sign follows. -/
theorem Reader.val_item {assigned : List String} {token : Token} (isWord : token.kind = .word)
    (cursor : Cursor) :
    (Reader.item assigned token cursor).val =
      ((if cursor.peek.kind = .equals then do
          Reader.skip
          return .statement (.assign ⟨token.text, ← Reader.expression⟩)
        else Reader.instruction assigned token : Reader Item) cursor).val := by
  unfold Reader.item
  rw [isWord]
  rfl

/-- The stage after an item was read and laid out. -/
def Stage.lay (stage : Stage) (reading : Reading Item) : Stage :=
  ⟨reading.rest, reading.value.assigned ++ stage.assigned,
    (stage.draft.note reading.findings).addItem reading.value⟩

/-- A reader that only gives an item: nothing is read before it is laid out. -/
theorem Stage.lay_pure (stage : Stage) (item : Item) :
    stage.lay ((pure item : Reader Item) stage.cursor).val =
      ⟨stage.cursor, item.assigned ++ stage.assigned, stage.draft.addItem item⟩ :=
  congrArg (fun draft : Draft => Stage.mk _ _ (draft.addItem item)) stage.draft.note_nil

theorem Draft.Framed.note {draft : Draft} (framed : draft.Framed) (findings : List Finding) :
    (draft.note findings).Framed :=
  framed.keeps draft.keeps_refl rfl

namespace Walk

variable {α : Type} {assigned : List String} {bound steps : Nat}

/-! ## Walks that lay out an item -/

/-- The walk lays out the item that the reader reads. -/
def Lays (assigned : List String) (bound : Nat) (walk : Walk Unit) (reader : Reader Item) : Prop :=
  ∀ walker : Walker, walker.assigned = assigned → walker.cursor.size ≤ bound →
    walker.draft.Framed → Gives walk walker () (walker.stage.lay (reader walker.cursor).val)

/-- What is read first is reported before the item is laid out. -/
theorem Follows.lays {walk : Walk α} {reader : Reader α} {later : α → Walk Unit}
    {following : α → Reader Item} (first : Follows assigned bound walk reader)
    (second : ∀ value, Lays assigned bound (later value) (following value)) :
    Lays assigned bound (walk >>= later) (reader >>= following) := by
  intro walker known small framed
  refine (first walker known small).bind fun after same => ?_
  have names : after.assigned = walker.assigned := congrArg Stage.assigned same
  have draft : after.draft = walker.draft.note (reader walker.cursor).val.findings :=
    congrArg Stage.draft same
  have cursor : after.cursor = (reader walker.cursor).val.rest := congrArg Stage.cursor same
  have goes := second (reader walker.cursor).val.value after (names.trans known)
    (cursor ▸ Nat.le_trans (reader walker.cursor).property small) (draft ▸ framed.note _)
  rw [cursor, same] at goes
  simp only [Stage.lay, Stage.read, Draft.note_note] at goes
  exact goes

/-- A statement that makes no name usable is laid out as an item. -/
theorem lays_statement {statement : Statement} (plain : Item.assigned (.statement statement) = []) :
    Lays assigned bound (lay (·.push statement)) (pure (.statement statement)) := by
  intro walker _ _ _
  refine ⟨_, rfl, ?_⟩
  refine Eq.trans ?_ (walker.stage.lay_pure (.statement statement)).symm
  rw [plain]
  rfl

theorem lays_opening (header : Header) :
    Lays assigned bound (lay (·.openBlock header)) (pure (.opening header)) :=
  fun walker _ _ _ => ⟨_, rfl, (walker.stage.lay_pure (.opening header)).symm⟩

theorem lays_void : Lays assigned bound (pure ()) (pure .void) :=
  fun walker _ _ _ => ⟨walker, rfl, (walker.stage.lay_pure .void).symm⟩

/-- A statement can be laid out before the rest of its line is read: what is wrong with the rest is
reported under the same open block. -/
theorem lays_statement_then {statement : Statement}
    (plain : Item.assigned (.statement statement) = []) {walk : Walk Unit} {reader : Reader Unit}
    (follows : Follows assigned bound walk reader) :
    Lays assigned bound (lay (·.push statement) >>= fun _ => walk)
      (reader >>= fun _ => pure (.statement statement)) := by
  intro walker known small _
  refine gives_step (run_lay _ walker) ?_
  obtain ⟨after, ran, same⟩ :=
    follows { walker with draft := walker.draft.push statement } known small
  refine ⟨after, ran, same.trans ?_⟩
  show Stage.mk _ _ ((walker.draft.push statement).note _) =
    Stage.mk _ (Item.assigned (.statement statement) ++ _)
    ((walker.draft.note (_ ++ [])).push statement)
  rw [plain, List.append_nil]
  rfl

theorem lays_test {test : Walk Bool} {condition : Token → Prop} [DecidablePred condition]
    (tested : ∀ walker : Walker, test.run walker =
      if condition walker.cursor.peek then .ok (true, walker.next) else .ok (false, walker))
    {yes no : Walk Unit} {reader : Reader Item} {other : Token → Reader Item}
    (passes : Lays assigned bound yes reader)
    (stays : Lays assigned bound no (Reader.peek >>= other)) :
    Lays assigned bound (test >>= fun hit => if hit = true then yes else no)
      (Reader.peek >>= fun token => if condition token then Reader.skip >>= fun _ => reader else
        other token) :=
  fun walker known small framed =>
    @gives_test _ _ _ _ _ walker (tested walker) _ _ _ _ (fun _ => ()) walker.stage.lay
      (passes walker.next known (size_next_le small) framed) (stays walker known small framed)

/-! ## Actions -/

theorem follows_bearingAt (token : Token) :
    Follows assigned bound (bearingAt token) (Reader.bearingAt assigned token) := by
  intro walker known small
  refine gives_step (run_get walker) ?_
  rw [known]
  unfold Reader.bearingAt
  by_cases member : token.text ∈ assigned
  · rw [if_pos member, if_pos member]
    exact follows_pure _ walker known small
  · rw [if_neg member, if_neg member]
    cases Direction.ofKeyword? token.text with
    | some direction => exact follows_pure _ walker known small
    | none => exact ((follows_report _ _ _).bind fun _ => follows_pure none) walker known small

theorem follows_bearing : Follows assigned bound bearing (Reader.bearing assigned) :=
  follows_peek.bind fun token => (follows_bearingAt token).bind fun found =>
    (follows_consumeWord token.text).bind fun _ => follows_pure found

/-- The last parenthesis of an action. -/
theorem follows_closing : Follows assigned bound (do let _ ← consume .rightParen; return ())
    (do let _ ← Reader.expect .rightParen; return ()) :=
  (follows_consume .rightParen).bind fun _ => follows_pure ()

theorem lays_aimed {make : Bearing → Statement}
    (plain : ∀ found, Item.assigned (.statement (make found)) = []) :
    Lays assigned bound (aimed make)
      (Reader.inParentheses (Reader.bearing assigned) >>= fun found =>
        pure (Reader.statementItem (found.map make))) := by
  simp only [Reader.inParentheses, bind_assoc, pure_bind]
  refine (follows_consume .leftParen).lays fun _ => follows_bearing.lays fun found => ?_
  cases found with
  | some bearing =>
    have laid :=
      lays_statement_then (plain bearing) (show Follows assigned bound _ _ from follows_closing)
    simp only [bind_assoc, pure_bind] at laid
    exact laid
  | none => exact (follows_consume .rightParen).lays fun _ => lays_void

theorem lays_melee :
    Lays assigned bound melee
      (Reader.inParentheses Reader.directionWord >>= fun found =>
        pure (Reader.statementItem (found.map .melee))) := by
  simp only [Reader.inParentheses, Reader.directionWord, bind_assoc]
  refine (follows_consume .leftParen).lays fun _ => follows_peek.lays fun token => ?_
  have ending :
      Follows assigned bound (do consumeWord token.text; let _ ← consume .rightParen; return ())
      (do Reader.expectWord token.text; let _ ← Reader.expect .rightParen; return ()) :=
    (follows_consumeWord token.text).bind fun _ => follows_closing
  cases Direction.ofKeyword? token.text with
  | some direction =>
    have plain : Item.assigned (.statement (.melee direction)) = [] := rfl
    have laid := lays_statement_then plain ending
    simp only [bind_assoc, pure_bind] at laid
    simp only [Option.isNone_some, Bool.false_eq_true, if_false, bind_assoc, pure_bind]
    exact laid
  | none =>
    have laid :=
      (follows_report .invalidDirection token true).lays fun _ => ending.lays fun _ => lays_void
    simp only [bind_assoc, pure_bind] at laid
    simp only [Option.isNone_none, if_true, bind_assoc, pure_bind]
    exact laid

theorem lays_skipLine (enough : bound < steps) :
    Lays assigned bound (skipLine steps) (Reader.skipLine >>= fun _ => pure .void) := by
  have laid :
      Lays assigned bound (skipLine steps >>= pure) (Reader.skipLine >>= fun _ => pure .void) :=
    (follows_skipLine enough).lays fun _ => lays_void
  rwa [bind_pure] at laid

theorem lays_unexpected (enough : bound < steps) :
    Lays assigned bound (unexpected steps) (Reader.peek >>= Reader.unexpected) :=
  follows_peek.lays fun token => (follows_report _ token true).lays fun _ => lays_skipLine enough

theorem lays_attack (enough : bound < steps) :
    Lays assigned bound (attack steps) (Reader.attack assigned) :=
  lays_test (run_matchWord _) (lays_aimed fun _ => rfl)
    (lays_test (run_matchWord _) lays_melee (lays_unexpected enough))

/-! ## Blocks -/

/-- Laying out changes nothing but the draft. -/
theorem gives_lay {walker : Walker} {change : Draft → Draft} {later : Walk Unit} {draft : Draft}
    (goes : Gives later { walker with draft := change walker.draft } ()
      ⟨walker.cursor, walker.assigned, draft⟩) :
    Gives (lay change >>= fun _ => later) walker () ⟨walker.cursor, walker.assigned, draft⟩ :=
  gives_step (run_lay change walker) goes

theorem gives_mint {walker : Walker} {later : String → Walk Unit} {draft : Draft}
    (goes : Gives (later walker.draft.nextLabel) { walker with draft := walker.draft.mint } ()
      ⟨walker.cursor, walker.assigned, draft⟩) :
    Gives (mint >>= later) walker () ⟨walker.cursor, walker.assigned, draft⟩ :=
  gives_step (show mint.run walker = .ok (walker.draft.nextLabel, _) from rfl) goes

theorem run_statementAt {part : Statement → Option α} {walker : Walker} {index : Nat}
    {statement : Statement} {value : α}
    (found : walker.draft.program.statements[index]? = some statement)
    (has : part statement = some value) :
    (statementAt index part).run walker = .ok (value, walker) := by
  rw [statementAt, run_bind (run_get walker), found]
  simp only [has]
  rfl

/-- A statement that is replaced by a changed one is changed in place. -/
theorem gives_replace {walker : Walker} {index : Nat} {statement : Statement}
    {replacing : Statement → Option Statement} {change : Statement → Statement}
    {later : Walk Unit} {draft : Draft}
    (found : walker.draft.program.statements[index]? = some statement)
    (changes : replacing statement = some (change statement))
    (goes : Gives later { walker with draft := walker.draft.amend index change } ()
      ⟨walker.cursor, walker.assigned, draft⟩) :
    Gives (replace index replacing >>= fun _ => later) walker ()
      ⟨walker.cursor, walker.assigned, draft⟩ := by
  have same : walker.draft.amend index (fun _ => change statement) =
      walker.draft.amend index change := by
    have modified : walker.draft.program.statements.modify index (fun _ => change statement) =
        walker.draft.program.statements.modify index change := by
      apply Array.ext_getElem?
      intro other
      rw [Array.getElem?_modify, Array.getElem?_modify]
      split
      · next here =>
        subst here
        rw [found]
        rfl
      · rfl
    simp only [Draft.amend, modified]
  have ran : (replace index replacing).run walker =
      .ok ((), { walker with draft := walker.draft.amend index change }) := by
    rw [replace, run_bind (run_statementAt found changes), ← same]
    rfl
  exact gives_step ran goes

/-- A word that closes no open block is the one that was just read. -/
theorem gives_unexpectedWord {walker : Walker} {token : Token} {word : String}
    (last : walker.back 1 = token) (named : token.text = word) :
    Gives (unexpectedWord word) walker () ⟨walker.cursor, walker.assigned,
      walker.draft.reject token⟩ := by
  refine gives_step (run_back 1 walker) ?_
  rw [last, if_pos named]
  exact ⟨_, rfl, rfl⟩

theorem gives_endLoop {walker : Walker} {index : Nat} {statement : Statement} {start : String}
    (found : walker.draft.program.statements[index]? = some statement)
    (starts : statement.start? = some start) :
    Gives (endLoop index) walker () ⟨walker.cursor, walker.assigned,
      walker.draft.closeLoop index⟩ := by
  have loopStart : walker.draft.loopStart index = start := by simp [Draft.loopStart, found, starts]
  have kept := (walker.draft.grows_push (.goto start)).statement found
  have finishes (label : String) :
      loopFinish label statement = some (statement.withFinish label) := by
    cases statement with
    | tantque | pour => rfl
    | _ => cases starts
  refine gives_step (run_statementAt found starts) ?_
  refine gives_lay (gives_mint (gives_replace kept (finishes _) ⟨_, rfl, ?_⟩))
  rw [Draft.closeLoop, loopStart]
  rfl

/-- The innermost open block has its opening statement. -/
theorem exists_opening {draft : Draft} (framed : draft.Framed) {frame : Frame} {others : List Frame}
    (inside : draft.frames = frame :: others) :
    ∃ statement, draft.program.statements[frame.index]? = some statement ∧
      statement.opens? = some frame.block :=
  framed.opening frame (inside ▸ List.mem_cons_self)

theorem gives_closeLoop {walker : Walker} (framed : walker.draft.Framed) {token : Token}
    {block : Block} {word : String} (isLoop : block ≠ .si) (last : walker.back 1 = token)
    (named : token.text = word) :
    Gives (closeLoop block word) walker () ⟨walker.cursor, walker.assigned,
      walker.draft.addItem (.closing block token)⟩ := by
  have started {statement : Statement} {frame : Block} (opens : statement.opens? = some frame)
    (loop : frame ≠ .si) :
      ∃ start, statement.start? = some start := by
    cases statement with
    | tantque condition start finish => exact ⟨start, rfl⟩
    | pour init condition step start finish => exact ⟨start, rfl⟩
    | si => exact absurd (Option.some.inj opens).symm loop
    | _ => cases opens
  refine gives_step (run_get walker) ?_
  unfold Draft.addItem
  cases inside : walker.draft.frames with
  | nil => cases block <;> exact gives_unexpectedWord last named
  | cons frame others =>
    obtain ⟨statement, found, opens⟩ := exists_opening framed inside
    cases block with
    | si => exact absurd rfl isLoop
    | tantque =>
      cases frame with
      | tantque index =>
        obtain ⟨start, starts⟩ := started opens isLoop
        exact gives_endLoop found starts
      | si | pour => exact gives_unexpectedWord last named
    | pour =>
      cases frame with
      | pour index =>
        obtain ⟨start, starts⟩ := started opens isLoop
        exact gives_endLoop found starts
      | si | tantque => exact gives_unexpectedWord last named

/-- A statement that opens a `si` takes the labels of one. -/
theorem si_of_opens {statement : Statement} (opens : statement.opens? = some .si) (label : String) :
    siOtherwise label statement = some (statement.withOtherwise label) ∧
      siFinish label statement = some (statement.withFinish label) := by
  cases statement with
  | si => exact ⟨rfl, rfl⟩
  | _ => cases opens

theorem gives_divide {walker : Walker} (framed : walker.draft.Framed) {token : Token}
    (last : walker.back 1 = token) (named : token.text = Keyword.sinon.name) :
    Gives divide walker () ⟨walker.cursor, walker.assigned,
      walker.draft.addItem (.divider token)⟩ := by
  refine gives_step (run_get walker) ?_
  unfold Draft.addItem
  cases inside : walker.draft.frames with
  | nil => exact gives_unexpectedWord last named
  | cons frame others =>
    cases frame with
    | tantque | pour => exact gives_unexpectedWord last named
    | si index jump =>
      cases jump with
      | some jump => exact gives_unexpectedWord last named
      | none =>
        obtain ⟨statement, found, opens⟩ := exists_opening framed inside
        have kept := (walker.draft.grows_push (.goto "")).statement found
        refine gives_step (run_get walker) ?_
        exact gives_lay (gives_mint (gives_replace kept (si_of_opens opens _).1 ⟨_, rfl, rfl⟩))

theorem gives_closeSi {walker : Walker} (framed : walker.draft.Framed) {token : Token}
    (last : walker.back 1 = token) (named : token.text = Keyword.finsi.name) :
    Gives closeSi walker () ⟨walker.cursor, walker.assigned,
      walker.draft.addItem (.closing .si token)⟩ := by
  refine gives_step (run_get walker) ?_
  unfold Draft.addItem
  cases inside : walker.draft.frames with
  | nil => exact gives_unexpectedWord last named
  | cons frame others =>
    cases frame with
    | tantque | pour => exact gives_unexpectedWord last named
    | si index jump =>
      obtain ⟨statement, found, opens⟩ := exists_opening framed inside
      refine gives_mint ?_
      cases jump with
      | none => exact gives_replace found (si_of_opens opens _).2 ⟨_, rfl, rfl⟩
      | some jump =>
        obtain ⟨label, jumps⟩ := framed.jumps _ (inside ▸ List.mem_cons_self) jump rfl
        -- The jump is another statement than the `si`, which opens a block.
        have differs : index ≠ jump := by
          rintro rfl
          cases Option.some.inj (found.symm.trans jumps)
          cases opens
        refine @gives_replace _ jump _ _ (fun _ => .goto walker.draft.nextLabel) _ _ jumps rfl ?_
        exact gives_replace ((Draft.amend_other differs).trans found) (si_of_opens opens _).2
          ⟨_, rfl, rfl⟩

/-! ## Items -/

/-- The keyword that is passed is the one that the next token names, if it is among those that are
tried. -/
theorem run_matchKeyword (keywords : List Keyword) (walker : Walker) :
    (∃ keyword ∈ keywords, walker.cursor.peek.kind = .word ∧
      walker.cursor.peek.text = keyword.name ∧
      (matchKeyword keywords).run walker = .ok (some keyword, walker.next)) ∨
    ((∀ keyword ∈ keywords,
      ¬ (walker.cursor.peek.kind = .word ∧ walker.cursor.peek.text = keyword.name)) ∧
      (matchKeyword keywords).run walker = .ok (none, walker)) := by
  induction keywords with
  | nil => exact .inr ⟨by simp, rfl⟩
  | cons keyword keywords more =>
    by_cases named : walker.cursor.peek.kind = .word ∧ walker.cursor.peek.text = keyword.name
    · refine .inl ⟨keyword, List.mem_cons_self, named.1, named.2, ?_⟩
      exact run_bind ((run_matchWord _ _).trans (if_pos named))
    · have passes :
          (matchKeyword (keyword :: keywords)).run walker = (matchKeyword keywords).run walker :=
        run_bind ((run_matchWord _ _).trans (if_neg named))
      rw [passes]
      rcases more with ⟨other, member, rest⟩ | ⟨others, ran⟩
      · exact .inl ⟨other, List.mem_cons_of_mem _ member, rest⟩
      · exact .inr ⟨List.forall_mem_cons.mpr ⟨named, others⟩, ran⟩

/-- An item that starts with a keyword. A word that closes or divides a block is the last token that
was passed. -/
theorem gives_instruction {walker : Walker} (known : walker.assigned = assigned)
    (small : walker.cursor.size ≤ bound) (framed : walker.draft.Framed)
    (enough : 3 * bound + 3 ≤ steps) {token : Token} (last : walker.back 1 = token)
    {keyword : Keyword} (starts : keyword ∈ starters) (named : token.text = keyword.name) :
    Gives (instruction steps keyword) walker ()
      (walker.stage.lay (Reader.instruction assigned token walker.cursor).val) := by
  have value : Follows assigned bound (expression steps) Reader.expression :=
    follows_expression enough
  unfold Reader.instruction
  rw [named, Keyword.ofName?_name]
  cases keyword with
  | print => exact (value.lays fun _ => lays_statement rfl) walker known small framed
  | input =>
    exact ((follows_consume .word).lays fun _ => lays_statement rfl) walker known small framed
  | goto =>
    exact ((follows_consume .word).lays fun _ => lays_statement rfl) walker known small framed
  | deplacer => exact lays_aimed (fun _ => rfl) walker known small framed
  | attaquer => exact lays_attack (by omega) walker known small framed
  | recharger => exact lays_statement_then rfl follows_parentheses walker known small framed
  | si => exact (value.lays fun _ => lays_opening _) walker known small framed
  | tantque => exact (value.lays fun _ => lays_opening _) walker known small framed
  | pour =>
    have header : Follows assigned bound (do
        let _ ← consume .leftParen
        let init ← assignment steps
        let condition ← expression steps
        let step ← assignment steps
        let _ ← consume .rightParen
        return Header.pour init condition step) Reader.countedHeader :=
      (follows_consume .leftParen).bind fun _ => (follows_assignment enough).bind fun _ =>
          value.bind fun _ =>
        (follows_assignment enough).bind fun _ => (follows_consume .rightParen).bind fun _ =>
          follows_pure _
    have laid := header.lays lays_opening
    simp only [bind_assoc, pure_bind] at laid
    exact laid walker known small framed
  | sinon => exact (walker.stage.lay_pure _).symm ▸ gives_divide framed last named
  | finsi => exact (walker.stage.lay_pure _).symm ▸ gives_closeSi framed last named
  | fintantque =>
    exact (walker.stage.lay_pure _).symm ▸ gives_closeLoop framed (by decide) last named
  | finpour =>
    exact (walker.stage.lay_pure _).symm ▸ gives_closeLoop framed (by decide) last named
  | tirer | melee | detecterEnnemi | estVivant => exact absurd starts (by decide)

/-- A word that is no keyword for an item starts none. -/
theorem instruction_of_other {token : Token}
    (others : ∀ keyword ∈ starters, token.text ≠ keyword.name) :
    Reader.instruction assigned token = Reader.unexpected token := by
  unfold Reader.instruction
  cases named : Keyword.ofName? token.text with
  | none => rfl
  | some keyword =>
    have text := Keyword.name_of_ofName? named
    cases keyword with
    | tirer | melee | detecterEnnemi | estVivant => rfl
    | _ => exact absurd text (others _ (by decide))

/-- A token that starts no item. -/
theorem item_of_other {token : Token} {cursor : Cursor} (noLabel : token.kind ≠ .label)
    (noAssign : ¬ (token.kind = .word ∧ cursor.peek.kind = .equals))
    (others : ∀ keyword ∈ starters, ¬ (token.kind = .word ∧ token.text = keyword.name)) :
    (Reader.item assigned token cursor).val = (Reader.unexpected token cursor).val := by
  by_cases isWord : token.kind = .word
  · rw [Reader.val_item isWord, if_neg fun sign => noAssign ⟨isWord, sign⟩,
      instruction_of_other fun keyword starts named => others keyword starts ⟨isWord, named⟩]
  · unfold Reader.item
    cases kind : token.kind with
    | label => exact absurd kind noLabel
    | word => exact absurd kind isWord
    | _ => rfl

/-- A token that starts no item is left in place, and skipped with its line. -/
theorem gives_unexpected {walker : Walker} (noEnd : walker.cursor.peek.kind ≠ .endOfFile)
    (noBreak : walker.cursor.peek.kind ≠ .lineBreak) (framed : walker.draft.Framed)
    (enough : walker.cursor.size < steps) :
    Gives (unexpected steps) walker ()
      (walker.stage.lay (Reader.unexpected walker.cursor.peek walker.cursor.next).val) := by
  have laid := lays_unexpected enough walker rfl (Nat.le_refl _) framed
  have skipped : (Reader.skipLine walker.cursor).val = (Reader.skipLine walker.cursor.next).val :=
    congrArg (fun ahead => Reading.mk () [] ⟨ahead, walker.beyond⟩)
      (Cursor.afterLine_of_other noEnd noBreak)
  have same : ((Reader.peek >>= Reader.unexpected) walker.cursor).val =
      (Reader.unexpected walker.cursor.peek walker.cursor.next).val :=
    congrArg (fun reading : Reading Unit => Reading.mk Item.void _ reading.rest) skipped
  exact same ▸ laid

theorem gives_true {walk : Walk Unit} {walker : Walker} {stage : Stage}
    (gives : Gives walk walker () stage) :
    Gives (walk >>= fun _ => pure true) walker true stage :=
  gives.bind fun after same => ⟨after, rfl, same⟩

/-- An assignment, after its target and its sign. Its target is usable as a direction at once, which
no expression looks at. -/
theorem gives_assign {walker : Walker} {name : String} (small : walker.cursor.size ≤ bound)
    (enough : 3 * bound + 3 ≤ steps) :
    Gives (assign steps name) walker ()
      (walker.stage.lay ((Reader.expression >>= fun value =>
        pure (.statement (.assign ⟨name, value⟩)) : Reader Item) walker.cursor).val) := by
  refine gives_step (show StateT.run (modify _ : Walk Unit) walker =
    .ok ((), { walker with assigned := name :: walker.assigned }) from rfl) ?_
  refine
    (follows_expression enough { walker with assigned := name :: walker.assigned } rfl small).bind
    fun after same => ⟨_, rfl, ?_⟩
  have cursor : after.cursor = (Reader.expression walker.cursor).val.rest :=
    congrArg Stage.cursor same
  have names : after.assigned = name :: walker.assigned := congrArg Stage.assigned same
  have draft : after.draft = walker.draft.note (Reader.expression walker.cursor).val.findings :=
    congrArg Stage.draft same
  show Stage.mk after.cursor after.assigned (after.draft.push _) =
    Stage.mk _ _ ((walker.draft.note (_ ++ [])).push _)
  rw [cursor, names, draft, List.append_nil]
  rfl

theorem gives_item {walker : Walker} (framed : walker.draft.Framed)
    (noEnd : walker.cursor.peek.kind ≠ .endOfFile)
    (noBreak : walker.cursor.peek.kind ≠ .lineBreak)
    (enough : 3 * walker.cursor.size + 1 ≤ steps) :
    Gives (item steps) walker true
      (walker.stage.lay
        (Reader.item walker.assigned walker.cursor.peek walker.cursor.next).val) := by
  have shorter := Cursor.size_next_of_ne walker.marked noEnd
  have cursor := walker.cursor_next
  have unexpected :=
    gives_true (gives_unexpected noEnd noBreak framed (show walker.cursor.size < steps by omega))
  refine gives_ite (run_matchKind _ walker) (fun isLabel => ?_) fun noLabel => ?_
  · refine gives_step (run_back 1 walker.next) ?_
    rw [walker.back_next, Reader.item, isLabel, ← cursor]
    exact gives_true ⟨_, rfl,
      (walker.next.stage.lay_pure (.label walker.cursor.peek.text)).symm⟩
  refine gives_ite (run_matchPair _ _ walker) (fun assigns => ?_) fun noAssign => ?_
  · refine gives_step (run_back 2 walker.next.next) ?_
    have fits : walker.next.next.cursor.size ≤ walker.cursor.next.size := by
      rw [walker.next.cursor_next, cursor]
      exact Cursor.size_next_le _
    have laid :=
      gives_true (@gives_assign _ steps walker.next.next walker.cursor.peek.text fits (by omega))
    rw [walker.next.cursor_next, cursor] at laid
    rw [walker.back_next_next, Reader.val_item assigns.1, if_pos assigns.2]
    exact laid
  rcases run_matchKeyword starters walker with ⟨keyword, starts, isWord, named, ran⟩ |
    ⟨others, ran⟩
  · refine gives_step ran (gives_true ?_)
    have laid := @gives_instruction _ walker.cursor.next.size steps walker.next rfl
      (cursor ▸ Nat.le_refl _) framed (by omega) _ walker.back_next _ starts named
    rw [Reader.val_item isWord, if_neg fun sign => noAssign ⟨isWord, sign⟩]
    rw [cursor] at laid
    exact laid
  · refine gives_step ran ?_
    refine gives_ite (run_matchKind _ walker) (fun isEnd => absurd isEnd noEnd) fun _ => ?_
    rw [item_of_other noLabel noAssign others]
    exact unexpected

/-- At the end mark the script ends. -/
theorem run_item_end {walker : Walker} (isEnd : walker.cursor.peek.kind = .endOfFile) :
    (item steps).run walker = .ok (false, walker.next) := by
  have noLabel : walker.cursor.peek.kind ≠ .label := by simp [isEnd]
  have noAssign : ¬ (walker.cursor.peek.kind = .word ∧
      walker.cursor.next.peek.kind = .equals) := by simp [isEnd]
  rw [item, run_bind ((run_matchKind _ _).trans (if_neg noLabel))]
  refine (run_bind ((run_matchPair _ _ _).trans (if_neg noAssign))).trans ?_
  rcases run_matchKeyword starters walker with ⟨keyword, -, isWord, -⟩ | ⟨-, ran⟩
  · cases isEnd.symm.trans isWord
  · refine (run_bind ran).trans ?_
    exact run_bind ((run_matchKind _ _).trans (if_pos isEnd))

/-! ## Scripts -/

section

variable {draft : Draft} {cursor : Cursor}

theorem readOn_of_end (isEnd : cursor.peek.kind = .endOfFile) :
    draft.readOn assigned cursor = draft := by
  obtain ⟨ahead, beyond⟩ := cursor
  cases ahead with
  | nil => exact Draft.readOn_nil
  | cons token rest => exact Draft.readOn_end isEnd

theorem readOn_of_lineBreak (marked : cursor.beyond.kind = .endOfFile)
    (isBreak : cursor.peek.kind = .lineBreak) :
    draft.readOn assigned cursor = draft.readOn assigned cursor.next := by
  obtain ⟨ahead, beyond⟩ := cursor
  cases ahead with
  | nil => cases marked.symm.trans isBreak
  | cons token rest => exact Draft.readOn_lineBreak isBreak

theorem readOn_of_item (marked : cursor.beyond.kind = .endOfFile)
    (noEnd : cursor.peek.kind ≠ .endOfFile) (noBreak : cursor.peek.kind ≠ .lineBreak) :
    draft.readOn assigned cursor =
      let reading := (Reader.item assigned cursor.peek cursor.next).val
      (draft.add (reading.value, reading.findings)).readOn (reading.value.assigned ++ assigned)
        reading.rest := by
  obtain ⟨ahead, beyond⟩ := cursor
  cases ahead with
  | nil => exact absurd marked noEnd
  | cons token rest => exact Draft.readOn_item noEnd noBreak

end

/-- Line breaks are passed, and what will be laid out stays the same. -/
theorem run_lineBreaks {walker : Walker} (enough : walker.cursor.size < steps) :
    ∃ after : Walker, (lineBreaks steps).run walker = .ok ((), after) ∧
      after.draft = walker.draft ∧
      after.cursor.size ≤ walker.cursor.size ∧ after.cursor.peek.kind ≠ .lineBreak ∧
      after.draft.readOn after.assigned after.cursor =
        walker.draft.readOn walker.assigned walker.cursor := by
  induction steps generalizing walker with
  | zero => exact absurd enough (Nat.not_lt_zero _)
  | succ steps more =>
    by_cases isBreak : walker.cursor.peek.kind = .lineBreak
    · have shorter : walker.next.cursor.size < walker.cursor.size := by
        rw [walker.cursor_next]
        exact Cursor.size_next_of_ne walker.marked (by simp [isBreak])
      have fewer : walker.next.cursor.size < steps :=
        Nat.lt_of_lt_of_le shorter (Nat.le_of_lt_succ enough)
      obtain ⟨after, ran, draft, fits, stops, same⟩ := more fewer
      refine ⟨after, ?_, draft, Nat.le_trans fits (Nat.le_of_lt shorter), stops, same.trans ?_⟩
      · rw [lineBreaks, run_bind ((run_matchKind _ _).trans (if_pos isBreak))]
        exact ran
      · rw [walker.cursor_next]
        exact (readOn_of_lineBreak walker.marked isBreak).symm
    · refine ⟨walker, ?_, rfl, Nat.le_refl _, isBreak, rfl⟩
      rw [lineBreaks, run_bind ((run_matchKind _ _).trans (if_neg isBreak))]
      rfl

/-- After an item there are fewer tokens, and it is part of the draft. -/
theorem item_laid {start after : Walker} (noEnd : start.cursor.peek.kind ≠ .endOfFile)
    (staged : after.stage =
      start.stage.lay (Reader.item start.assigned start.cursor.peek start.cursor.next).val) :
    after.cursor.size < start.cursor.size ∧
      after.draft =
        start.draft.add ((Reader.item start.assigned start.cursor.peek start.cursor.next).val.value,
        (Reader.item start.assigned start.cursor.peek start.cursor.next).val.findings) := by
  have cursor :
      after.cursor = (Reader.item start.assigned start.cursor.peek start.cursor.next).val.rest :=
    congrArg Stage.cursor staged
  refine ⟨Nat.lt_of_le_of_lt ?_ (Cursor.size_next_of_ne start.marked noEnd),
    congrArg Stage.draft staged⟩
  exact cursor ▸ (Reader.item start.assigned start.cursor.peek start.cursor.next).property

/-- All items are laid out. Each of them takes its first token, so what is left has fewer tokens. -/
theorem run_script {walker : Walker} (framed : walker.draft.Framed)
    (enough : 3 * walker.cursor.size + 2 ≤ steps) :
    ∃ after : Walker, (script steps).run walker = .ok ((), after) ∧
      after.draft = walker.draft.readOn walker.assigned walker.cursor := by
  induction steps generalizing walker with
  | zero => exact absurd enough (Nat.not_succ_le_zero _)
  | succ steps more =>
    obtain ⟨start, ran, draft, fits, noBreak, same⟩ :=
      run_lineBreaks (show walker.cursor.size < steps by omega)
    rw [← same, script, run_bind ran]
    rw [← draft] at framed
    by_cases isEnd : start.cursor.peek.kind = .endOfFile
    · exact ⟨start.next, run_bind (run_item_end isEnd), (readOn_of_end isEnd).symm⟩
    · obtain ⟨after, passed, staged⟩ :=
        gives_item framed isEnd noBreak (show 3 * start.cursor.size + 1 ≤ steps by omega)
      have cursor := congrArg Stage.cursor staged
      have names := congrArg Stage.assigned staged
      obtain ⟨shorter, laid⟩ := item_laid isEnd staged
      obtain ⟨last, finished, whole⟩ :=
        more (laid ▸ framed.add _) (show 3 * after.cursor.size + 2 ≤ steps by omega)
      refine ⟨last, (run_bind passed).trans finished, whole.trans ?_⟩
      rw [readOn_of_item start.marked isEnd noBreak, laid]
      exact congr (congrArg _ names) cursor

/-- The walkers at which reading a script comes to a next item. -/
inductive Visits : Nat → Walker → Walker → Prop
  | here {steps : Nat} {walker : Walker} : Visits steps walker walker
  | item {steps : Nat} {walker start after last : Walker}
      (passed : (lineBreaks steps).run walker = .ok ((), start))
      (read : (item steps).run start = .ok (true, after)) (more : Visits steps after last) :
      Visits (steps + 1) walker last

theorem framed_of_visits {walker last : Walker} (visits : Visits steps walker last)
    (framed : walker.draft.Framed) (enough : 3 * walker.cursor.size + 2 ≤ steps) :
    last.draft.Framed := by
  induction visits with
  | here => exact framed
  | @item steps walker start after last passed read more kept =>
    obtain ⟨begun, ran, draft, fits, noBreak, -⟩ :=
      run_lineBreaks (show walker.cursor.size < steps by omega)
    cases ran.symm.trans passed
    rw [← draft] at framed
    have noEnd : start.cursor.peek.kind ≠ .endOfFile := by
      intro isEnd
      cases (run_item_end isEnd).symm.trans read
    obtain ⟨given, itemRan, staged⟩ :=
      gives_item framed noEnd noBreak (show 3 * start.cursor.size + 1 ≤ steps by omega)
    cases itemRan.symm.trans read
    obtain ⟨shorter, laid⟩ := item_laid noEnd staged
    exact kept (laid ▸ framed.add _) (by omega)

end Walk

/-- For every list of tokens, of whatever kinds and texts, reading by positions is not broken off:
three steps for each token and two more are enough, no position is before the first token, every
statement that is looked up is there and is of the kind that its block needs, and a word that closes
no block is the one that was read. It gives the program of the tokens. Wherever a next item is read,
each open block has the index of a statement that opens such a block, a divided `si` has the index
of a jump, and an inner block has a larger index than an outer one. -/
theorem walkTokens_eq_ofTokens {tokens : List Token} {steps : Nat}
    (enough : 3 * tokens.length + 2 ≤ steps) :
    walkTokens steps tokens = .ok (Parse.ofTokens tokens) ∧
      ∀ walker, Walk.Visits steps (.ofTokens tokens) walker → walker.draft.Framed := by
  have empty : (Walker.ofTokens tokens).draft.Framed := Draft.framed_ofItems []
  have size : (Walker.ofTokens tokens).cursor.size = tokens.length := rfl
  refine ⟨?_, fun walker visits => Walk.framed_of_visits visits empty (size.symm ▸ enough)⟩
  obtain ⟨after, ran, draft⟩ := Walk.run_script empty (size.symm ▸ enough)
  rw [walkTokens, ran]
  show Except.ok
    (Parse.mk after.draft.program (after.draft.errors.toList ++ after.draft.unclosed)) = _
  rw [draft]
  rfl

/-- A word that closes no block, a `si` that is divided, a label that is a numeral, an end mark, and
a word after it. -/
def Token.strayWords : List Token :=
  [⟨"finpour", .word, .start⟩, ⟨"si", .word, .start⟩, ⟨"x", .word, .start⟩,
    ⟨"\n", .lineBreak, .start⟩, ⟨"sinon", .word, .start⟩, ⟨"0", .label, .start⟩,
    ⟨"", .endOfFile, .start⟩, ⟨"finsi", .word, .start⟩]

/-- The divided `si` is visited as an open block, with its jump. -/
theorem walkTokens_eq_ofTokens_strayWords :
    3 * Token.strayWords.length + 2 ≤ 26 ∧
    (walkTokens 26 Token.strayWords = .ok (Parse.ofTokens Token.strayWords) ∧
      ∀ walker, Walk.Visits 26 (.ofTokens Token.strayWords) walker → walker.draft.Framed) ∧
    ∃ walker, Walk.Visits 26 (.ofTokens Token.strayWords) walker ∧
      walker.draft.frames = [.si 0 (some 1)] :=
  ⟨by decide, walkTokens_eq_ofTokens (by decide), _,
    .item rfl rfl (.item rfl rfl (.item rfl rfl .here)), rfl⟩

end RobotScript
