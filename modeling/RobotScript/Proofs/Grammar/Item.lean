import RobotScript.Item.Script
import RobotScript.Proofs.Grammar.Expression

/-!
# Items of the grammar

`Stands assigned tokens item rest` says that an item stands at the start of the tokens. It joins the
parts of the grammar that one item is made of. The reader of items finds nothing wrong with exactly
what stands there: `stands_of_item` is the way from the reader to the grammar, and `item_of_stands`
the way back.
-/

namespace RobotScript

namespace Grammar

/-- The keyword that closes a block. -/
def closer : Block → Keyword
  | .si => .finsi
  | .tantque => .fintantque
  | .pour => .finpour

/-- `Stands assigned tokens item rest`: the item stands at the start of the tokens and leaves the
rest. -/
inductive Stands (assigned : List String) : List Token → Item → List Token → Prop
  | label {token : Token} {rest : List Token} (isLabel : token.kind = .label) :
      Stands assigned (token :: rest) (.label token.text) rest
  | simple {tokens rest : List Token} {item : Simple} (forms : Forms assigned tokens item rest) :
      Stands assigned tokens (.statement item.statement) rest
  | opening {tokens rest : List Token} {header : Header} (opens : Opens tokens header rest) :
      Stands assigned tokens (.opening header) rest
  | divider {word : Token} {rest : List Token} (divides : Starts .sinon (word :: rest) rest) :
      Stands assigned (word :: rest) (.divider word) rest
  | closing {word : Token} {rest : List Token} {block : Block}
      (closes : Starts (closer block) (word :: rest) rest) :
      Stands assigned (word :: rest) (.closing block word) rest

end Grammar

namespace Reader

open Grammar

/-! ## Parts of items -/

/-- The reader takes one token, and what it gives stands in the relation to it. -/
def TakesOne {α : Type} (reader : Reader α) (beyond : Token) (relation : Token → α → Prop) :
    Prop :=
  ∀ tokens value rest, reader.Takes ⟨tokens, beyond⟩ value rest ↔
    ∃ token after, tokens = token :: after ∧ relation token value ∧ rest = ⟨after, beyond⟩

theorem takes_inParentheses {α : Type} {inner : Reader α} {relation : Token → α → Prop}
    {tokens : List Token} {beyond : Token} {rest : Cursor} {value : α}
    (marked : beyond.kind = .endOfFile) (one : inner.TakesOne beyond relation) :
    (inParentheses inner).Takes ⟨tokens, beyond⟩ value rest ↔
      ∃ opening token closing after, tokens = opening :: token :: closing :: after ∧
        opening.kind = .leftParen ∧
        relation token value ∧ closing.kind = .rightParen ∧ rest = ⟨after, beyond⟩ := by
  refine takes_bind.trans ?_
  constructor
  · rintro ⟨opening, _, opened, later⟩
    obtain ⟨_, rfl, opens, rfl⟩ := (takes_expect_iff marked (by decide)).mp opened
    obtain ⟨given, _, read, later⟩ := takes_bind.mp later
    obtain ⟨token, _, rfl, related, rfl⟩ := (one _ _ _).mp read
    obtain ⟨closing, _, closed, later⟩ := takes_bind.mp later
    obtain ⟨after, rfl, closes, rfl⟩ := (takes_expect_iff marked (by decide)).mp closed
    obtain ⟨rfl, rfl⟩ := takes_pure.mp later
    exact ⟨opening, token, closing, after, rfl, opens, related, closes, rfl⟩
  · rintro ⟨opening, token, closing, after, rfl, opens, related, closes, rfl⟩
    refine ⟨opening, _, (takes_expect_iff marked (by decide)).mpr ⟨_, rfl, opens, rfl⟩, ?_⟩
    refine takes_bind.mpr ⟨value, _, (one _ _ _).mpr ⟨token, _, rfl, related, rfl⟩, ?_⟩
    refine takes_bind.mpr ⟨closing, _,
      (takes_expect_iff marked (by decide)).mpr ⟨after, rfl, closes, rfl⟩, ?_⟩
    exact takes_pure.mpr ⟨rfl, rfl⟩

theorem takes_bearingAt {assigned : List String} {token : Token} {cursor rest : Cursor}
    {value : Option Bearing} :
    (bearingAt assigned token).Takes cursor value rest ↔
      ∃ given, Aims assigned token.text given ∧ value = some given ∧ rest = cursor := by
  unfold bearingAt
  split
  · next known =>
    rw [takes_done]
    constructor
    · rintro ⟨rfl, rfl⟩
      exact ⟨_, .held known, rfl, rfl⟩
    · rintro ⟨_, aims, rfl, rfl⟩
      cases aims with
      | held => exact ⟨rfl, rfl⟩
      | toward unknown => exact absurd known unknown
  · next unknown =>
    split
    · next direction named =>
      rw [takes_done]
      constructor
      · rintro ⟨rfl, rfl⟩
        exact ⟨_, .toward unknown named, rfl, rfl⟩
      · rintro ⟨_, aims, rfl, rfl⟩
        cases aims with
        | held known => exact absurd known unknown
        | toward _ same =>
          cases named.symm.trans same
          exact ⟨rfl, rfl⟩
    · next unnamed =>
      constructor
      · intro taken
        obtain ⟨_, _, reported, _⟩ := takes_bind.mp taken
        exact absurd reported not_takes_report
      · rintro ⟨_, aims, _, _⟩
        cases aims with
        | held known => exact absurd known unknown
        | toward _ same => exact nomatch unnamed.symm.trans same

theorem takesOne_bearing (assigned : List String) {beyond : Token}
    (marked : beyond.kind = .endOfFile) :
    (bearing assigned).TakesOne beyond fun word value =>
      word.kind = .word ∧ ∃ given, Aims assigned word.text given ∧ value = some given := by
  intro tokens value rest
  refine takes_bind.trans ?_
  constructor
  · rintro ⟨_, _, peeked, later⟩
    obtain ⟨rfl, rfl⟩ := takes_peek.mp peeked
    obtain ⟨found, _, aimed, later⟩ := takes_bind.mp later
    obtain ⟨given, aims, rfl, rfl⟩ := takes_bearingAt.mp aimed
    obtain ⟨_, _, expected, later⟩ := takes_bind.mp later
    obtain ⟨word, after, rfl, isWord, -, rfl⟩ := (takes_expectWord_iff marked).mp expected
    obtain ⟨rfl, rfl⟩ := takes_pure.mp later
    exact ⟨word, after, rfl, ⟨isWord, given, aims, rfl⟩, rfl⟩
  · rintro ⟨word, after, rfl, ⟨isWord, given, aims, rfl⟩, rfl⟩
    refine ⟨word, _, takes_peek.mpr ⟨rfl, rfl⟩, ?_⟩
    refine takes_bind.mpr ⟨some given, _, takes_bearingAt.mpr ⟨given, aims, rfl, rfl⟩, ?_⟩
    refine takes_bind.mpr ⟨(), ⟨after, beyond⟩, ?_, takes_pure.mpr ⟨rfl, rfl⟩⟩
    exact (takes_expectWord_iff marked).mpr ⟨word, after, rfl, isWord, rfl, rfl⟩

theorem takesOne_directionWord {beyond : Token} (marked : beyond.kind = .endOfFile) :
    directionWord.TakesOne beyond fun word value =>
      word.kind = .word ∧ ∃ direction, Direction.ofKeyword? word.text = some direction ∧
          value = some direction := by
  intro tokens value rest
  refine takes_bind.trans ?_
  constructor
  · rintro ⟨_, _, peeked, later⟩
    obtain ⟨rfl, rfl⟩ := takes_peek.mp peeked
    dsimp only at later
    split at later
    · obtain ⟨_, _, reported, _⟩ := takes_bind.mp later
      exact absurd reported not_takes_report
    · next named =>
      obtain ⟨_, _, expected, later⟩ := takes_bind.mp later
      obtain ⟨word, after, rfl, isWord, -, rfl⟩ := (takes_expectWord_iff marked).mp expected
      obtain ⟨rfl, rfl⟩ := takes_pure.mp later
      obtain ⟨direction, found⟩ :=
        Option.ne_none_iff_exists'.mp (mt Option.isNone_iff_eq_none.mpr named)
      exact ⟨word, after, rfl, ⟨isWord, direction, found, found⟩, rfl⟩
  · rintro ⟨word, after, rfl, ⟨isWord, direction, named, rfl⟩, rfl⟩
    refine ⟨word, _, takes_peek.mpr ⟨rfl, rfl⟩, ?_⟩
    rw [named]
    refine takes_bind.mpr ⟨(), ⟨after, beyond⟩, ?_, takes_pure.mpr ⟨rfl, rfl⟩⟩
    exact (takes_expectWord_iff marked).mpr ⟨word, after, rfl, isWord, rfl, rfl⟩

theorem takes_headerAssignment {tokens : List Token} {beyond : Token} {rest : Cursor}
    {assignment : Assignment} (marked : beyond.kind = .endOfFile) :
    headerAssignment.Takes ⟨tokens, beyond⟩ assignment rest ↔
      ∃ after, rest = ⟨after, beyond⟩ ∧ Sets tokens assignment after := by
  refine takes_bind.trans ?_
  constructor
  · rintro ⟨_, _, peeked, later⟩
    obtain ⟨rfl, rfl⟩ := takes_peek.mp peeked
    obtain ⟨_, _, peeked, later⟩ := takes_bind.mp later
    obtain ⟨rfl, rfl⟩ := takes_peekSecond.mp peeked
    split at later
    · next shape =>
      obtain ⟨_, _, skipped, later⟩ := takes_bind.mp later
      obtain rfl := takes_skip.mp skipped
      obtain ⟨_, _, skipped, later⟩ := takes_bind.mp later
      obtain rfl := takes_skip.mp skipped
      obtain ⟨expr, _, read, later⟩ := takes_bind.mp later
      obtain ⟨rfl, rfl⟩ := takes_pure.mp later
      match tokens, shape, read with
      | target :: sign :: tokens, ⟨isWord, isEquals⟩, read =>
        obtain ⟨after, rfl, reads⟩ := (takes_expression_iff marked).mp read
        exact ⟨after, rfl, .here isWord isEquals reads⟩
      | [_], ⟨_, isEquals⟩, _ => exact nomatch isEquals.symm.trans marked
      | [], ⟨isWord, _⟩, _ => exact nomatch isWord.symm.trans marked
    · obtain ⟨_, _, reported, _⟩ := takes_bind.mp later
      exact absurd reported not_takes_report
  · rintro ⟨after, rfl, sets⟩
    cases sets with
    | @here target sign tokens _ expr isWord isEquals value =>
      refine ⟨target, _, takes_peek.mpr ⟨rfl, rfl⟩, ?_⟩
      refine takes_bind.mpr ⟨sign, _, takes_peekSecond.mpr ⟨rfl, rfl⟩, ?_⟩
      rw [if_pos ⟨isWord, isEquals⟩]
      refine takes_bind.mpr ⟨(), _, takes_skip.mpr rfl, ?_⟩
      refine takes_bind.mpr ⟨(), _, takes_skip.mpr rfl, ?_⟩
      refine takes_bind.mpr ⟨expr, _, (takes_expression_iff marked).mpr ⟨after, rfl, value⟩,
        ?_⟩
      exact takes_pure.mpr ⟨rfl, rfl⟩

theorem takes_countedHeader {tokens : List Token} {beyond : Token} {rest : Cursor} {header : Header}
    (marked : beyond.kind = .endOfFile) :
    countedHeader.Takes ⟨tokens, beyond⟩ header rest ↔
      ∃ opening first second third closing after init condition step,
        tokens = opening :: first ∧
        opening.kind = .leftParen ∧ Sets first init second ∧
          Reads .expression second condition third ∧
        Sets third step (closing :: after) ∧ closing.kind = .rightParen ∧
          header = .pour init condition step ∧
        rest = ⟨after, beyond⟩ := by
  refine takes_bind.trans ?_
  constructor
  · rintro ⟨opening, _, opened, later⟩
    obtain ⟨first, rfl, opens, rfl⟩ := (takes_expect_iff marked (by decide)).mp opened
    obtain ⟨init, _, read, later⟩ := takes_bind.mp later
    obtain ⟨second, rfl, enters⟩ := (takes_headerAssignment marked).mp read
    obtain ⟨condition, _, read, later⟩ := takes_bind.mp later
    obtain ⟨third, rfl, test⟩ := (takes_expression_iff marked).mp read
    obtain ⟨step, _, read, later⟩ := takes_bind.mp later
    obtain ⟨_, rfl, steps⟩ := (takes_headerAssignment marked).mp read
    obtain ⟨closing, _, closed, later⟩ := takes_bind.mp later
    obtain ⟨after, rfl, closes, rfl⟩ := (takes_expect_iff marked (by decide)).mp closed
    obtain ⟨rfl, rfl⟩ := takes_pure.mp later
    exact ⟨opening, first, second, third, closing, after, init, condition, step, rfl, opens,
      enters, test, steps, closes, rfl, rfl⟩
  · rintro ⟨opening, first, second, third, closing, after, init, condition, step, rfl, opens,
      enters, test, steps, closes, rfl, rfl⟩
    refine ⟨opening, _, (takes_expect_iff marked (by decide)).mpr ⟨first, rfl, opens, rfl⟩,
      ?_⟩
    refine takes_bind.mpr ⟨init, _, (takes_headerAssignment marked).mpr ⟨second, rfl, enters⟩,
      ?_⟩
    refine takes_bind.mpr ⟨condition, _, (takes_expression_iff marked).mpr ⟨third, rfl, test⟩,
      ?_⟩
    refine takes_bind.mpr ⟨step, _, (takes_headerAssignment marked).mpr ⟨_, rfl, steps⟩, ?_⟩
    refine takes_bind.mpr ⟨closing, _,
      (takes_expect_iff marked (by decide)).mpr ⟨after, rfl, closes, rfl⟩, ?_⟩
    exact takes_pure.mpr ⟨rfl, rfl⟩

theorem not_takes_unexpected {token : Token} {cursor rest : Cursor} {item : Item} :
    ¬ (unexpected token).Takes cursor item rest := by
  intro taken
  obtain ⟨_, _, reported, _⟩ := takes_bind.mp taken
  exact not_takes_report reported

end Reader

namespace Keyword

theorem name_of_ofName? {word : String} {keyword : Keyword} (found : ofName? word = some keyword) :
    word = keyword.name := by
  have same := List.find?_some found
  exact (beq_iff_eq.mp same).symm

end Keyword

namespace Grammar

open Reader

/-! ## From the reader to the grammar -/

theorem stands_of_attack {assigned : List String} {tokens middle : List Token} {beyond : Token}
    {rest : Cursor} {item : Item} (marked : beyond.kind = .endOfFile)
    (starts : Starts .attaquer tokens middle)
    (taken : (attack assigned).Takes ⟨middle, beyond⟩ item rest) :
    ∃ after, rest = ⟨after, beyond⟩ ∧ Stands assigned tokens item after := by
  obtain ⟨_, _, peeked, taken⟩ := takes_bind.mp taken
  obtain ⟨rfl, rfl⟩ := takes_peek.mp peeked
  split at taken
  · next shape =>
    cases middle with
    | nil => exact nomatch shape.1.symm.trans marked
    | cons word middle =>
      obtain ⟨_, _, skipped, taken⟩ := takes_bind.mp taken
      obtain rfl := takes_skip.mp skipped
      obtain ⟨_, _, aimed, taken⟩ := takes_bind.mp taken
      obtain ⟨opening, aim, closing, after, rfl, opens, ⟨isWord, given, aims, rfl⟩,
          closes, rfl⟩ :=
        (takes_inParentheses marked (takesOne_bearing assigned marked)).mp aimed
      obtain ⟨rfl, rfl⟩ := takes_pure.mp taken
      exact ⟨after, rfl, .simple (.shoot starts shape.1 shape.2 opens isWord aims closes)⟩
  · split at taken
    · next shape =>
      cases middle with
      | nil => exact nomatch shape.1.symm.trans marked
      | cons word middle =>
        obtain ⟨_, _, skipped, taken⟩ := takes_bind.mp taken
        obtain rfl := takes_skip.mp skipped
        obtain ⟨_, _, aimed, taken⟩ := takes_bind.mp taken
        obtain ⟨opening, aim, closing, after, rfl, opens, ⟨isWord, direction, aims, rfl⟩,
            closes, rfl⟩ :=
          (takes_inParentheses marked (takesOne_directionWord marked)).mp aimed
        obtain ⟨rfl, rfl⟩ := takes_pure.mp taken
        exact ⟨after, rfl, .simple (.melee starts shape.1 shape.2 opens isWord aims closes)⟩
    · exact absurd taken not_takes_unexpected

theorem stands_of_instruction {assigned : List String} {token beyond : Token} {tokens : List Token}
    {rest : Cursor} {item : Item} (marked : beyond.kind = .endOfFile) (isWord : token.kind = .word)
    (noTarget : NoEquals tokens)
    (taken : (instruction assigned token).Takes ⟨tokens, beyond⟩ item rest) :
    ∃ after, rest = ⟨after, beyond⟩ ∧ Stands assigned (token :: tokens) item after := by
  have starts : ∀ keyword, Keyword.ofName? token.text = some keyword →
      Starts keyword (token :: tokens) tokens :=
    fun keyword found => .here isWord (Keyword.name_of_ofName? found) noTarget
  unfold instruction at taken
  split at taken
  · next found =>
    obtain ⟨expr, _, read, taken⟩ := takes_bind.mp taken
    obtain ⟨after, rfl, value⟩ := (takes_expression_iff marked).mp read
    obtain ⟨rfl, rfl⟩ := takes_pure.mp taken
    exact ⟨after, rfl, .simple (.print (starts _ found) value)⟩
  · next found =>
    obtain ⟨target, _, expected, taken⟩ := takes_bind.mp taken
    obtain ⟨after, rfl, named, rfl⟩ := (takes_expect_iff marked (by decide)).mp expected
    obtain ⟨rfl, rfl⟩ := takes_pure.mp taken
    exact ⟨after, rfl, .simple (.input (starts _ found) named)⟩
  · next found =>
    obtain ⟨target, _, expected, taken⟩ := takes_bind.mp taken
    obtain ⟨after, rfl, named, rfl⟩ := (takes_expect_iff marked (by decide)).mp expected
    obtain ⟨rfl, rfl⟩ := takes_pure.mp taken
    exact ⟨after, rfl, .simple (.goto (starts _ found) named)⟩
  · next found =>
    obtain ⟨_, _, aimed, taken⟩ := takes_bind.mp taken
    obtain ⟨opening, aim, closing, after, rfl, opens, ⟨aimWord, given, aims, rfl⟩,
        closes, rfl⟩ :=
      (takes_inParentheses marked (takesOne_bearing assigned marked)).mp aimed
    obtain ⟨rfl, rfl⟩ := takes_pure.mp taken
    exact ⟨after, rfl, .simple (.move (starts _ found) opens aimWord aims closes)⟩
  · next found => exact stands_of_attack marked (starts _ found) taken
  · next found =>
    obtain ⟨_, _, enclosed, taken⟩ := takes_bind.mp taken
    obtain ⟨opening, closing, after, rfl, opens, closes, rfl⟩ :=
      (takes_parentheses marked).mp enclosed
    obtain ⟨rfl, rfl⟩ := takes_pure.mp taken
    exact ⟨after, rfl, .simple (.reload (starts _ found) opens closes)⟩
  · next found =>
    obtain ⟨condition, _, read, taken⟩ := takes_bind.mp taken
    obtain ⟨after, rfl, test⟩ := (takes_expression_iff marked).mp read
    obtain ⟨rfl, rfl⟩ := takes_pure.mp taken
    exact ⟨after, rfl, .opening (.si (starts _ found) test)⟩
  · next found =>
    obtain ⟨condition, _, read, taken⟩ := takes_bind.mp taken
    obtain ⟨after, rfl, test⟩ := (takes_expression_iff marked).mp read
    obtain ⟨rfl, rfl⟩ := takes_pure.mp taken
    exact ⟨after, rfl, .opening (.tantque (starts _ found) test)⟩
  · next found =>
    obtain ⟨header, _, read, taken⟩ := takes_bind.mp taken
    obtain ⟨opening, _, _, _, closing, after, init, condition, step, rfl, opens, enters, test,
      steps, closes, rfl, rfl⟩ := (takes_countedHeader marked).mp read
    obtain ⟨rfl, rfl⟩ := takes_pure.mp taken
    exact ⟨after, rfl, .opening (.pour (starts _ found) opens enters test steps closes)⟩
  · next found =>
    obtain ⟨rfl, rfl⟩ := takes_pure.mp taken
    exact ⟨tokens, rfl, .divider (starts _ found)⟩
  · next found =>
    obtain ⟨rfl, rfl⟩ := takes_pure.mp taken
    exact ⟨tokens, rfl, .closing (starts _ found)⟩
  · next found =>
    obtain ⟨rfl, rfl⟩ := takes_pure.mp taken
    exact ⟨tokens, rfl, .closing (starts _ found)⟩
  · next found =>
    obtain ⟨rfl, rfl⟩ := takes_pure.mp taken
    exact ⟨tokens, rfl, .closing (starts _ found)⟩
  · exact absurd taken not_takes_unexpected

theorem stands_of_item {assigned : List String} {token beyond : Token} {tokens : List Token}
    {rest : Cursor} {item : Item} (marked : beyond.kind = .endOfFile)
    (taken : (Reader.item assigned token).Takes ⟨tokens, beyond⟩ item rest) :
    ∃ after, rest = ⟨after, beyond⟩ ∧ Stands assigned (token :: tokens) item after := by
  unfold Reader.item at taken
  split at taken
  · next isLabel =>
    obtain ⟨rfl, rfl⟩ := takes_pure.mp taken
    exact ⟨tokens, rfl, .label isLabel⟩
  · next isWord =>
    obtain ⟨_, _, peeked, taken⟩ := takes_bind.mp taken
    obtain ⟨rfl, rfl⟩ := takes_peek.mp peeked
    split at taken
    · next isEquals =>
      obtain ⟨_, _, skipped, taken⟩ := takes_bind.mp taken
      obtain rfl := takes_skip.mp skipped
      obtain ⟨expr, _, read, taken⟩ := takes_bind.mp taken
      obtain ⟨rfl, rfl⟩ := takes_pure.mp taken
      cases tokens with
      | nil => exact nomatch isEquals.symm.trans marked
      | cons sign tokens =>
        obtain ⟨after, rfl, value⟩ := (takes_expression_iff marked).mp read
        exact ⟨after, rfl, .simple (.assign (.here isWord isEquals value))⟩
    · next noEquals =>
      refine stands_of_instruction marked isWord ?_ taken
      intro follower found
      cases tokens with
      | nil => exact nomatch found
      | cons first tokens =>
        cases found
        exact noEquals
  · exact absurd taken not_takes_unexpected

/-! ## From the grammar to the reader -/

/-- A keyword that is no target of an assignment is read as an instruction. -/
theorem item_of_starts {assigned : List String} {keyword : Keyword} {beyond : Token}
    {tokens middle : List Token} (marked : beyond.kind = .endOfFile)
    (starts : Starts keyword tokens middle) :
    ∃ word, tokens = word :: middle ∧ word.kind = .word ∧
      Keyword.ofName? word.text = some keyword ∧
      ∀ {item rest}, (instruction assigned word).Takes ⟨middle, beyond⟩ item rest →
        (Reader.item assigned word).Takes ⟨middle, beyond⟩ item rest := by
  cases starts with
  | @here word _ isWord named noTarget =>
    have noEquals : (⟨middle, beyond⟩ : Cursor).peek.kind ≠ .equals := by
      cases middle with
      | nil => exact fun isEquals => nomatch isEquals.symm.trans marked
      | cons first rest => exact noTarget first rfl
    refine ⟨word, rfl, isWord, by rw [named, Keyword.ofName?_name], ?_⟩
    intro item rest taken
    unfold Reader.item
    simp only [isWord]
    refine takes_bind.mpr ⟨_, _, takes_peek.mpr ⟨rfl, rfl⟩, ?_⟩
    rw [if_neg noEquals]
    exact taken

theorem item_of_forms {assigned : List String} {tokens rest : List Token} {simple : Simple}
    {beyond : Token} (marked : beyond.kind = .endOfFile)
    (forms : Forms assigned tokens simple rest) :
    ∃ word after, tokens = word :: after ∧ word.kind = .word ∧
      (Reader.item assigned word).Takes ⟨after, beyond⟩ (.statement simple.statement)
        ⟨rest, beyond⟩ := by
  cases forms with
  | assign sets =>
    cases sets with
    | @here target sign tokens _ expr isWord isEquals value =>
      refine ⟨target, _, rfl, isWord, ?_⟩
      unfold Reader.item
      simp only [isWord]
      refine takes_bind.mpr ⟨sign, _, takes_peek.mpr ⟨rfl, rfl⟩, ?_⟩
      rw [if_pos isEquals]
      refine takes_bind.mpr ⟨(), _, takes_skip.mpr rfl, ?_⟩
      refine takes_bind.mpr ⟨expr, _, (takes_expression_iff marked).mpr ⟨rest, rfl, value⟩,
        ?_⟩
      exact takes_pure.mpr ⟨rfl, rfl⟩
  | print starts value =>
    obtain ⟨word, rfl, isWord, found, read⟩ := item_of_starts marked starts
    refine ⟨word, _, rfl, isWord, read ?_⟩
    unfold instruction
    rw [found]
    refine takes_bind.mpr ⟨_, _, (takes_expression_iff marked).mpr ⟨rest, rfl, value⟩, ?_⟩
    exact takes_pure.mpr ⟨rfl, rfl⟩
  | input starts named =>
    obtain ⟨word, rfl, isWord, found, read⟩ := item_of_starts marked starts
    refine ⟨word, _, rfl, isWord, read ?_⟩
    unfold instruction
    rw [found]
    refine takes_bind.mpr ⟨_, _,
      (takes_expect_iff marked (by decide)).mpr ⟨rest, rfl, named, rfl⟩, ?_⟩
    exact takes_pure.mpr ⟨rfl, rfl⟩
  | goto starts named =>
    obtain ⟨word, rfl, isWord, found, read⟩ := item_of_starts marked starts
    refine ⟨word, _, rfl, isWord, read ?_⟩
    unfold instruction
    rw [found]
    refine takes_bind.mpr ⟨_, _,
      (takes_expect_iff marked (by decide)).mpr ⟨rest, rfl, named, rfl⟩, ?_⟩
    exact takes_pure.mpr ⟨rfl, rfl⟩
  | move starts opens aimWord aims closes =>
    obtain ⟨word, rfl, isWord, found, read⟩ := item_of_starts marked starts
    refine ⟨word, _, rfl, isWord, read ?_⟩
    unfold instruction
    rw [found]
    refine takes_bind.mpr ⟨some _, ⟨rest, beyond⟩, ?_, takes_pure.mpr ⟨rfl, rfl⟩⟩
    exact (takes_inParentheses marked (takesOne_bearing assigned marked)).mpr
      ⟨_, _, _, rest, rfl, opens, ⟨aimWord, _, aims, rfl⟩, closes, rfl⟩
  | shoot starts attacks named opens aimWord aims closes =>
    obtain ⟨word, rfl, isWord, found, read⟩ := item_of_starts marked starts
    refine ⟨word, _, rfl, isWord, read ?_⟩
    unfold instruction
    rw [found]
    refine takes_bind.mpr ⟨_, _, takes_peek.mpr ⟨rfl, rfl⟩, ?_⟩
    rw [if_pos ⟨attacks, named⟩]
    refine takes_bind.mpr ⟨(), _, takes_skip.mpr rfl, ?_⟩
    refine takes_bind.mpr ⟨some _, ⟨rest, beyond⟩, ?_, takes_pure.mpr ⟨rfl, rfl⟩⟩
    exact (takes_inParentheses marked (takesOne_bearing assigned marked)).mpr
      ⟨_, _, _, rest, rfl, opens, ⟨aimWord, _, aims, rfl⟩, closes, rfl⟩
  | @melee _ attack _ _ _ _ starts attacks named opens aimWord aims closes =>
    obtain ⟨word, rfl, isWord, found, read⟩ := item_of_starts marked starts
    refine ⟨word, _, rfl, isWord, read ?_⟩
    have noShot : attack.text ≠ Keyword.tirer.name := by
      rw [named]
      decide
    unfold instruction
    rw [found]
    refine takes_bind.mpr ⟨_, _, takes_peek.mpr ⟨rfl, rfl⟩, ?_⟩
    rw [if_neg fun shape => noShot shape.2, if_pos ⟨attacks, named⟩]
    refine takes_bind.mpr ⟨(), _, takes_skip.mpr rfl, ?_⟩
    refine takes_bind.mpr ⟨some _, ⟨rest, beyond⟩, ?_, takes_pure.mpr ⟨rfl, rfl⟩⟩
    exact (takes_inParentheses marked (takesOne_directionWord marked)).mpr
      ⟨_, _, _, rest, rfl, opens, ⟨aimWord, _, aims, rfl⟩, closes, rfl⟩
  | reload starts opens closes =>
    obtain ⟨word, rfl, isWord, found, read⟩ := item_of_starts marked starts
    refine ⟨word, _, rfl, isWord, read ?_⟩
    unfold instruction
    rw [found]
    refine takes_bind.mpr ⟨(), ⟨rest, beyond⟩, ?_, takes_pure.mpr ⟨rfl, rfl⟩⟩
    exact (takes_parentheses marked).mpr ⟨_, _, rest, rfl, opens, closes, rfl⟩

theorem item_of_opens {assigned : List String} {tokens rest : List Token} {header : Header}
    {beyond : Token} (marked : beyond.kind = .endOfFile) (opens : Opens tokens header rest) :
    ∃ word after, tokens = word :: after ∧ word.kind = .word ∧
      (Reader.item assigned word).Takes ⟨after, beyond⟩ (.opening header)
        ⟨rest, beyond⟩ := by
  cases opens with
  | si starts test =>
    obtain ⟨word, rfl, isWord, found, read⟩ := item_of_starts marked starts
    refine ⟨word, _, rfl, isWord, read ?_⟩
    unfold instruction
    rw [found]
    refine takes_bind.mpr ⟨_, _, (takes_expression_iff marked).mpr ⟨rest, rfl, test⟩, ?_⟩
    exact takes_pure.mpr ⟨rfl, rfl⟩
  | tantque starts test =>
    obtain ⟨word, rfl, isWord, found, read⟩ := item_of_starts marked starts
    refine ⟨word, _, rfl, isWord, read ?_⟩
    unfold instruction
    rw [found]
    refine takes_bind.mpr ⟨_, _, (takes_expression_iff marked).mpr ⟨rest, rfl, test⟩, ?_⟩
    exact takes_pure.mpr ⟨rfl, rfl⟩
  | pour starts opens enters test steps closes =>
    obtain ⟨word, rfl, isWord, found, read⟩ := item_of_starts marked starts
    refine ⟨word, _, rfl, isWord, read ?_⟩
    unfold instruction
    rw [found]
    refine takes_bind.mpr ⟨_, ⟨rest, beyond⟩, ?_, takes_pure.mpr ⟨rfl, rfl⟩⟩
    exact (takes_countedHeader marked).mpr ⟨_, _, _, _, _, rest, _, _, _, rfl, opens, enters,
      test, steps, closes, rfl, rfl⟩

theorem item_of_stands {assigned : List String} {tokens rest : List Token} {item : Item}
    {beyond : Token} (marked : beyond.kind = .endOfFile)
    (stands : Stands assigned tokens item rest) :
    ∃ token after, tokens = token :: after ∧ (token.kind = .label ∨ token.kind = .word) ∧
      (Reader.item assigned token).Takes ⟨after, beyond⟩ item ⟨rest, beyond⟩ := by
  cases stands with
  | @label token _ isLabel =>
    refine ⟨token, rest, rfl, .inl isLabel, ?_⟩
    unfold Reader.item
    simp only [isLabel]
    exact takes_pure.mpr ⟨rfl, rfl⟩
  | simple forms =>
    obtain ⟨word, after, rfl, isWord, taken⟩ := item_of_forms marked forms
    exact ⟨word, after, rfl, .inr isWord, taken⟩
  | opening opens =>
    obtain ⟨word, after, rfl, isWord, taken⟩ := item_of_opens marked opens
    exact ⟨word, after, rfl, .inr isWord, taken⟩
  | divider divides =>
    obtain ⟨word, same, isWord, found, read⟩ := item_of_starts marked divides
    cases same
    refine ⟨_, rest, rfl, .inr isWord, read ?_⟩
    unfold instruction
    rw [found]
    exact takes_pure.mpr ⟨rfl, rfl⟩
  | @closing _ _ block closes =>
    obtain ⟨word, same, isWord, found, read⟩ := item_of_starts marked closes
    cases same
    refine ⟨_, rest, rfl, .inr isWord, read ?_⟩
    unfold instruction
    rw [found]
    cases block with
    | si => exact takes_pure.mpr ⟨rfl, rfl⟩
    | tantque => exact takes_pure.mpr ⟨rfl, rfl⟩
    | pour => exact takes_pure.mpr ⟨rfl, rfl⟩

end Grammar

end RobotScript
