import RobotScript.Proofs.Blocks
import RobotScript.Proofs.Grammar.Parse
import RobotScript.Proofs.Token.Lines

/-!
# Items in a row

`Lists` is the grammar of items in a row, whatever blocks they open and close.

The grammar looks one token ahead and asks only whether a sign stands there. Where a token stands
matters to the items that come with their tokens, and to nothing else. So the tokens of an item can
be moved, and others can follow them. `Moves` says this of a relation of the grammar, and there is
one lemma for each relation, up to `Lists.moves`.

* `Lists.of_contents`: other tokens that say the same list the same items.
* `Lists.change_rest`: other tokens can come after the items.
* `readOn_of_lists`: items in a row are laid out one after the other, without a finding.
-/

namespace RobotScript

/-- The token at another place. -/
def Token.move (put : Token → Place) (token : Token) : Token :=
  { token with place := put token }

/-- The item with its token at another place. -/
def Item.move (put : Token → Place) : Item → Item
  | divider token => divider (token.move put)
  | closing block token => closing block (token.move put)
  | item => item

namespace Grammar

/-! ## What can follow -/

/-- Where the rest came next, the other tokens can: they start with no sign, or with one of the same
kind. -/
def Follows (rest next : List Token) : Prop :=
  ∀ token ∈ next.head?, Reader.isSign token = true → ∃ other ∈ rest.head?,
    other.kind = token.kind

variable {put : Token → Place} {tokens middle rest next : List Token}

theorem follows_of_noSign (noSign : ∀ token ∈ next.head?, Reader.isSign token = false) :
    Follows rest next := by
  intro token first isSign
  cases (noSign token first).symm.trans isSign

theorem follows_cons (token : Token) (rest next : List Token) :
    Follows (token :: rest) (token.move put :: next) := by
  intro other first _
  cases first
  exact ⟨token, rfl, rfl⟩

theorem Follows.append (follows : Follows rest next) (used : List Token) :
    Follows (used ++ rest) (used.map (Token.move put) ++ next) := by
  cases used with
  | nil => exact follows
  | cons token used => exact follows_cons _ _ _

theorem Follows.noSign (follows : Follows rest next)
    (noSign : ∀ token ∈ rest.head?, Reader.isSign token = false) :
    ∀ token ∈ next.head?, Reader.isSign token = false := by
  intro token first
  refine Bool.eq_false_iff.mpr fun isSign => ?_
  obtain ⟨other, before, same⟩ := follows token first isSign
  have plain := noSign other before
  unfold Reader.isSign at plain isSign
  rw [same, isSign] at plain
  cases plain

theorem Follows.noEquals (follows : Follows rest next) (noEquals : NoEquals rest) :
    NoEquals next := by
  intro token first isEquals
  obtain ⟨other, before, same⟩ := follows token first (decide_eq_true (.inr isEquals))
  exact noEquals other before (same.trans isEquals)

/-! ## Tokens that are moved -/

/-- The relation goes from the tokens to the rest. It still does if the tokens in between are moved
and others follow. -/
def Moves (put : Token → Place) (relation : List Token → List Token → Prop)
    (tokens rest : List Token) : Prop :=
  ∃ used, tokens = used ++ rest ∧ ∀ next, Follows rest next →
    relation (used.map (Token.move put) ++ next) next

namespace Moves

variable {first second relation : List Token → List Token → Prop}

theorem imp (moves : Moves put first tokens rest)
    (implies : ∀ {tokens rest}, first tokens rest → relation tokens rest) :
    Moves put relation tokens rest := by
  obtain ⟨used, same, moved⟩ := moves
  exact ⟨used, same, fun next follows => implies (moved next follows)⟩

/-- Two relations, one after the other. -/
theorem andThen (movesFirst : Moves put first tokens middle)
    (movesSecond : Moves put second middle rest) :
    Moves put (fun tokens rest => ∃ middle, first tokens middle ∧ second middle rest)
      tokens rest := by
  obtain ⟨used, rfl, moved⟩ := movesFirst
  obtain ⟨more, rfl, movedMore⟩ := movesSecond
  refine ⟨used ++ more, (List.append_assoc ..).symm, ?_⟩
  intro next follows
  rw [List.map_append, List.append_assoc]
  exact ⟨_, moved _ (follows.append more), movedMore next follows⟩

/-- Some tokens that stand there, whatever follows them. -/
theorem run (run rest : List Token) :
    Moves put (fun tokens rest => tokens = run.map (Token.move put) ++ rest) (run ++ rest) rest :=
  ⟨run, rfl, fun _ _ => rfl⟩

end Moves

theorem Reads.moves {phrase : Phrase} {expr : Expr} (reads : Reads phrase tokens expr rest)
    (put : Token → Place) :
    Moves put (Reads phrase · expr ·) tokens rest := by
  induction reads with
  | @direction word _ _ isWord named =>
    exact (Moves.run [word] _).imp fun same => same ▸ .direction isWord named
  | @question word opening closing _ _ isWord named opens closes =>
    exact (Moves.run [word, opening, closing] _).imp fun same =>
      same ▸ .question isWord named opens closes
  | @var word _ isWord noDirection notEnemy notAlive =>
    exact (Moves.run [word] _).imp fun same => same ▸ .var isWord noDirection notEnemy notAlive
  | @number token _ isNumber =>
    exact (Moves.run [token] _).imp fun same => same ▸ .number isNumber
  | @text token _ isText => exact (Moves.run [token] _).imp fun same => same ▸ .text isText
  | @parentheses opening closing tokens rest expr opens _ closes ih =>
    refine ((Moves.run [opening] tokens).andThen (ih.andThen (Moves.run [closing] rest))).imp ?_
    rintro _ _ ⟨_, rfl, _, inner, rfl⟩
    exact .parentheses opens inner closes
  | expression _ _ ihFirst ihMore =>
    exact (ihFirst.andThen ihMore).imp fun ⟨_, first, more⟩ => .expression first more
  | noMore noSign => exact ⟨[], rfl, fun next follows => .noMore (follows.noSign noSign)⟩
  | @operator sign tokens middle rest left right expr op isSign named _ _ ihSecond ihMore =>
    refine ((Moves.run [sign] tokens).andThen (ihSecond.andThen ihMore)).imp ?_
    rintro _ _ ⟨_, rfl, _, second, more⟩
    exact .operator isSign named second more

theorem Starts.moves {keyword : Keyword} (starts : Starts keyword tokens rest)
    (put : Token → Place) :
    Moves put (Starts keyword) tokens rest := by
  cases starts with
  | @here word _ isWord named noTarget =>
    exact ⟨[word], rfl, fun next follows => .here isWord named (follows.noEquals noTarget)⟩

/-- A keyword and some tokens after it. -/
theorem Starts.moves_run {keyword : Keyword} (run : List Token)
    (starts : Starts keyword tokens (run ++ rest)) (put : Token → Place) :
    Moves put (fun tokens rest => Starts keyword tokens (run.map (Token.move put) ++ rest))
      tokens rest := by
  refine ((starts.moves put).andThen (Moves.run run rest)).imp ?_
  rintro _ _ ⟨_, starts, rfl⟩
  exact starts

theorem Sets.moves {assignment : Assignment} (sets : Sets tokens assignment rest)
    (put : Token → Place) :
    Moves put (Sets · assignment ·) tokens rest := by
  cases sets with
  | @here target sign tokens _ expr isWord isEquals value =>
    refine ((Moves.run [target, sign] tokens).andThen (value.moves put)).imp ?_
    rintro _ _ ⟨_, rfl, value⟩
    exact .here isWord isEquals value

theorem Forms.moves {assigned : List String} {item : Simple}
    (forms : Forms assigned tokens item rest) (put : Token → Place) :
    Moves put (Forms assigned · item ·) tokens rest := by
  cases forms with
  | assign sets => exact (sets.moves put).imp .assign
  | print starts value =>
    exact ((starts.moves put).andThen (value.moves put)).imp fun ⟨_, starts, value⟩ =>
      .print starts value
  | @input _ target starts isWord =>
    exact (Starts.moves_run [target] starts put).imp fun starts =>
      @Forms.input _ _ _ (target.move put) starts isWord
  | @goto _ target starts isWord =>
    exact (Starts.moves_run [target] starts put).imp fun starts =>
      @Forms.goto _ _ _ (target.move put) starts isWord
  | @move _ opening word closing _ starts opens isWord aims closes =>
    exact (Starts.moves_run [opening, word, closing] starts put).imp fun starts =>
      .move starts opens isWord aims closes
  | @shoot _ attack opening word closing _ starts attacks named opens isWord aims closes =>
    exact (Starts.moves_run [attack, opening, word, closing] starts put).imp fun starts =>
      .shoot starts attacks named opens isWord aims closes
  | @melee _ attack opening word closing _ starts attacks named opens isWord aims closes =>
    exact (Starts.moves_run [attack, opening, word, closing] starts put).imp fun starts =>
      .melee starts attacks named opens isWord aims closes
  | @reload _ opening closing starts opens closes =>
    exact (Starts.moves_run [opening, closing] starts put).imp fun starts =>
      .reload starts opens closes

theorem Opens.moves {header : Header} (opens : Opens tokens header rest) (put : Token → Place) :
    Moves put (Opens · header ·) tokens rest := by
  cases opens with
  | si starts test =>
    exact ((starts.moves put).andThen (test.moves put)).imp fun ⟨_, starts, test⟩ =>
      .si starts test
  | tantque starts test =>
    exact ((starts.moves put).andThen (test.moves put)).imp fun ⟨_, starts, test⟩ =>
      .tantque starts test
  | @pour _ first _ _ opening closing init step condition starts opens enters test steps closes =>
    have movesStart := Starts.moves_run [opening] starts put
    have movesStep := (steps.moves put).andThen (Moves.run [closing] rest)
    refine
      (movesStart.andThen ((enters.moves put).andThen ((test.moves put).andThen movesStep))).imp ?_
    rintro _ _ ⟨_, starts, _, enters, _, test, _, steps, rfl⟩
    exact .pour starts opens enters test steps closes

/-- An item stays the same when its tokens are moved, up to the token that it comes with. -/
theorem Stands.moves {assigned : List String} {item : Item}
    (stands : Stands assigned tokens item rest) (put : Token → Place) :
    Moves put (Stands assigned · (item.move put) ·) tokens rest := by
  cases stands with
  | @label token _ isLabel => exact (Moves.run [token] rest).imp fun same => same ▸ .label isLabel
  | simple forms => exact (forms.moves put).imp .simple
  | opening opens => exact (opens.moves put).imp .opening
  | @divider word _ divides =>
    cases divides with
    | here isWord named noTarget =>
      exact ⟨[word], rfl,
        fun next follows => .divider (.here isWord named (follows.noEquals noTarget))⟩
  | @closing word _ block closes =>
    cases closes with
    | here isWord named noTarget =>
      exact ⟨[word], rfl,
        fun next follows => .closing (.here isWord named (follows.noEquals noTarget))⟩

/-! ## Items in a row -/

/-- `Lists assigned tokens items written rest`: the items stand in a row at the start of the tokens
and leave the rest, where `assigned` are the names that were written before them and `written` those
after them. Line breaks stand between items only. -/
inductive Lists : List String → List Token → List Item → List String → List Token → Prop
  | nil {assigned : List String} {tokens : List Token} : Lists assigned tokens [] assigned tokens
  | lineBreak {assigned written : List String} {token : Token} {tokens rest : List Token}
      {items : List Item} (isBreak : token.kind = .lineBreak)
      (later : Lists assigned tokens items written rest) :
      Lists assigned (token :: tokens) items written rest
  | item {assigned written : List String} {tokens middle rest : List Token} {item : Item}
      {items : List Item} (stands : Stands assigned tokens item middle)
      (later : Lists (item.assigned ++ assigned) middle items written rest) :
      Lists assigned tokens (item :: items) written rest

variable {assigned inner written : List String} {items more : List Item}

theorem Lists.append (lists : Lists assigned tokens items inner middle)
    (later : Lists inner middle more written rest) :
    Lists assigned tokens (items ++ more) written rest := by
  induction lists with
  | nil => exact later
  | lineBreak isBreak _ ih => exact .lineBreak isBreak (ih later)
  | item stands _ ih => exact .item stands (ih later)

/-- An item of a row stands after those before it. -/
theorem Lists.split {item : Item}
    (lists : Lists assigned tokens (items ++ item :: more) written rest) :
    ∃ inner middle after, Lists assigned tokens items inner middle ∧
      Stands inner middle item after ∧
      Lists (item.assigned ++ inner) after more written rest := by
  generalize same : items ++ item :: more = all at lists
  induction lists generalizing items with
  | nil => cases List.append_ne_nil_of_right_ne_nil _ (List.cons_ne_nil _ _) same
  | lineBreak isBreak _ ih =>
    obtain ⟨inner, middle, after, before, stands, later⟩ := ih same
    exact ⟨inner, middle, after, .lineBreak isBreak before, stands, later⟩
  | item stands later ih =>
    cases items with
    | nil =>
      cases same
      exact ⟨_, _, _, .nil, stands, later⟩
    | cons other items =>
      obtain ⟨rfl, others⟩ :=
        List.cons.inj (show other :: (items ++ item :: more) = _ from same)
      obtain ⟨inner, middle, after, before, last, later⟩ := ih others
      exact ⟨inner, middle, after, .item stands before, last, later⟩

theorem assigned_move (put : Token → Place) (item : Item) :
    (item.move put).assigned = item.assigned := by
  cases item <;> rfl

/-- Items in a row stay the same when their tokens are moved, up to the tokens that they come
with. -/
theorem Lists.moves (lists : Lists assigned tokens items written rest) (put : Token → Place) :
    Moves put (Lists assigned · (items.map (Item.move put)) written ·) tokens rest := by
  induction lists with
  | nil => exact ⟨[], rfl, fun _ _ => .nil⟩
  | @lineBreak _ _ token tokens _ _ isBreak _ ih =>
    refine ((Moves.run [token] tokens).andThen ih).imp ?_
    rintro _ _ ⟨_, rfl, later⟩
    exact .lineBreak isBreak later
  | @item assigned _ _ _ _ item _ stands _ ih =>
    rw [← assigned_move put item] at ih
    exact ((stands.moves put).andThen ih).imp fun ⟨_, stands, later⟩ => .item stands later

/-! ## The end of the tokens -/

/-- Nothing is left of the tokens, or the end mark comes next. -/
def Over (tokens : List Token) : Prop :=
  ∀ token ∈ tokens.head?, token.kind = .endOfFile

theorem Over.move (ended : Over rest) (put : Token → Place) :
    Over (rest.map (Token.move put)) := by
  intro token first
  rw [List.head?_map] at first
  obtain ⟨other, before, rfl⟩ := Option.map_eq_some_iff.mp first
  exact ended other before

theorem noSign_of_kind {token : Token} {kind : TokenKind} (found : token.kind = kind)
    (noSign : kind ≠ .operator ∧ kind ≠ .equals) :
    Reader.isSign token = false := by
  subst found
  exact decide_eq_false fun isSign => isSign.elim noSign.1 noSign.2

/-- Items in a row up to the end start with no sign. -/
theorem Lists.noSign (lists : Lists assigned tokens items written rest) (ended : Over rest) :
    ∀ token ∈ tokens.head?, Reader.isSign token = false := by
  intro token first
  cases lists with
  | nil => exact noSign_of_kind (ended token first) (by decide)
  | lineBreak isBreak =>
    cases first
    exact noSign_of_kind isBreak (by decide)
  | item stands =>
    obtain ⟨other, after, rfl, shape, -⟩ :=
      item_of_stands (show (Token.endMark .start).kind = .endOfFile from rfl) stands
    cases first
    rcases shape with isLabel | isWord
    · exact noSign_of_kind isLabel (by decide)
    · exact noSign_of_kind isWord (by decide)

/-- Items in a row up to the end are moved with all tokens. -/
theorem Lists.move (lists : Lists assigned tokens items written rest) (ended : Over rest)
    (put : Token → Place) :
    Lists assigned (tokens.map (Token.move put)) (items.map (Item.move put)) written
      (rest.map (Token.move put)) := by
  obtain ⟨used, rfl, moved⟩ := lists.moves put
  rw [List.map_append]
  refine moved _ (follows_of_noSign fun token first => ?_)
  exact noSign_of_kind (ended.move put token first) (by decide)

/-- A line break before items in a row up to the end makes no difference. -/
theorem Lists.of_lineBreak {token : Token} (isBreak : token.kind = .lineBreak)
    (lists : Lists assigned (token :: tokens) items written rest) (ended : Over rest) :
    Lists assigned tokens items written rest := by
  cases lists with
  | nil => cases isBreak.symm.trans (ended token rfl)
  | lineBreak _ later => exact later
  | item stands =>
    obtain ⟨other, after, same, shape, -⟩ :=
      item_of_stands (show (Token.endMark .start).kind = .endOfFile from rfl) stands
    cases same
    rcases shape with isLabel | isWord
    · cases isBreak.symm.trans isLabel
    · cases isBreak.symm.trans isWord

theorem lists_lineBreaks_iff {breaks : List Token}
    (all : ∀ token ∈ breaks, token.kind = .lineBreak) (ended : Over rest) :
    Lists assigned (breaks ++ tokens) items written rest ↔
      Lists assigned tokens items written rest := by
  induction breaks with
  | nil => exact Iff.rfl
  | cons token breaks ih =>
    obtain ⟨isBreak, others⟩ := List.forall_mem_cons.mp all
    exact ⟨fun lists => (ih others).mp (lists.of_lineBreak isBreak ended),
      fun lists => .lineBreak isBreak ((ih others).mpr lists)⟩

/-! ## Other tokens that say the same -/

/-- Tokens that say the same as others are these at other places. -/
theorem exists_move {others : List Token} (distinct : tokens.Nodup)
    (alike : tokens.map Token.content = others.map Token.content) :
    ∃ put, tokens.map (Token.move put) = others := by
  induction tokens generalizing others with
  | nil => exact ⟨Token.place, (List.map_eq_nil_iff.mp alike.symm).symm⟩
  | cons token tokens ih =>
    obtain ⟨other, others, rfl, same, more⟩ := List.map_eq_cons_iff.mp alike.symm
    obtain ⟨once, distinct⟩ := List.nodup_cons.mp distinct
    obtain ⟨put, moved⟩ := ih distinct more.symm
    refine ⟨Function.update put token other.place, ?_⟩
    rw [List.map_cons]
    congr 1
    · obtain ⟨sameKind, sameText⟩ := Prod.mk.inj same
      simp [Token.move, ← sameKind, ← sameText]
    · rw [← moved]
      refine List.map_congr_left fun later member => ?_
      have other : later ≠ token := fun equal => once (equal ▸ member)
      rw [Token.move, Function.update_of_ne other, Token.move]

theorem exists_lineBreaks (tokens : List Token) :
    ∃ breaks others, tokens = breaks ++ others ∧
      (∀ token ∈ breaks, token.kind = .lineBreak) ∧
      others.map Token.content = Token.contents tokens := by
  refine ⟨tokens.takeWhile (·.kind = .lineBreak), tokens.dropWhile (·.kind = .lineBreak),
    List.takeWhile_append_dropWhile.symm, ?_, ?_⟩
  · exact fun token member =>
      of_decide_eq_true (List.all_eq_true.mp List.all_takeWhile token member)
  · rw [Token.contents, List.dropWhile_map]
    rfl

/-- Items in a row up to the end are also those of other tokens that say the same, up to the line
breaks at their start. -/
theorem Lists.of_contents {others : List Token} (lists : Lists assigned tokens items written rest)
    (ended : Over rest) (distinct : tokens.Nodup)
    (alike : Token.contents tokens = Token.contents others) :
    ∃ put rest, Lists assigned others (items.map (Item.move put)) written rest ∧ Over rest := by
  obtain ⟨breaks, main, rfl, areBreaks, said⟩ := exists_lineBreaks tokens
  obtain ⟨otherBreaks, otherMain, rfl, areOtherBreaks, saidOther⟩ := exists_lineBreaks others
  obtain ⟨put, rfl⟩ :=
    exists_move (List.nodup_append.mp distinct).2.1 (said.trans (alike.trans saidOther.symm))
  have moved := ((lists_lineBreaks_iff areBreaks ended).mp lists).move ended put
  exact ⟨put, _, (lists_lineBreaks_iff areOtherBreaks (ended.move put)).mpr moved,
    ended.move put⟩

theorem map_move_place (tokens : List Token) : tokens.map (Token.move Token.place) = tokens :=
  List.map_id' tokens

theorem items_map_move_place (items : List Item) : items.map (Item.move Token.place) = items := by
  refine (List.map_congr_left fun item _ => ?_).trans (List.map_id items)
  cases item <;> rfl

/-- Other tokens can come after items in a row, if they start with no sign. -/
theorem Lists.change_rest {used : List Token}
    (lists : Lists assigned (used ++ rest) items written rest)
    (noSign : ∀ token ∈ next.head?, Reader.isSign token = false) :
    Lists assigned (used ++ next) items written next := by
  obtain ⟨front, same, moved⟩ := lists.moves Token.place
  obtain rfl := List.append_cancel_right same
  have changed := moved next (follows_of_noSign noSign)
  rwa [map_move_place, items_map_move_place] at changed

/-! ## Joints -/

theorem assigned_joint (joint : Joint) (token : Token) : (joint.item token).assigned = [] := by
  cases joint <;> rfl

theorem Lists.joint {joint : Joint} {token : Token} (isWord : token.kind = .word)
    (named : token.text = joint.keyword.name) (noEquals : NoEquals tokens)
    (later : Lists assigned tokens items written rest) :
    Lists assigned (token :: tokens) (joint.item token :: items) written rest := by
  have stands : Stands assigned (token :: tokens) (joint.item token) tokens := by
    cases joint with
    | divider => exact .divider (.here isWord named noEquals)
    | closer block => exact .closing (.here isWord named noEquals)
  refine .item stands ?_
  rw [assigned_joint]
  exact later

theorem Stands.eq_cons_of_joint {joint : Joint} {token : Token}
    (stands : Stands assigned tokens (joint.item token) rest) :
    tokens = token :: rest := by
  cases joint with
  | divider =>
    cases stands
    rfl
  | closer block =>
    cases stands
    rfl

end Grammar

namespace Draft

open Grammar

variable {draft : Draft} {assigned written : List String} {beyond : Token}
  {tokens rest : List Token} {items : List Item}

theorem readOn_over (ended : Over tokens) : draft.readOn assigned ⟨tokens, beyond⟩ = draft := by
  cases tokens with
  | nil => exact readOn_nil
  | cons token tokens => exact readOn_end (ended token rfl)

/-- Items in a row are laid out one after the other, without a finding. -/
theorem readOn_of_lists (marked : beyond.kind = .endOfFile)
    (lists : Lists assigned tokens items written rest) (draft : Draft) :
    draft.readOn assigned ⟨tokens, beyond⟩ =
      (items.foldl addItem draft).readOn written ⟨rest, beyond⟩ := by
  induction lists generalizing draft with
  | nil => rfl
  | lineBreak isBreak _ ih => rw [readOn_lineBreak isBreak, ih]
  | item stands _ ih => rw [readOn_of_stands marked stands, ih, List.foldl_cons]

end Draft

end RobotScript
