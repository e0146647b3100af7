import RobotScript.Proofs.Token.Scan

/-!
# The tokens of a script are its segments

A script is a row of pieces: tokens, separators and comments. After the last piece there may be a
word, a number or a text that the end of the script cuts off. `Fits` says what each piece looks like
and what stops it, and `Segments` puts pieces in a row.

1. `exists_segments`: every text is a row of pieces.
2. `scan_of_segments`: the scan of a row of pieces gives its tokens.
3. `Segments.split`: each piece fits what stands before and after it.
4. `Segments.increasing`: the places of the tokens increase.

`tokenize_segments` puts these together.
-/

namespace RobotScript

/-! ## Texts of tokens -/

namespace Text

/-- A number that a script can hold: one or more digits. -/
def isNumber (text : String) : Bool :=
  match text.toList with
  | [] => false
  | c :: rest => c.isDigit && rest.all Char.isDigit

theorem isNumber_iff {text : String} :
    isNumber text = true ↔ ∃ c run, text.toList = c :: run ∧ c.isDigit = true ∧
      ∀ d ∈ run, d.isDigit = true := by
  unfold isNumber
  cases text.toList with
  | nil => simp
  | cons c rest => exact first_and_all_iff

theorem isWordChar_of_isLetter {c : Char} (letter : isLetter c = true) : isWordChar c = true := by
  rw [isWordChar, letter, Bool.true_or]

theorem isWordChar_of_isDigit {c : Char} (digit : c.isDigit = true) : isWordChar c = true := by
  have ascii : c.toNat < 0x80 := by
    simp only [Char.isDigit, Bool.and_eq_true, decide_eq_true_eq, UInt32.le_iff_toNat_le, ge_iff_le]
      at digit
    exact Nat.lt_of_le_of_lt digit.2 (by decide)
  rw [isWordChar, isNumeral, if_pos ascii, digit, Bool.or_true]

end Text

namespace Token

/-! ## Pieces -/

/-- The characters that a token takes up in a script. -/
def Content.slice : Content → List Char
  | (.label, text) => text.toList ++ [':']
  | (.text, text) => '"' :: text.toList ++ ['"']
  | (_, text) => text.toList

/-- A piece of a script. The text of a comment is what stands after its sign. -/
inductive Piece where
  | token (token : Token)
  | separator (c : Char)
  | comment (remark : List Char)

namespace Piece

/-- The characters of a piece. -/
def chars : Piece → List Char
  | token given => given.content.slice
  | separator c => [c]
  | comment remark => '#' :: remark

/-- The token that a piece is. -/
def token? : Piece → Option Token
  | token given => some given
  | _ => none

variable (text : String) (place : Place)

@[simp] theorem chars_word : (Piece.token ⟨text, .word, place⟩).chars = text.toList := rfl

@[simp] theorem chars_number : (Piece.token ⟨text, .number, place⟩).chars = text.toList := rfl

@[simp] theorem chars_label :
    (Piece.token ⟨text, .label, place⟩).chars = text.toList ++ [':'] := rfl

@[simp] theorem chars_text :
    (Piece.token ⟨text, .text, place⟩).chars = '"' :: text.toList ++ ['"'] := rfl

theorem chars_sign {c : Char} {kind : TokenKind} (known : TokenKind.ofChar? c = some kind) :
    (Piece.token ⟨c.toString, kind, place⟩).chars = [c] := by
  unfold TokenKind.ofChar? at known
  split at known <;> cases known <;> exact String.toList_singleton _

@[simp] theorem chars_separator (c : Char) : (Piece.separator c).chars = [c] := rfl

@[simp] theorem chars_comment (remark : List Char) :
    (Piece.comment remark).chars = '#' :: remark := rfl

end Piece

/-- `Fits piece place after`: the piece can stand at the place with the given characters after it.

* A word or a number goes on as far as it can, and a character has to stop it. A colon makes a word
  a label.
* A quoted text goes on up to the next quote.
* A sign is one character.
* A comment goes on up to the end of its line or of the script. -/
inductive Fits : Piece → Place → List Char → Prop
  | word {text : String} {place : Place} {c : Char} {after : List Char}
      (isWord : Text.isWord text = true) (stops : Text.isWordChar c = false) (noLabel : c ≠ ':') :
      Fits (.token ⟨text, .word, place⟩) place (c :: after)
  | label {text : String} {place : Place} {after : List Char} (isWord : Text.isWord text = true) :
      Fits (.token ⟨text, .label, place⟩) place after
  | number {text : String} {place : Place} {c : Char} {after : List Char}
      (isNumber : Text.isNumber text = true) (stops : c.isDigit = false) :
      Fits (.token ⟨text, .number, place⟩) place (c :: after)
  | text {text : String} {place : Place} {after : List Char} (unquoted : '"' ∉ text.toList) :
      Fits (.token ⟨text, .text, place⟩) place after
  | sign {c : Char} {kind : TokenKind} {place : Place} {after : List Char}
      (known : TokenKind.ofChar? c = some kind) :
      Fits (.token ⟨c.toString, kind, place⟩) place after
  | separator {c : Char} {place : Place} {after : List Char} (separates : Separates c) :
      Fits (.separator c) place after
  | comment {remark : List Char} {place : Place} {after : List Char} (inLine : '\n' ∉ remark)
      (stops : ∀ c ∈ after.head?, c = '\n') : Fits (.comment remark) place after

/-- What the end of a script cuts off: nothing, a word, a number, or a quoted text without its
second quote. -/
inductive CutOff : List Char → Prop
  | nothing : CutOff []
  | word {text : String} (isWord : Text.isWord text = true) : CutOff text.toList
  | number {text : String} (isNumber : Text.isNumber text = true) : CutOff text.toList
  | quoted {chars : List Char} (unquoted : '"' ∉ chars) : CutOff ('"' :: chars)

/-- `Segments place chars pieces cut`: from the place on, the characters are the pieces in a row and
then what is cut off. -/
inductive Segments : Place → List Char → List Piece → List Char → Prop
  | cut {place : Place} {chars : List Char} (cutOff : CutOff chars) : Segments place chars [] chars
  | cons {place : Place} {piece : Piece} {pieces : List Piece} {after cut : List Char}
      (fits : Fits piece place after)
      (later : Segments (place.afterAll piece.chars) after pieces cut) :
      Segments place (piece.chars ++ after) (piece :: pieces) cut

/-! ## Every text is a row of pieces -/

/-- A text starts with a run of characters of a class, which goes on as far as it can. -/
theorem exists_run (belongs : Char → Bool) (chars : List Char) :
    ∃ run rest, chars = run ++ rest ∧ (∀ c ∈ run, belongs c = true) ∧
      ∀ c ∈ rest.head?, belongs c = false := by
  induction chars with
  | nil => exact ⟨[], [], rfl, by simp, by simp⟩
  | cons c chars ih =>
    cases first : belongs c with
    | true =>
      obtain ⟨run, rest, rfl, all, stops⟩ := ih
      exact ⟨c :: run, rest, rfl, List.forall_mem_cons.mpr ⟨first, all⟩, stops⟩
    | false => exact ⟨[], c :: chars, rfl, by simp, by simp [first]⟩

/-- A row of pieces begins with a piece that fits what can be cut into pieces. -/
theorem segments_of_piece (piece : Piece) {place : Place} {chars after : List Char}
    (same : chars = piece.chars ++ after) (fits : Fits piece place after)
    (later : ∃ pieces cut, Segments (place.afterAll piece.chars) after pieces cut) :
    ∃ pieces cut, Segments place chars pieces cut := by
  obtain ⟨pieces, cut, segments⟩ := later
  exact ⟨piece :: pieces, cut, same ▸ .cons fits segments⟩

section Begun

variable {chars : List Char} (later : ∀ place after, after.length ≤ chars.length →
  ∃ pieces cut, Segments place after pieces cut)
include later

/-- What begins like a word is a word, a label, or cut off. -/
theorem segments_word (place : Place) {c : Char} (letter : Text.isLetter c = true) :
    ∃ pieces cut, Segments place (c :: chars) pieces cut := by
  obtain ⟨run, rest, rfl, all, stops⟩ := exists_run Text.isWordChar chars
  have spelled : (String.ofList (c :: run)).toList = c :: run := String.toList_ofList
  have isWord : Text.isWord (String.ofList (c :: run)) = true :=
    Text.isWord_iff.mpr ⟨c, run, spelled, letter, all⟩
  cases rest with
  | nil =>
    rw [List.append_nil, ← spelled]
    exact ⟨[], _, .cut (.word isWord)⟩
  | cons d rest =>
    by_cases colon : d = ':'
    · refine segments_of_piece (.token ⟨String.ofList (c :: run), .label, place⟩)
        ?_ (.label isWord) (later _ rest ?_)
      · simp [colon]
      · simp only [List.length_append, List.length_cons]
        omega
    · refine segments_of_piece (.token ⟨String.ofList (c :: run), .word, place⟩)
        ?_ (.word isWord (stops d rfl) colon) (later _ (d :: rest) ?_)
      · simp
      · simp

/-- What begins like a number is a number or cut off. -/
theorem segments_number (place : Place) {c : Char} (digit : c.isDigit = true) :
    ∃ pieces cut, Segments place (c :: chars) pieces cut := by
  obtain ⟨run, rest, rfl, all, stops⟩ := exists_run Char.isDigit chars
  have spelled : (String.ofList (c :: run)).toList = c :: run := String.toList_ofList
  have isNumber : Text.isNumber (String.ofList (c :: run)) = true :=
    Text.isNumber_iff.mpr ⟨c, run, spelled, digit, all⟩
  cases rest with
  | nil =>
    rw [List.append_nil, ← spelled]
    exact ⟨[], _, .cut (.number isNumber)⟩
  | cons d rest =>
    refine segments_of_piece (.token ⟨String.ofList (c :: run), .number, place⟩)
      ?_ (.number isNumber (stops d rfl)) (later _ (d :: rest) ?_)
    · simp
    · simp

/-- What begins with a quote is a quoted text or cut off. -/
theorem segments_quoted (place : Place) :
    ∃ pieces cut, Segments place ('"' :: chars) pieces cut := by
  obtain ⟨run, rest, rfl, all, stops⟩ := exists_run (· ≠ '"') chars
  have unquoted : '"' ∉ run := fun member => of_decide_eq_true (all _ member) rfl
  cases rest with
  | nil =>
    rw [List.append_nil]
    exact ⟨[], _, .cut (.quoted unquoted)⟩
  | cons d rest =>
    have quote : d = '"' := Decidable.of_not_not (of_decide_eq_false (stops d rfl))
    have fits : '"' ∉ (String.ofList run).toList := by rwa [String.toList_ofList]
    refine segments_of_piece (.token ⟨String.ofList run, .text, place⟩) ?_ (.text fits)
      (later _ rest ?_)
    · simp [quote]
    · simp only [List.length_append, List.length_cons]
      omega

/-- What begins with the sign of a comment is a comment. -/
theorem segments_comment (place : Place) :
    ∃ pieces cut, Segments place ('#' :: chars) pieces cut := by
  obtain ⟨run, rest, rfl, all, stops⟩ := exists_run (· ≠ '\n') chars
  have inLine : '\n' ∉ run := fun member => of_decide_eq_true (all _ member) rfl
  have ends : ∀ c ∈ rest.head?, c = '\n' :=
    fun c member => Decidable.of_not_not (of_decide_eq_false (stops c member))
  exact segments_of_piece (.comment run) rfl (.comment inLine ends) (later _ rest (by simp))

end Begun

/-- Every text is a row of pieces, and what is cut off. -/
theorem exists_segments (place : Place) (chars : List Char) :
    ∃ pieces cut, Segments place chars pieces cut := by
  match chars with
  | [] => exact ⟨[], [], .cut .nothing⟩
  | c :: chars =>
    have later : ∀ place after, after.length ≤ chars.length →
        ∃ pieces cut, Segments place after pieces cut :=
      fun place after shorter => exists_segments place after
    cases sign : TokenKind.ofChar? c with
    | some kind =>
      refine segments_of_piece (.token ⟨c.toString, kind, place⟩) ?_ (.sign sign)
        (later _ chars (Nat.le_refl _))
      rw [Piece.chars_sign place sign, List.singleton_append]
    | none =>
      cases letter : Text.isLetter c with
      | true => exact segments_word later place letter
      | false =>
        cases digit : c.isDigit with
        | true => exact segments_number later place digit
        | false =>
          by_cases quote : c = '"'
          · exact quote ▸ segments_quoted later place
          · by_cases hash : c = '#'
            · exact hash ▸ segments_comment later place
            · exact segments_of_piece (.separator c) rfl
                (.separator ⟨sign, letter, digit, quote, hash⟩) (later _ chars (Nat.le_refl _))
termination_by chars.length

/-! ## The scan of a row of pieces -/

theorem not_isWordChar_of_sign {c : Char} {kind : TokenKind}
    (known : TokenKind.ofChar? c = some kind) :
    Text.isWordChar c = false := by
  unfold TokenKind.ofChar? at known
  split at known <;> first | rfl | cases known

theorem ofChar?_of_isWordChar {c : Char} (wordly : Text.isWordChar c = true) :
    TokenKind.ofChar? c = none := by
  cases known : TokenKind.ofChar? c with
  | none => rfl
  | some kind => cases (not_isWordChar_of_sign known).symm.trans wordly

theorem enter_letter {c : Char} (letter : Text.isLetter c = true) (place : Place) :
    Mode.enter place c = ([], .word place c.toString) := by
  rw [Mode.enter, ofChar?_of_isWordChar (Text.isWordChar_of_isLetter letter)]
  exact if_pos letter

theorem enter_digit {c : Char} (digit : c.isDigit = true) (place : Place) :
    Mode.enter place c = ([], .number place c.toString) := by
  rw [Mode.enter, ofChar?_of_isWordChar (Text.isWordChar_of_isDigit digit)]
  simp only [Text.not_isLetter_of_isDigit digit, digit, Bool.false_eq_true, if_false, if_true]

/-- A text that is spelled by its first character and a run. -/
theorem toString_append_ofList {text : String} {c : Char} {run : List Char}
    (spelled : text.toList = c :: run) :
    c.toString ++ String.ofList run = text := by
  apply String.toList_injective
  rw [spelled, String.toList_append, String.toList_ofList]
  exact congrArg (· ++ run) (String.toList_singleton c)

/-- A token that is begun by a first character and goes on with a run. -/
theorem scan_begun {mode : String → Mode} {text : String} {c : Char} {run : List Char}
    {place : Place} (spelled : text.toList = c :: run)
    (entered : Mode.enter place c = ([], mode c.toString))
    (goesOn : ∀ d ∈ run, ∀ text here, (mode text).feed here d = ([], mode (text.push d)))
    (chars : List Char) :
    scan .between place (text.toList ++ chars) =
      scan (mode text) (place.afterAll text.toList) chars := by
  have fed : Mode.between.feed place c = ([], mode c.toString) := entered
  rw [spelled, List.cons_append, scan, fed, List.nil_append, scan_run mode goesOn,
    toString_append_ofList spelled, Place.afterAll_cons]

theorem scan_begunWord {text : String} (isWord : Text.isWord text = true) (place : Place)
    (chars : List Char) :
    scan .between place (text.toList ++ chars) =
      scan (.word place text) (place.afterAll text.toList) chars := by
  obtain ⟨c, run, spelled, letter, all⟩ := Text.isWord_iff.mp isWord
  exact scan_begun spelled (enter_letter letter place)
    (fun d member _ _ => if_pos (all d member)) chars

theorem scan_begunNumber {text : String} (isNumber : Text.isNumber text = true) (place : Place)
    (chars : List Char) :
    scan .between place (text.toList ++ chars) =
      scan (.number place text) (place.afterAll text.toList) chars := by
  obtain ⟨c, run, spelled, digit, all⟩ := Text.isNumber_iff.mp isNumber
  exact scan_begun spelled (enter_digit digit place)
    (fun d member _ _ => if_pos (all d member)) chars

theorem scan_begunText {run : List Char} (unquoted : '"' ∉ run) (place : Place)
    (chars : List Char) :
    scan .between place ('"' :: run ++ chars) =
      scan (.quoted place (String.ofList run)) (place.afterAll ('"' :: run)) chars := by
  have goesOn : ∀ d ∈ run, ∀ text here, (Mode.quoted place text).feed here d =
      ([], .quoted place (text.push d)) := by
    intro d member text here
    have noQuote : d ≠ '"' := fun quote => unquoted (quote ▸ member)
    exact if_neg noQuote
  have begun := scan_run (Mode.quoted place) goesOn "" (place.after '"') chars
  rw [String.empty_append] at begun
  exact begun

/-- The scan of a piece gives its token, and goes on between tokens. -/
theorem scan_fits {piece : Piece} {place : Place} {after : List Char}
    (fits : Fits piece place after) :
    scan .between place (piece.chars ++ after) =
      piece.token?.toList ++ scan .between (place.afterAll piece.chars) after := by
  cases fits with
  | @word text _ c after isWord stops noLabel =>
    refine (scan_begunWord isWord place (c :: after)).trans ?_
    rw [scan, Mode.feed, if_neg (Bool.eq_false_iff.mp stops), if_neg noLabel]
    rfl
  | @label text _ after isWord =>
    have colon : ¬ Text.isWordChar ':' = true := by decide
    have ended : ∀ here, (Mode.word place text).feed here ':' =
        ([⟨text, .label, place⟩], .between) := by
      intro here
      rw [Mode.feed, if_neg colon, if_pos rfl]
    show scan .between place (text.toList ++ [':'] ++ after) = _
    rw [List.append_assoc, scan_begunWord isWord, List.singleton_append, scan, ended]
    rw [Piece.chars_label, Place.afterAll_append]
    rfl
  | @number text _ c after isNumber stops =>
    refine (scan_begunNumber isNumber place (c :: after)).trans ?_
    rw [scan, Mode.feed, if_neg (Bool.eq_false_iff.mp stops)]
    rfl
  | @text text _ after unquoted =>
    show scan .between place ('"' :: text.toList ++ ['"'] ++ after) = _
    rw [List.append_assoc, scan_begunText unquoted, String.ofList_toList]
    rw [Piece.chars_text, Place.afterAll_append]
    rfl
  | @sign c kind _ after known =>
    have entered : Mode.between.feed place c = ([⟨c.toString, kind, place⟩], .between) := by
      rw [Mode.feed, Mode.enter, known]
    rw [Piece.chars_sign place known, List.singleton_append, scan, entered]
    rfl
  | @separator c _ after separates =>
    exact scan_separators (List.forall_mem_singleton.mpr separates) place after
  | @comment remark _ after inLine stops =>
    have ended : ∀ here, scan .comment here after = scan .between here after := by
      intro here
      cases after with
      | nil => rfl
      | cons c after => exact scan_comment_lineBreak here (congrArg some (stops c rfl))
    refine (scan_comment inLine (place.after '#') after).trans ?_
    rw [ended]
    rfl

/-- The end of the script cuts off a word, a number or a text without giving a token. -/
theorem scan_cutOff {chars : List Char} (cutOff : CutOff chars) (place : Place) :
    scan .between place chars = [endMark (place.afterAll chars)] := by
  cases cutOff with
  | nothing => rfl
  | @word text isWord =>
    have begun := scan_begunWord isWord place []
    rw [List.append_nil] at begun
    exact begun
  | @number text isNumber =>
    have begun := scan_begunNumber isNumber place []
    rw [List.append_nil] at begun
    exact begun
  | @quoted chars unquoted =>
    have begun := scan_begunText unquoted place []
    rw [List.append_nil] at begun
    exact begun

/-- The scan of a row of pieces gives its tokens and an end mark behind the last character. -/
theorem scan_of_segments {place : Place} {chars cut : List Char} {pieces : List Piece}
    (segments : Segments place chars pieces cut) :
    scan .between place chars =
      pieces.filterMap Piece.token? ++ [endMark (place.afterAll chars)] := by
  induction segments with
  | cut cutOff => exact scan_cutOff cutOff _
  | @cons place piece pieces after cut fits later ih =>
    rw [scan_fits fits, ih, Place.afterAll_append, ← List.append_assoc]
    cases piece <;> rfl

/-! ## What stands around a piece -/

theorem Segments.whole {place : Place} {chars cut : List Char} {pieces : List Piece}
    (segments : Segments place chars pieces cut) : chars = pieces.flatMap Piece.chars ++ cut := by
  induction segments with
  | cut => rfl
  | cons fits later ih => rw [List.flatMap_cons, List.append_assoc, ← ih]

theorem Segments.cutOff {place : Place} {chars cut : List Char} {pieces : List Piece}
    (segments : Segments place chars pieces cut) : CutOff cut := by
  induction segments with
  | cut cutOff => exact cutOff
  | cons fits later ih => exact ih

/-- Each piece fits at its place what stands after it. -/
theorem Segments.split {place : Place} {chars cut : List Char} {pieces before after : List Piece}
    {piece : Piece} (segments : Segments place chars pieces cut)
    (same : pieces = before ++ piece :: after) :
    Fits piece (place.afterAll (before.flatMap Piece.chars))
      (after.flatMap Piece.chars ++ cut) := by
  induction segments generalizing before with
  | cut => cases before <;> cases same
  | cons fits later ih =>
    cases before with
    | nil =>
      cases same
      rw [← later.whole]
      exact fits
    | cons first before =>
      cases same
      rw [List.flatMap_cons, Place.afterAll_append]
      exact ih rfl

theorem Fits.chars_ne_nil {piece : Piece} {place : Place} {after : List Char}
    (fits : Fits piece place after) :
    piece.chars ≠ [] := by
  cases fits with
  | word isWord =>
    obtain ⟨c, run, spelled, -⟩ := Text.isWord_iff.mp isWord
    simp [spelled]
  | number isNumber =>
    obtain ⟨c, run, spelled, -⟩ := Text.isNumber_iff.mp isNumber
    simp [spelled]
  | sign known =>
    rw [Piece.chars_sign place known]
    exact List.cons_ne_nil _ _
  | label | text | separator | comment => simp

theorem Fits.place_eq {token : Token} {place : Place} {after : List Char}
    (fits : Fits (.token token) place after) :
    token.place = place := by
  cases fits <;> rfl

theorem Fits.real {token : Token} {place : Place} {after : List Char}
    (fits : Fits (.token token) place after) :
    token.kind ≠ .endOfFile := by
  cases fits with
  | sign known => exact (kind_of_ofChar? known).1
  | word | label | number | text => exact TokenKind.noConfusion

/-- A piece that a digit stands after does not end with a digit. -/
theorem Fits.noDigit {piece : Piece} {place : Place} {d : Char} {after : List Char}
    (fits : Fits piece place (d :: after)) (digit : d.isDigit = true) :
    ∀ c ∈ piece.chars.getLast?, c.isDigit = false := by
  cases fits with
  | word isWord stops => cases stops.symm.trans (Text.isWordChar_of_isDigit digit)
  | number isNumber stops => cases stops.symm.trans digit
  | label => simp
  | text =>
    rw [Piece.chars_text, List.getLast?_concat]
    simp
  | @sign c kind _ _ known =>
    have noDigit : c.isDigit = false := by
      refine Bool.eq_false_iff.mpr fun digit => ?_
      cases (not_isWordChar_of_sign known).symm.trans (Text.isWordChar_of_isDigit digit)
    rw [Piece.chars_sign place known]
    simpa using noDigit
  | separator separates => simpa using separates.2.2.1
  | comment inLine stops =>
    rw [stops d rfl] at digit
    cases digit

theorem Fits.digit_first {token : Token} {place : Place} {after : List Char}
    (fits : Fits (.token token) place after) (number : token.kind = .number) :
    ∃ d rest, (Piece.token token).chars = d :: rest ∧ d.isDigit = true := by
  cases fits with
  | number isNumber =>
    obtain ⟨d, run, spelled, digit, -⟩ := Text.isNumber_iff.mp isNumber
    exact ⟨d, run, spelled, digit⟩
  | sign known =>
    cases number
    unfold TokenKind.ofChar? at known
    split at known <;> cases known
  | word | label | text => cases number

theorem getLast?_append_of_ne_nil (first : List Char) {second : List Char}
    (nonempty : second ≠ []) :
    (first ++ second).getLast? = second.getLast? := by
  rw [List.getLast?_append, List.getLast?_eq_some_getLast nonempty, Option.some_or]

/-- A number does not go on to the left of its first digit. -/
theorem Segments.unextended {place : Place} {chars cut : List Char}
    {pieces before after : List Piece} {token : Token} (segments : Segments place chars pieces cut)
    (same : pieces = before ++ .token token :: after) (number : token.kind = .number) :
    ∀ c ∈ (before.flatMap Piece.chars).getLast?, c.isDigit = false := by
  obtain ⟨d, rest, written, digit⟩ := (segments.split same).digit_first number
  rcases before.eq_nil_or_concat with rfl | ⟨front, last, rfl⟩
  · simp
  · rw [List.concat_eq_append] at same ⊢
    have fits : Fits last _ ((Piece.token token :: after).flatMap Piece.chars ++ cut) :=
      segments.split (by rw [same, List.append_assoc, List.singleton_append])
    have nonempty := fits.chars_ne_nil
    rw [List.flatMap_cons, written] at fits
    rw [List.flatMap_append, List.flatMap_singleton, getLast?_append_of_ne_nil _ nonempty]
    exact fits.noDigit digit

end Token

/-! ## Increasing places -/

namespace Place

/-- A place comes before another in an earlier line, or in the same line in an earlier column. -/
instance : LT Place :=
  ⟨fun one other => one.line < other.line ∨ one.line = other.line ∧
    one.column < other.column⟩

theorem lt_trans {one other third : Place} (first : one < other) (second : other < third) :
    one < third := by
  rcases first with less | ⟨same, less⟩ <;> rcases second with more | ⟨equal, more⟩
  · exact .inl (Nat.lt_trans less more)
  · exact .inl (equal ▸ less)
  · exact .inl (same ▸ more)
  · exact .inr ⟨same.trans equal, Nat.lt_trans less more⟩

theorem lt_irrefl (place : Place) : ¬ place < place := by
  rintro (less | ⟨-, less⟩)
  · exact Nat.lt_irrefl _ less
  · exact Nat.lt_irrefl _ less

theorem line_le_of_lt {one other : Place} (less : one < other) : one.line ≤ other.line := by
  rcases less with less | ⟨same, -⟩
  · exact Nat.le_of_lt less
  · exact Nat.le_of_eq same

theorem lt_after (place : Place) (c : Char) : place < place.after c := by
  unfold after
  split
  · exact .inl (Nat.lt_succ_self _)
  · exact .inr ⟨rfl, Nat.lt_succ_self _⟩

theorem lt_afterAll (place : Place) {chars : List Char} (nonempty : chars ≠ []) :
    place < place.afterAll chars := by
  induction chars generalizing place with
  | nil => exact absurd rfl nonempty
  | cons c chars ih =>
    cases chars with
    | nil => exact place.lt_after c
    | cons d chars => exact lt_trans (place.lt_after c) (ih _ (List.cons_ne_nil d chars))

end Place

namespace Token

/-- The tokens of a row of pieces stand one after the other, and none before the row. -/
theorem Segments.increasing {place : Place} {chars cut : List Char} {pieces : List Piece}
    (segments : Segments place chars pieces cut) :
    (pieces.filterMap Piece.token? ++ [endMark (place.afterAll chars)]).Pairwise
      (·.place < ·.place) ∧
    ∀ token ∈ pieces.filterMap Piece.token? ++ [endMark (place.afterAll chars)],
      token.place = place ∨ place < token.place := by
  induction segments with
  | @cut place chars cutOff =>
    refine ⟨List.pairwise_singleton _ _, ?_⟩
    intro token member
    rw [List.mem_singleton.mp member]
    cases chars with
    | nil => exact .inl rfl
    | cons c chars => exact .inr (place.lt_afterAll (List.cons_ne_nil c chars))
  | @cons place piece pieces after cut fits later ih =>
    obtain ⟨ordered, least⟩ := ih
    rw [← Place.afterAll_append] at ordered least
    have beyond : ∀ token ∈ pieces.filterMap Piece.token? ++
        [endMark (place.afterAll (piece.chars ++ after))], place < token.place := by
      intro token member
      have passed := place.lt_afterAll fits.chars_ne_nil
      rcases least token member with same | less
      · exact same ▸ passed
      · exact Place.lt_trans passed less
    cases piece with
    | token token =>
      refine ⟨List.pairwise_cons.mpr ⟨?_, ordered⟩, ?_⟩
      · rw [fits.place_eq]
        exact beyond
      · intro other member
        rcases List.mem_cons.mp member with rfl | member
        · exact .inl fits.place_eq
        · exact .inr (beyond other member)
    | separator | comment => exact ⟨ordered, fun token member => .inr (beyond token member)⟩

/-! ## Scripts -/

/-- The tokens of a text stand one after the other, and none before the text. -/
theorem increasing_scan (place : Place) (chars : List Char) :
    (scan .between place chars).Pairwise (·.place < ·.place) ∧
    ∀ token ∈ scan .between place chars, token.place = place ∨ place < token.place := by
  obtain ⟨pieces, cut, segments⟩ := exists_segments place chars
  rw [scan_of_segments segments]
  exact segments.increasing

theorem increasing_tokenize (source : String) : (tokenize source).Pairwise (·.place < ·.place) :=
  (increasing_scan .start source.toList).1

/-- A token of a script is the end mark, or it fits what stands after it. -/
theorem fits_of_mem_tokenize {source : String} {token : Token} (member : token ∈ tokenize source)
    (real : token.kind ≠ .endOfFile) : ∃ place after, Fits (.token token) place after := by
  obtain ⟨pieces, cut, segments⟩ := exists_segments .start source.toList
  rw [tokenize, scan_of_segments segments] at member
  rcases List.mem_append.mp member with inside | last
  · obtain ⟨piece, inside, isToken⟩ := List.mem_filterMap.mp inside
    obtain ⟨before, after, same⟩ := List.append_of_mem inside
    have fits := segments.split same
    cases piece with
    | token given =>
      cases isToken
      exact ⟨_, _, fits⟩
    | separator | comment => cases isToken
  · rw [List.mem_singleton.mp last] at real
    exact absurd rfl real

/-- What is cut off at the end of a line is a quoted text. -/
theorem CutOff.quoted_of_lineBreak {cut : List Char} (cutOff : CutOff cut)
    (breaks : cut.getLast? = some '\n') :
    ∃ text, '"' ∉ text ∧ cut = '"' :: text := by
  have member := List.mem_of_getLast? breaks
  cases cutOff with
  | nothing => cases member
  | word isWord =>
    obtain ⟨c, run, spelled, letter, all⟩ := Text.isWord_iff.mp isWord
    rw [spelled] at member
    rcases List.mem_cons.mp member with first | later
    · cases (first ▸ Text.isWordChar_of_isLetter letter : Text.isWordChar '\n' = true)
    · cases all _ later
  | number isNumber =>
    obtain ⟨c, run, spelled, digit, all⟩ := Text.isNumber_iff.mp isNumber
    rw [spelled] at member
    rcases List.mem_cons.mp member with first | later
    · cases (first ▸ digit : Char.isDigit '\n' = true)
    · cases all _ later
  | quoted unquoted => exact ⟨_, unquoted, rfl⟩

/-- The characters are the pieces in a row and what is cut off, and nothing else.

* Each piece fits what stands after it, at the place behind what stands before it.
* No digit stands before a number.
* At the end of a line only a quoted text is cut off. -/
structure Segmented (chars : List Char) (pieces : List Piece) (cut : List Char) : Prop where
  whole : chars = pieces.flatMap Piece.chars ++ cut
  fits : ∀ before piece after, pieces = before ++ piece :: after →
    Fits piece (.behind (before.flatMap Piece.chars)) (after.flatMap Piece.chars ++ cut)
  unextended : ∀ before token after, pieces = before ++ .token token :: after →
    token.kind = .number → ∀ c ∈ (before.flatMap Piece.chars).getLast?, c.isDigit = false
  cutOff : CutOff cut
  ended : chars.getLast? = some '\n' → cut = [] ∨ ∃ text, '"' ∉ text ∧ cut = '"' :: text

theorem Segments.segmented {chars cut : List Char} {pieces : List Piece}
    (segments : Segments .start chars pieces cut) : Segmented chars pieces cut where
  whole := segments.whole
  fits := by
    intro before piece after same
    rw [← Place.afterAll_start]
    exact segments.split same
  unextended := fun _ _ _ same number => segments.unextended same number
  cutOff := segments.cutOff
  ended := by
    intro breaks
    by_cases nothing : cut = []
    · exact .inl nothing
    · rw [segments.whole, getLast?_append_of_ne_nil _ nothing] at breaks
      exact .inr (segments.cutOff.quoted_of_lineBreak breaks)

/-- The tokens of a script are a segmentation of it. They are followed by one end mark behind the
last character, their places increase, and what is no part of a token separates, is a comment, or is
cut off by the end of the script. -/
theorem tokenize_segments (source : String) :
    ∃ pieces cut, Segmented source.toList pieces cut ∧
      tokenize source = pieces.filterMap Piece.token? ++ [endMark (.behind source.toList)] ∧
      (∀ token ∈ pieces.filterMap Piece.token?, token.kind ≠ .endOfFile) ∧
      (tokenize source).Pairwise (·.place < ·.place) := by
  obtain ⟨pieces, cut, segments⟩ := exists_segments .start source.toList
  have scanned := scan_of_segments segments
  have ordered := segments.increasing.1
  rw [← scanned] at ordered
  rw [Place.afterAll_start] at scanned
  refine ⟨pieces, cut, segments.segmented, scanned, ?_, ordered⟩
  intro token member
  obtain ⟨piece, inside, isToken⟩ := List.mem_filterMap.mp member
  obtain ⟨before, after, same⟩ := List.append_of_mem inside
  have fits := segments.split same
  cases piece with
  | token given =>
    cases isToken
    exact fits.real
  | separator | comment => cases isToken

end Token

end RobotScript
