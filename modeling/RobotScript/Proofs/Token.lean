import RobotScript.Token

/-!
# What the scan gives

`tokenize_eq` says that the tokens of a script are lexemes and one end mark after them. A lexeme is
no end mark, and a word or a label starts with a letter, so that it is neither empty nor a numeral.
-/

namespace RobotScript

namespace Text

/-- The text starts with a letter. -/
def StartsWithLetter (text : String) : Prop :=
  ∃ c rest, text.toList = c :: rest ∧ isLetter c = true

/-- A word that a script can hold: a letter, and then letters and numerals. -/
def isWord (text : String) : Bool :=
  match text.toList with
  | [] => false
  | c :: rest => isLetter c && rest.all isWordChar

/-- A first character and a run of others, said of the characters. -/
theorem first_and_all_iff {first other : Char → Bool} {c : Char} {rest : List Char} :
    (first c && rest.all other) = true ↔
      ∃ d run, c :: rest = d :: run ∧ first d = true ∧ ∀ e ∈ run, other e = true := by
  rw [Bool.and_eq_true, List.all_eq_true]
  constructor
  · rintro ⟨begins, later⟩
    exact ⟨c, rest, rfl, begins, later⟩
  · rintro ⟨d, run, same, begins, later⟩
    cases same
    exact ⟨begins, later⟩

theorem isWord_iff {text : String} :
    isWord text = true ↔ ∃ c run, text.toList = c :: run ∧ isLetter c = true ∧
      ∀ d ∈ run, isWordChar d = true := by
  unfold isWord
  cases text.toList with
  | nil => simp
  | cons c rest => exact first_and_all_iff

theorem startsWithLetter_of_isWord {text : String} (word : isWord text = true) :
    StartsWithLetter text := by
  obtain ⟨c, run, chars, letter, -⟩ := isWord_iff.mp word
  exact ⟨c, run, chars, letter⟩

end Text

namespace Token

/-- A token that is no end mark. Words and labels start with a letter. -/
structure Lexeme (token : Token) : Prop where
  real : token.kind ≠ .endOfFile
  lettered : token.kind = .word ∨ token.kind = .label → Text.StartsWithLetter token.text

/-- A word that has been begun starts with a letter. -/
def Mode.Lettered : Mode → Prop
  | word _ text => Text.StartsWithLetter text
  | _ => True

theorem startsWithLetter_push {text : String} (starts : Text.StartsWithLetter text) (c : Char) :
    Text.StartsWithLetter (text.push c) := by
  obtain ⟨first, rest, same, letter⟩ := starts
  exact ⟨first, rest ++ [c], by rw [String.toList_push, same, List.cons_append], letter⟩

/-- No fixed character is an end mark, a word or a label. -/
theorem kind_of_ofChar? {c : Char} {kind : TokenKind} (found : TokenKind.ofChar? c = some kind) :
    kind ≠ .endOfFile ∧ kind ≠ .word ∧ kind ≠ .label := by
  unfold TokenKind.ofChar? at found
  split at found <;> cases found <;> decide

/-- What a character between tokens gives. -/
theorem enter_lexemes (place : Place) (c : Char) :
    (∀ token ∈ (Mode.enter place c).1, Lexeme token) ∧ (Mode.enter place c).2.Lettered := by
  unfold Mode.enter
  split
  · next kind found =>
    obtain ⟨real, noWord, noLabel⟩ := kind_of_ofChar? found
    refine ⟨?_, trivial⟩
    intro token member
    rw [List.mem_singleton.mp member]
    exact ⟨real, fun lettered => (lettered.elim noWord noLabel).elim⟩
  · split
    · next letter => exact ⟨nofun, c, [], by simp, letter⟩
    · split
      · exact ⟨nofun, trivial⟩
      · split
        · exact ⟨nofun, trivial⟩
        · split
          · exact ⟨nofun, trivial⟩
          · exact ⟨nofun, trivial⟩

/-- What a character gives in any mode. -/
theorem feed_lexemes {mode : Mode} (begun : mode.Lettered) (place : Place) (c : Char) :
    (∀ token ∈ (mode.feed place c).1, Lexeme token) ∧ (mode.feed place c).2.Lettered := by
  obtain ⟨entered, entering⟩ := enter_lexemes place c
  cases mode with
  | between => exact ⟨entered, entering⟩
  | word start text =>
    unfold Mode.feed
    dsimp only
    split
    · exact ⟨nofun, startsWithLetter_push begun c⟩
    · split
      · refine ⟨?_, trivial⟩
        intro token member
        rw [List.mem_singleton.mp member]
        exact ⟨nofun, fun _ => begun⟩
      · refine ⟨?_, entering⟩
        intro token member
        rcases List.mem_cons.mp member with rfl | later
        · exact ⟨nofun, fun _ => begun⟩
        · exact entered token later
  | number start text =>
    unfold Mode.feed
    dsimp only
    split
    · exact ⟨nofun, trivial⟩
    · refine ⟨?_, entering⟩
      intro token member
      rcases List.mem_cons.mp member with rfl | later
      · exact ⟨nofun, nofun⟩
      · exact entered token later
  | quoted start text =>
    unfold Mode.feed
    dsimp only
    split
    · refine ⟨?_, trivial⟩
      intro token member
      rw [List.mem_singleton.mp member]
      exact ⟨nofun, nofun⟩
    · exact ⟨nofun, trivial⟩
  | comment =>
    unfold Mode.feed
    dsimp only
    split
    · exact ⟨entered, entering⟩
    · exact ⟨nofun, trivial⟩

theorem scan_eq {mode : Mode} (begun : mode.Lettered) (place : Place) (chars : List Char) :
    ∃ lexemes mark, scan mode place chars = lexemes ++ [mark] ∧ mark.kind = .endOfFile ∧
      ∀ token ∈ lexemes, Lexeme token := by
  induction chars generalizing mode place with
  | nil => exact ⟨[], endMark place, rfl, rfl, nofun⟩
  | cons c chars ih =>
    obtain ⟨given, begun⟩ := feed_lexemes begun place c
    obtain ⟨lexemes, mark, same, isEnd, later⟩ := ih begun (place.after c)
    refine ⟨(mode.feed place c).1 ++ lexemes, mark, ?_, isEnd, ?_⟩
    · rw [scan, same, List.append_assoc]
    · intro token member
      exact (List.mem_append.mp member).elim (given token) (later token)

/-- A script is scanned as lexemes and an end mark. -/
theorem tokenize_eq (source : String) :
    ∃ lexemes mark, tokenize source = lexemes ++ [mark] ∧ mark.kind = .endOfFile ∧
      ∀ token ∈ lexemes, Lexeme token :=
  scan_eq (show Mode.between.Lettered from trivial) .start source.toList

/-- The words and labels of a script start with a letter. -/
theorem startsWithLetter_of_mem {source : String} {token : Token}
    (member : token ∈ tokenize source) (named : token.kind = .word ∨ token.kind = .label) :
    Text.StartsWithLetter token.text := by
  obtain ⟨lexemes, mark, same, isEnd, lexical⟩ := tokenize_eq source
  rw [same] at member
  rcases List.mem_append.mp member with inside | last
  · exact (lexical token inside).lettered named
  · rw [List.mem_singleton.mp last, isEnd] at named
    exact named.elim nofun nofun

end Token

/-! ## Numerals -/

namespace Text

theorem toString_injective {one other : Nat} (same : toString one = toString other) :
    one = other := by
  have digits : Nat.toDigits 10 one = Nat.toDigits 10 other := by
    rw [← Nat.toList_repr, ← Nat.toList_repr]
    exact congrArg String.toList same
  rw [← Nat.ofDigitChars_toDigits (n := one) (by decide) (Nat.le_refl 10), digits,
    Nat.ofDigitChars_toDigits (by decide) (Nat.le_refl 10)]

theorem toString_ne_empty (number : Nat) : toString number ≠ "" := by
  intro same
  have digits : Nat.toDigits 10 number = [] := by
    rw [← Nat.toList_repr]
    exact congrArg String.toList same
  exact Nat.toDigits_ne_nil digits

theorem not_isLetter_of_isDigit {c : Char} (digit : c.isDigit = true) : isLetter c = false := by
  simp only [Char.isDigit, Bool.and_eq_true, decide_eq_true_eq, UInt32.le_iff_toNat_le, ge_iff_le]
    at digit
  change 48 ≤ c.toNat ∧ c.toNat ≤ 57 at digit
  unfold isLetter
  rw [if_pos (by omega)]
  refine Bool.eq_false_iff.mpr fun alpha => ?_
  rcases (Bool.or_eq_true ..).mp (show (c.isUpper || c.isLower) = true from alpha) with
    upper | lower
  · have bounds : 65 ≤ c.toNat ∧ c.toNat ≤ 90 := of_decide_eq_true upper
    omega
  · have least : 97 ≤ c.toNat := of_decide_eq_true ((Bool.and_eq_true ..).mp lower).1
    omega

/-- A numeral does not start with a letter. -/
theorem not_startsWithLetter_toString (number : Nat) : ¬ StartsWithLetter (toString number) := by
  rintro ⟨c, rest, same, letter⟩
  have member : c ∈ Nat.toDigits 10 number := by
    rw [← Nat.toList_repr, show number.repr.toList = c :: rest from same]
    exact List.mem_cons_self
  have digit := Nat.isDigit_of_mem_toDigits (by decide) (Nat.le_refl 10) member
  exact nomatch (not_isLetter_of_isDigit digit).symm.trans letter

end Text

end RobotScript
