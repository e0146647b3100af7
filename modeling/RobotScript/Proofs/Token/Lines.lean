import Mathlib.Data.List.Nodup
import RobotScript.Proofs.Token.Segments

/-!
# Lines of a script

A script can be cut where the scan is between tokens, and also where a word or a number is over
(`Mode.StopsAt`). Then the token that is over comes first (`Mode.pending`), and the scan goes on as
between tokens.

A word that is the only token of its line stands alone there (`Alone`). `Alone.tokenize_eq` gives
the tokens of such a script, and `Alone.contents_eq` says that without the line the same tokens come
after those before it, up to a line break and up to their places. `Text.withoutLines` takes lines
out of a text.
-/

namespace RobotScript

/-! ## Places -/

namespace Place

/-- A line starts at the start of a script and behind a line break. -/
theorem column_behind_eq_one_iff {chars : List Char} :
    (behind chars).column = 1 ↔ chars = [] ∨ ∃ before, chars = before ++ ['\n'] := by
  rcases List.eq_nil_or_concat chars with rfl | ⟨before, c, rfl⟩
  · simp [behind]
  · rw [List.concat_eq_append, behind_snoc, after]
    by_cases isBreak : c = '\n'
    · simp [isBreak]
    · simp [isBreak, behind]

theorem eq_lineBreak_of_column {chars : List Char} {c : Char}
    (starts : (behind (chars ++ [c])).column = 1) : c = '\n' := by
  rcases column_behind_eq_one_iff.mp starts with empty | ⟨before, same⟩
  · simp at empty
  · exact (List.append_singleton_inj.mp same).2

theorem line_afterAll (place : Place) (chars : List Char) :
    (place.afterAll chars).line = place.line + chars.count '\n' := by
  induction chars generalizing place with
  | nil => rfl
  | cons c chars ih =>
    rw [afterAll_cons, ih, after]
    by_cases isBreak : c = '\n'
    · rw [if_pos isBreak, isBreak, List.count_cons_self, Nat.add_right_comm, Nat.add_assoc]
    · simp [isBreak]

/-- Characters in one line do not leave it. -/
theorem line_afterAll_of_inLine (place : Place) {chars : List Char} (inLine : '\n' ∉ chars) :
    (place.afterAll chars).line = place.line := by
  rw [line_afterAll, List.count_eq_zero_of_not_mem inLine, Nat.add_zero]

end Place

namespace Token

/-! ## Tokens one after the other -/

section

variable {all before after : List Token} {one other token : Token}

theorem nodup_places (increasing : all.Pairwise (·.place < ·.place)) : (all.map place).Nodup := by
  refine List.pairwise_map.mpr (increasing.imp ?_)
  intro one other less same
  rw [same] at less
  exact Place.lt_irrefl _ less

theorem nodup_tokenize (source : String) : (tokenize source).Nodup :=
  List.Nodup.of_map _ (nodup_places (increasing_tokenize source))

theorem eq_of_place_eq (increasing : all.Pairwise (·.place < ·.place)) (first : one ∈ all)
    (second : other ∈ all) (same : one.place = other.place) : one = other :=
  List.inj_on_of_nodup_map (nodup_places increasing) first second same

/-- A token stands at one place only among the tokens. -/
theorem parts_unique {front back : List Token}
    (increasing : (before ++ token :: after).Pairwise (·.place < ·.place))
    (same : before ++ token :: after = front ++ token :: back) :
    before = front ∧ after = back := by
  have once := (List.nodup_middle.mp (List.Nodup.of_map _ (nodup_places increasing))).notMem
  have apart := (List.append_cons_inj_of_notMem (fun member => once (List.mem_append_left _ member))
    (fun member => once (List.mem_append_right _ member))).mp same
  exact ⟨apart.1, apart.2.2⟩

end

/-- What the tokens say, without the line breaks at their start. -/
def contents (tokens : List Token) : List Content :=
  (tokens.map content).dropWhile (·.1 = .lineBreak)

/-! ## Where a token is over -/

namespace Mode

/-- What the scan is in the middle of is over before the character, and it is no label. -/
def StopsAt (c : Char) : Mode → Prop
  | between => True
  | word .. => Text.isWordChar c = false ∧ c ≠ ':'
  | number .. => c.isDigit = false
  | quoted .. => False
  | comment => c = '\n'

instance (c : Char) : (mode : Mode) → Decidable (mode.StopsAt c)
  | between => inferInstanceAs (Decidable True)
  | word .. => inferInstanceAs (Decidable (_ ∧ _))
  | number .. => inferInstanceAs (Decidable (_ = _))
  | quoted .. => inferInstanceAs (Decidable False)
  | comment => inferInstanceAs (Decidable (_ = _))

/-- The token that the scan is in the middle of, where it is over. -/
def pending : Mode → List Token
  | word start text => [⟨text, .word, start⟩]
  | number start text => [⟨text, .number, start⟩]
  | _ => []

theorem feed_eq_of_stopsAt {mode : Mode} {c : Char} (stops : mode.StopsAt c) (place : Place) :
    mode.feed place c = (mode.pending ++ (enter place c).1, (enter place c).2) := by
  cases mode with
  | between => rfl
  | word start text =>
    obtain ⟨noWord, noColon⟩ := stops
    simp only [feed, noWord, noColon, pending, if_false, Bool.false_eq_true, List.singleton_append]
  | number start text =>
    have noDigit : c.isDigit = false := stops
    simp only [feed, noDigit, pending, if_false, Bool.false_eq_true, List.singleton_append]
  | quoted start text => exact False.elim stops
  | comment =>
    obtain rfl : c = '\n' := stops
    rfl

/-- At the end of a line everything is over but a quoted text. -/
theorem stopsAt_lineBreak (mode : Mode) :
    mode.StopsAt '\n' ∨ ∃ start text, mode = quoted start text := by
  cases mode with
  | between => exact .inl trivial
  | word => exact .inl ⟨by decide, by decide⟩
  | number => exact .inl (by decide : Char.isDigit '\n' = false)
  | comment => exact .inl rfl
  | quoted start text => exact .inr ⟨start, text, rfl⟩

theorem StopsAt.lineBreak {mode : Mode} {c : Char} (stops : mode.StopsAt c) :
    mode.StopsAt '\n' := by
  rcases mode.stopsAt_lineBreak with stops | ⟨start, text, rfl⟩
  · exact stops
  · exact False.elim stops

theorem afterAll_append (mode : Mode) (place : Place) (first second : List Char) :
    mode.afterAll place (first ++ second) =
      (mode.afterAll place first).afterAll (place.afterAll first) second := by
  induction first generalizing mode place with
  | nil => rfl
  | cons c first ih => exact ih _ _

end Mode

/-- Where the scan stops, the token that is over comes, and then what comes between tokens. -/
theorem scan_eq_of_stopsAt {mode : Mode} {c : Char} (stops : mode.StopsAt c) (place : Place)
    (chars : List Char) :
    scan mode place (c :: chars) = mode.pending ++ scan .between place (c :: chars) := by
  rw [scan, Mode.feed_eq_of_stopsAt stops, scan, List.append_assoc]
  rfl

theorem scan_lineBreak (place : Place) (chars : List Char) :
    scan .between place ('\n' :: chars) =
      ⟨"\n", .lineBreak, place⟩ :: scan .between (place.after '\n') chars :=
  rfl

theorem map_content_scan_behind (before chars : List Char) :
    (scan .between (.behind before) chars).map content =
      (scan .between .start chars).map content := by
  rw [scan_behind, List.map_map]
  rfl

/-- Where a text stands makes no difference to what its tokens say. -/
theorem contents_scan_eq (before other chars : List Char) :
    contents (scan .between (.behind before) chars) =
      contents (scan .between (.behind other) chars) := by
  rw [contents, map_content_scan_behind, ← map_content_scan_behind other]
  rfl

theorem contents_scan_lineBreak (before other chars : List Char) :
    contents (scan .between (.behind before) ('\n' :: chars)) =
      contents (scan .between (.behind other) chars) := by
  rw [scan_lineBreak, ← Place.behind_snoc]
  exact contents_scan_eq _ _ _

/-- At the start of a line the scan is between tokens or in a quoted text. -/
theorem lastMode_of_column {source : String} (starts : (Place.behind source.toList).column = 1) :
    lastMode source = .between ∨ ∃ start text, lastMode source = .quoted start text := by
  rcases Place.column_behind_eq_one_iff.mp starts with empty | ⟨before, same⟩
  · rw [lastMode, empty]
    exact .inl rfl
  · rw [lastMode, same, Mode.afterAll_append]
    generalize Mode.between.afterAll .start before = mode
    rcases mode.stopsAt_lineBreak with stops | ⟨start, text, rfl⟩
    · left
      rw [Mode.afterAll, Mode.feed_eq_of_stopsAt stops]
      rfl
    · exact .inr ⟨start, _, rfl⟩

/-- Between tokens at the start of a line, the last token was a line break. -/
theorem lineBreak_of_column {source : String} (starts : (Place.behind source.toList).column = 1)
    (outside : lastMode source = .between) :
    ∀ token ∈ (tokenize source).dropLast.getLast?, token.kind = .lineBreak := by
  rcases Place.column_behind_eq_one_iff.mp starts with empty | ⟨before, same⟩
  · rw [tokenize, empty]
    intro token last
    cases last
  · rw [lastMode, same, Mode.afterAll_append] at outside
    rw [tokenize, same, scan_append]
    generalize Mode.between.afterAll .start before = mode at outside ⊢
    rcases mode.stopsAt_lineBreak with stops | ⟨start, text, rfl⟩
    · rw [scan_eq_of_stopsAt stops]
      intro token last
      rw [scan_lineBreak, ← List.append_assoc,
        List.dropLast_append_of_ne_nil (List.cons_ne_nil _ _), scan, List.dropLast_cons_cons,
        List.dropLast_singleton, List.getLast?_concat] at last
      cases last
      rfl
    · cases outside

/-- The script in two parts is parted between tokens: what the scan is in the middle of is over with
the first part. -/
def Parted (first second : String) : Prop :=
  (lastMode first).StopsAt (second.toList.headD '\n')

instance (first second : String) : Decidable (Parted first second) :=
  inferInstanceAs (Decidable (Mode.StopsAt _ _))

/-- The tokens of the first part, with the one that is over with it. -/
def completed (first : String) : List Token :=
  (tokenize first).dropLast ++ (lastMode first).pending

namespace Parted

variable {first second : String}

theorem exists_stopsAt (parted : Parted first second) :
    ∃ c chars, (second ++ "\n\n").toList = c :: chars ∧ (lastMode first).StopsAt c := by
  rw [String.toList_append]
  unfold Parted at parted
  generalize second.toList = chars at parted ⊢
  cases chars with
  | nil => exact ⟨'\n', ['\n'], rfl, parted⟩
  | cons c chars => exact ⟨c, _, rfl, parted⟩

theorem tokenize_eq (parted : Parted first second) :
    tokenize (first ++ second ++ "\n\n") =
      completed first ++ scan .between (.behind first.toList) (second ++ "\n\n").toList := by
  obtain ⟨c, chars, same, stops⟩ := parted.exists_stopsAt
  rw [String.append_assoc, tokenize_append_eq_scan, same, scan_eq_of_stopsAt stops,
    ← List.append_assoc]
  rfl

/-- If a line is started after the first part, at most a line break is added to its tokens. -/
theorem starts_line (parted : Parted first second) {before : String}
    (same : before = first ∨ before = first ++ "\n")
    (starts : (Place.behind before.toList).column = 1) :
    lastMode before = .between ∧
      ∃ breaks : List Token, (∀ token ∈ breaks, token.kind = .lineBreak) ∧
        (tokenize before).dropLast = completed first ++ breaks := by
  obtain ⟨c, chars, -, stops⟩ := parted.exists_stopsAt
  rcases same with rfl | rfl
  · rcases lastMode_of_column starts with outside | ⟨start, text, inside⟩
    · refine ⟨outside, [], by simp, ?_⟩
      rw [completed, outside, List.append_nil]
      exact (List.append_nil _).symm
    · rw [inside] at stops
      exact False.elim stops
  · have breaks := stops.lineBreak
    constructor
    · rw [lastMode, String.toList_append, Mode.afterAll_append]
      show (Mode.feed (lastMode first) _ '\n').2 = _
      rw [Mode.feed_eq_of_stopsAt breaks]
      rfl
    · refine ⟨[⟨"\n", .lineBreak, .behind first.toList⟩], by simp, ?_⟩
      rw [tokenize_append_eq_scan, show "\n".toList = ['\n'] from rfl, scan_eq_of_stopsAt breaks,
        scan_lineBreak, scan, ← List.append_assoc]
      exact (List.dropLast_append_of_ne_nil (List.cons_ne_nil _ _)).trans rfl

end Parted

/-! ## A word alone on its line -/

theorem eq_lineBreak_of_mem_enter {place : Place} {c : Char} {token : Token}
    (member : token ∈ (Mode.enter place c).1) (breaks : token.kind = .lineBreak) : c = '\n' := by
  unfold Mode.enter at member
  split at member
  · next kind known =>
    rw [List.mem_singleton.mp member] at breaks
    obtain rfl : kind = .lineBreak := breaks
    unfold TokenKind.ofChar? at known
    split at known <;> first | rfl | cases known
  · -- no other character completes a token between tokens
    split at member
    · cases member
    · split at member
      · cases member
      · split at member
        · cases member
        · split at member
          · cases member
          · cases member

theorem eq_lineBreak_of_mem_feed {mode : Mode} {place : Place} {c : Char} {token : Token}
    (member : token ∈ (mode.feed place c).1) (breaks : token.kind = .lineBreak) : c = '\n' := by
  have other : ∀ {given : Token}, given.kind ≠ .lineBreak →
      token ∈ given :: (Mode.enter place c).1 → c = '\n' := by
    intro given noBreak member
    rcases List.mem_cons.mp member with rfl | entered
    · exact absurd breaks noBreak
    · exact eq_lineBreak_of_mem_enter entered breaks
  cases mode with
  | between => exact eq_lineBreak_of_mem_enter member breaks
  | word start text =>
    simp only [Mode.feed] at member
    split at member
    · cases member
    · split at member
      · rw [List.mem_singleton.mp member] at breaks
        cases breaks
      · exact other TokenKind.noConfusion member
  | number start text =>
    simp only [Mode.feed] at member
    split at member
    · cases member
    · exact other TokenKind.noConfusion member
  | quoted start text =>
    simp only [Mode.feed] at member
    split at member
    · rw [List.mem_singleton.mp member] at breaks
      cases breaks
    · cases member
  | comment =>
    simp only [Mode.feed] at member
    split at member
    · assumption
    · cases member

/-- A line break comes from a line break. -/
theorem lineBreak_mem_of_mem_scan {mode : Mode} {place : Place} {chars : List Char} {token : Token}
    (member : token ∈ scan mode place chars) (breaks : token.kind = .lineBreak) :
    '\n' ∈ chars := by
  induction chars generalizing mode place with
  | nil =>
    rw [List.mem_singleton.mp member] at breaks
    cases breaks
  | cons c chars ih =>
    rcases List.mem_append.mp member with here | later
    · exact eq_lineBreak_of_mem_feed here breaks ▸ List.mem_cons_self
    · exact List.mem_cons_of_mem _ (ih later)

/-- The line holds the word and no other token. -/
def LoneWord (line word : String) : Prop :=
  '\n' ∉ line.toList ∧
    (tokenize (line ++ "\n")).map content = [(.word, word), (.lineBreak, "\n"), (.endOfFile, "")]

instance (line word : String) : Decidable (LoneWord line word) :=
  inferInstanceAs (Decidable (_ ∧ _))

theorem LoneWord.map_content {line word : String} (lone : LoneWord line word) (before : List Char) :
    (scan .between (.behind before) (line.toList ++ ['\n'])).map content =
      [(.word, word), (.lineBreak, "\n"), (.endOfFile, "")] := by
  rw [map_content_scan_behind, ← lone.2, tokenize, String.toList_append]
  rfl

/-- At the end of the line the scan is not in a quoted text. There the line break would be no token,
and the line holds no other. -/
theorem LoneWord.stopsAt {line word : String} (lone : LoneWord line word) (before : List Char) :
    (Mode.between.afterAll (.behind before) line.toList).StopsAt '\n' := by
  have whole := lone.map_content before
  rw [scan_append, List.map_append] at whole
  rcases (Mode.between.afterAll (.behind before) line.toList).stopsAt_lineBreak with
    stops | ⟨start, text, inside⟩
  · exact stops
  · rw [inside] at whole
    obtain ⟨front, -⟩ := List.append_inj' (whole.trans (show _ = [_, _] ++ [_] from rfl)) rfl
    have member : (TokenKind.lineBreak, "\n") ∈
        ((scan .between (.behind before) line.toList).dropLast).map content := by
      rw [front]
      exact List.mem_cons_of_mem _ List.mem_cons_self
    obtain ⟨token, inLine, isBreak⟩ := List.mem_map.mp member
    exact absurd
      (lineBreak_mem_of_mem_scan (List.dropLast_subset _ inLine) (congrArg Prod.fst isBreak)) lone.1

/-- A token in front of the line break of a line is in this line. -/
theorem line_eq_of_scan {before line : List Char} {token : Token} {tokens : List Token}
    (inLine : '\n' ∉ line)
    (scanned : scan .between (.behind before) (line ++ ['\n']) =
      token :: ⟨"\n", .lineBreak, .behind (before ++ line)⟩ :: tokens) :
    token.place.line = (Place.behind before).line := by
  obtain ⟨increasing, least⟩ := increasing_scan (.behind before) (line ++ ['\n'])
  rw [scanned] at increasing least
  have below := Place.line_le_of_lt ((List.pairwise_cons.mp increasing).1 _ List.mem_cons_self)
  have sameLine := (Place.behind before).line_afterAll_of_inLine inLine
  rw [Place.afterAll_behind] at sameLine
  rcases least token List.mem_cons_self with same | less
  · rw [same]
  · exact Nat.le_antisymm (sameLine ▸ below) (Place.line_le_of_lt less)

/-- A line with one word gives that word, and then comes the line break. -/
theorem LoneWord.scan_eq {line word : String} (lone : LoneWord line word) (before : List Char) :
    ∃ token : Token, token.content = (.word, word) ∧
      token.place.line = (Place.behind before).line ∧
      ∀ chars, scan .between (.behind before) (line.toList ++ '\n' :: chars) =
        token :: scan .between (.behind (before ++ line.toList)) ('\n' :: chars) := by
  have stops := lone.stopsAt before
  have whole := lone.map_content before
  have split := scan_append .between (.behind before) line.toList
  rw [Place.afterAll_behind] at split
  rw [split, scan_eq_of_stopsAt stops, ← List.append_assoc, List.map_append] at whole
  obtain ⟨front, -⟩ := List.append_inj' (whole.trans (show _ = [_] ++ [_, _] from rfl)) rfl
  obtain ⟨token, only, isWord⟩ := List.map_eq_singleton_iff.mp front
  have scanned : ∀ chars, scan .between (.behind before) (line.toList ++ '\n' :: chars) =
      token :: scan .between (.behind (before ++ line.toList)) ('\n' :: chars) := by
    intro chars
    rw [split, scan_eq_of_stopsAt stops, ← List.append_assoc, only]
    rfl
  exact ⟨token, isWord, line_eq_of_scan lone.1 (scanned []), scanned⟩

/-- In the script in three parts, the second is a line, and the token is the only one in it. The
line starts outside of quoted texts. -/
structure Alone (before line after : String) (token : Token) : Prop where
  starts : (Place.behind before.toList).column = 1
  ends : after.toList.headD '\n' = '\n'
  outside : lastMode before = .between
  lone : LoneWord line token.text
  first : (scan .between (.behind before.toList) (line ++ "\n").toList).head? = some token

/-- The token is the only one in its line. -/
def StandsAlone (source : String) (token : Token) : Prop :=
  ∃ before line after, source = before ++ line ++ after ∧ Alone before line after token

/-- What starts with a line break, or is empty, starts with one if line breaks are added at its
end. -/
theorem exists_lineBreak {after : String} (ends : after.toList.headD '\n' = '\n') :
    ∃ chars, (after ++ "\n\n").toList = '\n' :: chars := by
  rw [String.toList_append]
  cases same : after.toList with
  | nil => exact ⟨['\n'], rfl⟩
  | cons c chars =>
    rw [same] at ends
    obtain rfl : c = '\n' := ends
    exact ⟨_, rfl⟩

variable {before line after : String} {token : Token}

theorem LoneWord.exists_alone {word : String} (lone : LoneWord line word)
    (starts : (Place.behind before.toList).column = 1) (ends : after.toList.headD '\n' = '\n')
    (outside : lastMode before = .between) :
    ∃ token : Token, token.text = word ∧ Alone before line after token := by
  obtain ⟨token, said, -, scanned⟩ := lone.scan_eq before.toList
  obtain rfl : token.text = word := congrArg Prod.snd said
  refine ⟨token, rfl, starts, ends, outside, lone, ?_⟩
  rw [String.toList_append, show "\n".toList = ['\n'] from rfl, scanned]
  rfl

namespace Alone

/-- The token is a word in the line behind what stands before it, and it comes before everything
after it. -/
theorem scan_eq (alone : Alone before line after token) :
    token.kind = .word ∧ token.place.line = (Place.behind before.toList).line ∧
      scan .between (.behind before.toList) (line ++ (after ++ "\n\n")).toList =
        token :: scan .between (.behind (before ++ line).toList) (after ++ "\n\n").toList := by
  obtain ⟨chars, same⟩ := exists_lineBreak alone.ends
  obtain ⟨other, said, sameLine, scanned⟩ := alone.lone.scan_eq before.toList
  have first := alone.first
  rw [String.toList_append, show "\n".toList = ['\n'] from rfl, scanned] at first
  obtain rfl : other = token := Option.some.inj first
  refine ⟨congrArg Prod.fst said, sameLine, ?_⟩
  rw [String.toList_append, same, scanned, String.toList_append]

theorem tokenize_eq (alone : Alone before line after token) :
    tokenize (before ++ line ++ after ++ "\n\n") =
      (tokenize before).dropLast ++ token :: scan .between (.behind (before ++ line).toList)
        (after ++ "\n\n").toList := by
  rw [String.append_assoc, String.append_assoc, tokenize_append_eq_scan, alone.outside,
    alone.scan_eq.2.2]

end Alone

end Token

/-! ## Texts without some lines -/

namespace Text

/-- The characters from a place on, without those in some lines. -/
def withoutLinesFrom (gone : List Nat) (place : Place) : List Char → List Char
  | [] => []
  | c :: chars =>
    if place.line ∈ gone then withoutLinesFrom gone (place.after c) chars
    else c :: withoutLinesFrom gone (place.after c) chars

/-- The text without some of its lines. A line goes with the line break at its end. -/
def withoutLines (gone : List Nat) (text : String) : String :=
  .ofList (withoutLinesFrom gone .start text.toList)

theorem withoutLinesFrom_append (gone : List Nat) (place : Place) (first second : List Char) :
    withoutLinesFrom gone place (first ++ second) =
      withoutLinesFrom gone place first ++ withoutLinesFrom gone (place.afterAll first) second := by
  induction first generalizing place with
  | nil => rfl
  | cons c first ih =>
    rw [List.cons_append, withoutLinesFrom, withoutLinesFrom, ih, Place.afterAll_cons]
    split
    · rfl
    · rfl

/-- Lines that come later stay. -/
theorem withoutLinesFrom_later {gone : List Nat} {place : Place}
    (earlier : ∀ line ∈ gone, line < place.line) (chars : List Char) :
    withoutLinesFrom gone place chars = chars := by
  induction chars generalizing place with
  | nil => rfl
  | cons c chars ih =>
    have here : place.line ∉ gone := fun member => Nat.lt_irrefl _ (earlier _ member)
    have onward : place.line ≤ (place.after c).line := by
      unfold Place.after
      split
      · exact Nat.le_succ _
      · exact Nat.le_refl _
    rw [withoutLinesFrom, if_neg here,
      ih fun line member => Nat.lt_of_lt_of_le (earlier line member) onward]

/-- Of a line that goes nothing is left. -/
theorem withoutLinesFrom_line {gone : List Nat} {place : Place} (goes : place.line ∈ gone)
    {chars : List Char} (inLine : '\n' ∉ chars) : withoutLinesFrom gone place chars = [] := by
  induction chars generalizing place with
  | nil => rfl
  | cons c chars ih =>
    have noBreak : c ≠ '\n' := fun same => inLine (same ▸ List.mem_cons_self)
    rw [withoutLinesFrom, if_pos goes]
    refine ih ?_ fun member => inLine (List.mem_cons_of_mem _ member)
    rw [Place.after, if_neg noBreak]
    exact goes

/-- Before a line, it makes no difference whether it goes. -/
theorem withoutLinesFrom_concat (gone : List Nat) {line : Nat} {place : Place} {chars : List Char}
    (before : (place.afterAll chars).line < line) :
    withoutLinesFrom (gone ++ [line]) place chars = withoutLinesFrom gone place chars := by
  induction chars generalizing place with
  | nil => rfl
  | cons c chars ih =>
    have here : place.line ≠ line := by
      rw [Place.line_afterAll] at before
      exact Nat.ne_of_lt (Nat.lt_of_le_of_lt (Nat.le_add_right _ _) before)
    rw [withoutLinesFrom, withoutLinesFrom, ih before]
    simp [here]

/-- Before a line that goes, everything is as if it stayed. -/
theorem withoutLinesFrom_before (gone : List Nat) {chars : List Char}
    (starts : (Place.behind chars).column = 1) :
    withoutLinesFrom (gone ++ [(Place.behind chars).line]) .start chars =
      withoutLinesFrom gone .start chars := by
  rcases Place.column_behind_eq_one_iff.mp starts with rfl | ⟨before, rfl⟩
  · rfl
  · have less : (Place.start.afterAll before).line < (Place.behind (before ++ ['\n'])).line := by
      rw [Place.behind_snoc, Place.afterAll_start]
      exact Nat.lt_succ_self _
    rw [withoutLinesFrom_append, withoutLinesFrom_append, withoutLinesFrom_concat gone less]
    simp [withoutLinesFrom, Nat.ne_of_lt less]

/-- After a line that goes as the last one, everything stays but its line break. -/
theorem withoutLinesFrom_after {gone : List Nat} {place : Place}
    (earlier : ∀ line ∈ gone, line < place.line)
    {chars : List Char} (ends : chars.headD '\n' = '\n') :
    withoutLinesFrom (gone ++ [place.line]) place chars = chars.tail := by
  cases chars with
  | nil => rfl
  | cons c chars =>
    obtain rfl : c = '\n' := ends
    rw [withoutLinesFrom, if_pos (by simp)]
    refine withoutLinesFrom_later ?_ chars
    intro line member
    rcases List.mem_append.mp member with inside | last
    · exact Nat.lt_succ_of_lt (earlier line inside)
    · exact Nat.lt_succ_of_le (Nat.le_of_eq (List.mem_singleton.mp last))

end Text

namespace Token

/-- Of two lines of a text, the first ends before the second starts. -/
theorem line_ends_before {first line after second rest : List Char}
    (whole : first ++ (line ++ after) = second ++ rest) (inLine : '\n' ∉ line)
    (starts : (Place.behind first).column = 1) (startsSecond : (Place.behind second).column = 1)
    (notAfter : (Place.behind first).line ≤ (Place.behind second).line) :
    first = second ∨ ∃ between, second = first ++ (line ++ (between ++ ['\n'])) ∧
      after = between ++ '\n' :: rest := by
  rcases List.append_eq_append_iff.mp whole with ⟨gap, rfl, more⟩ | ⟨gap, rfl, -⟩
  · rcases List.eq_nil_or_concat gap with rfl | ⟨run, c, rfl⟩
    · exact .inl (List.append_nil _).symm
    · right
      rw [List.concat_eq_append] at more startsSecond ⊢
      rw [← List.append_assoc] at startsSecond
      obtain rfl := Place.eq_lineBreak_of_column startsSecond
      rw [List.append_assoc, List.singleton_append] at more
      rcases List.append_eq_append_iff.mp more with ⟨between, rfl, left⟩ | ⟨gap, rfl, left⟩
      · exact ⟨between, by rw [List.append_assoc], left⟩
      · cases gap with
        | nil => exact ⟨[], by simp, left.symm⟩
        | cons d gap =>
          obtain ⟨rfl, -⟩ := List.cons.inj (show _ :: _ = d :: (gap ++ after) from left)
          exact absurd (List.mem_append_right _ List.mem_cons_self) inLine
  · left
    have none : gap.count '\n' = 0 := by
      simp only [Place.behind, List.count_append] at notAfter
      omega
    rcases List.eq_nil_or_concat gap with rfl | ⟨run, c, rfl⟩
    · exact List.append_nil _
    · rw [List.concat_eq_append] at none starts
      rw [← List.append_assoc] at starts
      rw [Place.eq_lineBreak_of_column starts] at none
      simp at none

namespace Alone

/-- The script without the line. -/
def rest (before after : String) : String :=
  before ++ .ofList after.toList.tail

theorem tokenize_rest (alone : Alone before line after token) :
    tokenize (rest before after ++ "\n\n") =
      (tokenize before).dropLast ++ scan .between (.behind before.toList)
        (.ofList after.toList.tail ++ "\n\n" : String).toList := by
  rw [rest, String.append_assoc, tokenize_append_eq_scan, alone.outside]

/-- Without the line, what came after the word still comes, up to the line break at the end of the
line. -/
theorem contents_eq (alone : Alone before line after token) :
    contents (scan .between (.behind (before ++ line).toList) (after ++ "\n\n").toList) =
      contents (scan .between (.behind before.toList)
        (.ofList after.toList.tail ++ "\n\n" : String).toList) := by
  simp only [String.toList_append, String.toList_ofList]
  have ends := alone.ends
  cases same : after.toList with
  | nil => exact contents_scan_eq _ _ _
  | cons c chars =>
    rw [same] at ends
    obtain rfl : c = '\n' := ends
    exact contents_scan_lineBreak _ _ _

/-- The line goes as the last one of some lines: it goes, and then the others. -/
theorem withoutLines_eq (alone : Alone before line after token) {gone : List Nat}
    (earlier : ∀ line ∈ gone, line < token.place.line) :
    Text.withoutLines (gone ++ [token.place.line]) (before ++ line ++ after) =
      Text.withoutLines gone (rest before after) := by
  obtain ⟨-, here, -⟩ := alone.scan_eq
  have sameLine := (Place.behind before.toList).line_afterAll_of_inLine alone.lone.1
  rw [Place.afterAll_behind] at sameLine
  rw [here] at earlier ⊢
  have front := Text.withoutLinesFrom_before gone alone.starts
  have gap : Text.withoutLinesFrom (gone ++ [(Place.behind before.toList).line])
      (.behind before.toList) line.toList = [] :=
    Text.withoutLinesFrom_line (by simp) alone.lone.1
  have back := Text.withoutLinesFrom_after (sameLine.symm ▸ earlier) alone.ends
  rw [sameLine] at back
  have kept := Text.withoutLinesFrom_later earlier after.toList.tail
  unfold Text.withoutLines rest
  simp only [String.toList_append, String.toList_ofList, Text.withoutLinesFrom_append,
    Place.afterAll_start, Place.afterAll_append, Place.afterAll_behind, front, gap, back, kept,
    List.append_nil]

/-- An earlier token that stands alone is in an earlier line, and it still stands alone without the
line. -/
theorem keeps (alone : Alone before line after token) {other : Token}
    (stands : StandsAlone (before ++ line ++ after) other) (earlier : other.place < token.place) :
    other.place.line < token.place.line ∧ StandsAlone (rest before after) other := by
  obtain ⟨first, lineFirst, afterFirst, same, aloneFirst⟩ := stands
  obtain ⟨-, here, -⟩ := alone.scan_eq
  obtain ⟨-, hereFirst, -⟩ := aloneFirst.scan_eq
  have notAfter : (Place.behind first.toList).line ≤ (Place.behind before.toList).line := by
    rw [← here, ← hereFirst]
    exact Place.line_le_of_lt earlier
  have whole : first.toList ++ (lineFirst.toList ++ afterFirst.toList) =
      before.toList ++ (line.toList ++ after.toList) := by
    simpa using (congrArg String.toList same).symm
  rcases line_ends_before whole aloneFirst.lone.1 aloneFirst.starts alone.starts notAfter with
    equal | ⟨between, apart, gap⟩
  · -- in the same line it would be the same token
    obtain rfl : first = before := String.toList_injective equal
    have tokens := alone.tokenize_eq
    rw [same, aloneFirst.tokenize_eq] at tokens
    obtain ⟨rfl, -⟩ := List.cons.inj (List.append_cancel_left tokens)
    exact absurd earlier (Place.lt_irrefl _)
  · have less : other.place.line < token.place.line := by
      rw [here, hereFirst, apart]
      simp only [Place.behind, List.count_append, List.count_singleton_self]
      omega
    refine ⟨less, first, lineFirst, .ofList (between ++ '\n' :: after.toList.tail), ?_, ?_⟩
    · apply String.toList_injective
      simp [rest, apart]
    · refine ⟨aloneFirst.starts, ?_, aloneFirst.outside, aloneFirst.lone, aloneFirst.first⟩
      have ends := aloneFirst.ends
      rw [gap] at ends
      rw [String.toList_ofList]
      cases between with
      | nil => rfl
      | cons c between => exact ends

end Alone

end Token

end RobotScript
