import RobotScript.Proofs.Token

/-!
# Scanning a script in parts

What the scan gives for a text depends on what stands before it only through the mode and the place
in which the scan comes to it.

1. `scan_append`: the tokens of two texts in a row are those of the first, without the end mark, and
   those of the second, scanned from the mode and the place in which the first ends.
2. `scan_shift`: a scan from another place gives the same tokens, with their places shifted.
3. `scan_run`: characters that only go on with what the scan is in the middle of give no tokens, and
   in particular `scan_separators` and `scan_comment`.

`tokenize_append` puts these together for a script that is cut between tokens.
-/

namespace RobotScript

/-! ## Places -/

namespace Place

/-- The place after some characters. -/
def afterAll (place : Place) (chars : List Char) : Place :=
  chars.foldl after place

@[simp] theorem afterAll_nil (place : Place) : place.afterAll [] = place := rfl

@[simp] theorem afterAll_cons (place : Place) (c : Char) (chars : List Char) :
    place.afterAll (c :: chars) = (place.after c).afterAll chars := rfl

@[simp] theorem afterAll_append (place : Place) (first second : List Char) :
    place.afterAll (first ++ second) = (place.afterAll first).afterAll second :=
  List.foldl_append

/-- The place behind the first characters of a script: its line is found by counting line breaks,
and its column by counting the characters since the last of them. -/
def behind (chars : List Char) : Place where
  line := 1 + chars.count '\n'
  column := 1 + (chars.reverse.takeWhile (· ≠ '\n')).length

theorem behind_snoc (chars : List Char) (c : Char) :
    behind (chars ++ [c]) = (behind chars).after c := by
  by_cases isBreak : c = '\n'
  · simp [behind, after, isBreak, Nat.add_assoc]
  · simp [behind, after, isBreak, Nat.add_assoc]

/-- Going on from a place behind some characters comes to the place behind all of them. -/
theorem afterAll_behind (before chars : List Char) :
    (behind before).afterAll chars = behind (before ++ chars) := by
  induction chars generalizing before with
  | nil => rw [afterAll_nil, List.append_nil]
  | cons c chars ih =>
    rw [afterAll_cons, ← behind_snoc, ih, List.append_assoc, List.singleton_append]

theorem afterAll_start (chars : List Char) : start.afterAll chars = behind chars :=
  afterAll_behind [] chars

/-- The place in a script of a place in its part from `origin` on. The lines are counted on. The
columns are counted on in the first line only. -/
def shift (origin place : Place) : Place where
  line := origin.line - 1 + place.line
  column := if place.line = 1 then origin.column - 1 + place.column else place.column

theorem shift_start (chars : List Char) : (behind chars).shift start = behind chars := by
  simp [shift, start, behind, Nat.add_comm]

theorem after_shift {origin place : Place} (counted : 0 < place.line) (c : Char) :
    (origin.shift place).after c = origin.shift (place.after c) := by
  unfold after shift
  by_cases isBreak : c = '\n'
  · have later : place.line + 1 ≠ 1 := by omega
    simp only [isBreak, if_true, if_neg later, Nat.add_assoc]
  · by_cases first : place.line = 1
    · simp only [isBreak, first, if_true, if_false, Nat.add_assoc]
    · simp only [isBreak, first, if_false]

theorem line_after_pos {place : Place} (counted : 0 < place.line) (c : Char) :
    0 < (place.after c).line := by
  unfold after
  split
  · exact Nat.succ_pos _
  · exact counted

end Place

namespace Token

/-! ## Two texts in a row -/

/-- The mode after some characters. -/
def Mode.afterAll (mode : Mode) (place : Place) : List Char → Mode
  | [] => mode
  | c :: chars => (mode.feed place c).2.afterAll (place.after c) chars

/-- The mode in which the scan of a script ends. -/
def lastMode (source : String) : Mode :=
  Mode.between.afterAll .start source.toList

theorem scan_ne_nil (mode : Mode) (place : Place) (chars : List Char) :
    scan mode place chars ≠ [] := by
  induction chars generalizing mode place with
  | nil => exact List.cons_ne_nil _ _
  | cons c chars ih => exact List.append_ne_nil_of_right_ne_nil _ (ih _ _)

/-- The scan of a text ends with an end mark at the place behind it. -/
theorem scan_eq_snoc (mode : Mode) (place : Place) (chars : List Char) :
    scan mode place chars =
      (scan mode place chars).dropLast ++ [endMark (place.afterAll chars)] := by
  induction chars generalizing mode place with
  | nil => rfl
  | cons c chars ih =>
    rw [scan, List.dropLast_append_of_ne_nil (scan_ne_nil _ _ _), List.append_assoc,
      Place.afterAll_cons, ← ih]

theorem scan_append (mode : Mode) (place : Place) (first second : List Char) :
    scan mode place (first ++ second) =
      (scan mode place first).dropLast ++
      scan (mode.afterAll place first) (place.afterAll first) second := by
  induction first generalizing mode place with
  | nil => rfl
  | cons c first ih =>
    rw [List.cons_append, scan, ih, scan, List.dropLast_append_of_ne_nil (scan_ne_nil _ _ _),
      List.append_assoc]
    rfl

/-- Characters that only add to the text of what the scan is in the middle of give no tokens. -/
theorem scan_run (mode : String → Mode) {run : List Char}
    (goesOn : ∀ c ∈ run, ∀ text place, (mode text).feed place c = ([], mode (text.push c)))
    (text : String) (place : Place) (chars : List Char) :
    scan (mode text) place (run ++ chars) =
      scan (mode (text ++ String.ofList run)) (place.afterAll run) chars := by
  induction run generalizing text place with
  | nil => rw [List.nil_append, String.ofList_nil, String.append_empty, Place.afterAll_nil]
  | cons c run ih =>
    obtain ⟨fed, later⟩ := List.forall_mem_cons.mp goesOn
    have joined : text.push c ++ String.ofList run = text ++ String.ofList (c :: run) := by
      apply String.toList_injective
      simp
    rw [List.cons_append, scan, fed, List.nil_append, ih later, joined, Place.afterAll_cons]

/-! ## Another place -/

/-- The token of a part of a script, with its place in the script. -/
def shift (origin : Place) (token : Token) : Token :=
  { token with place := origin.shift token.place }

/-- The mode in a part of a script, with its place in the script. -/
def Mode.shift (origin : Place) : Mode → Mode
  | between => between
  | word start text => word (origin.shift start) text
  | number start text => number (origin.shift start) text
  | quoted start text => quoted (origin.shift start) text
  | comment => comment

theorem enter_shift (origin place : Place) (c : Char) :
    Mode.enter (origin.shift place) c =
      ((Mode.enter place c).1.map (shift origin), (Mode.enter place c).2.shift origin) := by
  unfold Mode.enter
  cases TokenKind.ofChar? c with
  | some kind => rfl
  | none =>
    dsimp only
    split
    · rfl
    · split
      · rfl
      · split
        · rfl
        · split
          · rfl
          · rfl

theorem feed_shift (origin : Place) (mode : Mode) (place : Place) (c : Char) :
    (mode.shift origin).feed (origin.shift place) c =
      ((mode.feed place c).1.map (shift origin), (mode.feed place c).2.shift origin) := by
  have entered := enter_shift origin place c
  cases mode with
  | between => exact entered
  | word start text =>
    simp only [Mode.feed, Mode.shift, entered]
    split
    · rfl
    · split
      · rfl
      · rfl
  | number start text =>
    simp only [Mode.feed, Mode.shift, entered]
    split
    · rfl
    · rfl
  | quoted start text =>
    simp only [Mode.feed, Mode.shift]
    split
    · rfl
    · rfl
  | comment =>
    simp only [Mode.feed, Mode.shift, entered]
    split
    · rfl
    · rfl

/-- A scan from another place gives the same tokens at shifted places. -/
theorem scan_shift (origin : Place) (mode : Mode) {place : Place} (counted : 0 < place.line)
    (chars : List Char) :
    scan (mode.shift origin) (origin.shift place) chars =
      (scan mode place chars).map (shift origin) := by
  induction chars generalizing mode place with
  | nil => rfl
  | cons c chars ih =>
    rw [scan, scan, List.map_append, feed_shift, Place.after_shift counted,
      ih _ (Place.line_after_pos counted c)]

/-- What is scanned from a place between tokens on gives the tokens that it has as a script, at
shifted places. -/
theorem scan_behind (before chars : List Char) :
    scan .between (.behind before) chars =
      (scan .between .start chars).map (shift (.behind before)) := by
  have moved :=
    scan_shift (.behind before) .between (show 0 < Place.start.line from Nat.one_pos) chars
  rw [Place.shift_start] at moved
  exact moved

/-! ## What separates -/

/-- A character between tokens that starts none. -/
def Separates (c : Char) : Prop :=
  TokenKind.ofChar? c = none ∧ Text.isLetter c = false ∧ c.isDigit = false ∧
    c ≠ '"' ∧ c ≠ '#'

instance (c : Char) : Decidable (Separates c) :=
  inferInstanceAs (Decidable (_ ∧ _))

theorem Separates.enter {c : Char} (separates : Separates c) (place : Place) :
    Mode.enter place c = ([], .between) := by
  obtain ⟨noSign, noLetter, noDigit, noQuote, noHash⟩ := separates
  simp only [Mode.enter, noSign, noLetter, noDigit, noQuote, noHash, if_false, Bool.false_eq_true]

theorem Separates.ne_lineBreak {c : Char} (separates : Separates c) : c ≠ '\n' := by
  rintro rfl
  cases separates.1

/-- Separators give no tokens. -/
theorem scan_separators {run : List Char} (separate : ∀ c ∈ run, Separates c) (place : Place)
    (chars : List Char) :
    scan .between place (run ++ chars) = scan .between (place.afterAll run) chars :=
  scan_run (fun _ => .between) (fun c member _ place => (separate c member).enter place)
    "" place chars

/-- A comment goes on up to the end of its line. -/
theorem scan_comment {run : List Char} (inLine : '\n' ∉ run) (place : Place) (chars : List Char) :
    scan .comment place (run ++ chars) = scan .comment (place.afterAll run) chars := by
  refine scan_run (fun _ => .comment) ?_ "" place chars
  intro c member _ place
  have noBreak : c ≠ '\n' := fun isBreak => inLine (isBreak ▸ member)
  exact if_neg noBreak

/-- At the end of a line a comment is over. -/
theorem scan_comment_lineBreak (place : Place) {chars : List Char}
    (breaks : chars.head? = some '\n') :
    scan .comment place chars = scan .between place chars := by
  obtain ⟨rest, rfl⟩ := List.head?_eq_some_iff.mp breaks
  rfl

/-! ## Scripts -/

/-- What a token says, wherever it stands: its kind and its text. -/
abbrev Content := TokenKind × String

/-- What the token says. -/
def content (token : Token) : Content :=
  (token.kind, token.text)

/-- The script in two parts is cut between tokens: the scan of the first part ends between tokens,
or in a comment that is over with the first character of the second part. -/
def CutBetween (first second : String) : Prop :=
  lastMode first = .between ∨ lastMode first = .comment ∧ second.toList.head? = some '\n'

theorem tokenize_eq_snoc (source : String) :
    tokenize source = (tokenize source).dropLast ++ [endMark (.behind source.toList)] := by
  rw [← Place.afterAll_start]
  exact scan_eq_snoc _ _ _

theorem tokenize_append_eq_scan (first second : String) :
    tokenize (first ++ second) =
      (tokenize first).dropLast ++ scan (lastMode first) (.behind first.toList) second.toList := by
  rw [tokenize, String.toList_append, scan_append, Place.afterAll_start]
  rfl

/-- From a cut on, the scan goes on as between tokens. -/
theorem CutBetween.scan_eq {first second : String} (cut : CutBetween first second) (place : Place) :
    scan (lastMode first) place second.toList = scan .between place second.toList := by
  rcases cut with between | ⟨comment, breaks⟩
  · rw [between]
  · rw [comment]
    exact scan_comment_lineBreak place breaks

/-- What gives no tokens at a cut changes only the places of the tokens after it. -/
theorem contents_insert {first second inserted : String} (cut : CutBetween first second)
    (nothing : scan (lastMode first) (.behind first.toList) (inserted ++ second).toList =
      scan .between (.behind (first ++ inserted).toList) second.toList) :
    (tokenize (first ++ inserted ++ second)).map content =
      (tokenize (first ++ second)).map content := by
  have same : ∀ before : List Char, (scan .between (.behind before) second.toList).map content =
      (tokenize second).map content := by
    intro before
    rw [scan_behind, List.map_map]
    rfl
  rw [String.append_assoc, tokenize_append_eq_scan, tokenize_append_eq_scan, nothing, cut.scan_eq,
    List.map_append, List.map_append, same, same]

/-- A script that is cut between tokens is scanned part by part. The tokens are those of the first
part without its end mark, and those of the second part with their places shifted by the place
behind the first. So separators, and a comment up to the end of a line, can be inserted there, and
no token says anything else. -/
theorem tokenize_append (first second : String) (cut : CutBetween first second) :
    (∃ tokens, tokenize first = tokens ++ [endMark (.behind first.toList)] ∧
      tokenize (first ++ second) =
        tokens ++ (tokenize second).map (shift (.behind first.toList))) ∧
    (∀ run : String, (∀ c ∈ run.toList, Separates c) →
      (tokenize (first ++ run ++ second)).map content =
        (tokenize (first ++ second)).map content) ∧
    (second.toList.head? = some '\n' → ∀ remark : String, '\n' ∉ remark.toList →
      (tokenize (first ++ ("#" ++ remark) ++ second)).map content =
        (tokenize (first ++ second)).map content) := by
  refine ⟨⟨(tokenize first).dropLast, tokenize_eq_snoc first, ?_⟩, ?_, ?_⟩
  · rw [tokenize_append_eq_scan, cut.scan_eq, scan_behind]
    rfl
  · intro run separate
    refine contents_insert cut ?_
    rw [String.toList_append, String.toList_append, ← Place.afterAll_behind]
    rcases cut with between | ⟨comment, breaks⟩
    · rw [between, scan_separators separate]
    · have inLine : '\n' ∉ run.toList := fun member => (separate _ member).ne_lineBreak rfl
      rw [comment, scan_comment inLine, scan_comment_lineBreak _ breaks]
  · intro breaks remark inLine
    refine contents_insert cut ?_
    have written : ("#" ++ remark).toList = '#' :: remark.toList := by simp
    rw [String.toList_append (s := "#" ++ remark), String.toList_append (s := first), written,
      ← Place.afterAll_behind]
    -- in a comment the new one is more of the same
    rcases cut with between | ⟨comment, -⟩
    · rw [between, List.cons_append, scan, Place.afterAll_cons,
        ← scan_comment_lineBreak _ breaks, ← scan_comment inLine]
      rfl
    · have longer : '\n' ∉ '#' :: remark.toList := by simp [inLine]
      rw [comment, scan_comment longer, scan_comment_lineBreak _ breaks]

/-- A text with a line break in it and a comment stand before the cut, and a label after it. -/
theorem tokenize_append_remark :
    CutBetween "x = \"a\nb\" # y" "\n  z:" ∧
    (∃ tokens, tokenize "x = \"a\nb\" # y" = tokens ++ [endMark ⟨2, 7⟩] ∧
      tokenize ("x = \"a\nb\" # y" ++ "\n  z:") =
        tokens ++ (tokenize "\n  z:").map (shift ⟨2, 7⟩)) ∧
    (tokenize ("x = \"a\nb\" # y" ++ " ." ++ "\n  z:")).map content =
      (tokenize ("x = \"a\nb\" # y" ++ "\n  z:")).map content ∧
    (tokenize ("x = \"a\nb\" # y" ++ ("#" ++ " \"") ++ "\n  z:")).map content =
      (tokenize ("x = \"a\nb\" # y" ++ "\n  z:")).map content := by
  have cut : CutBetween "x = \"a\nb\" # y" "\n  z:" := .inr (by decide)
  obtain ⟨parts, separators, remarks⟩ := tokenize_append "x = \"a\nb\" # y" "\n  z:" cut
  have apart : ∀ c ∈ [' ', '.'], Separates c :=
    List.forall_mem_cons.mpr ⟨by decide, List.forall_mem_singleton.mpr (by decide)⟩
  exact ⟨cut, parts, separators " ." apart, remarks (by decide) " \"" (by decide)⟩

end Token

end RobotScript
