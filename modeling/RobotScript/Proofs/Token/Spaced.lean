import RobotScript.Proofs.Token.Segments

/-!
# Tokens with spaces between them

`Spaced contents chars` says that the characters spell what some tokens say, one after the other,
with spaces between them. A space can be left out next to a sign. `scan_spaced` says that such
characters are scanned as these tokens, if what follows does not go on with the last of them.

`render` writes tokens with spaces after each. `tokenize_render` says that they are read back as
they were written.
-/

namespace RobotScript.Token

/-- What a token of a script can say. -/
inductive Content.Proper : Content → Prop
  | word {text : String} (isWord : Text.isWord text = true) : Content.Proper (.word, text)
  | label {text : String} (isWord : Text.isWord text = true) : Content.Proper (.label, text)
  | number {text : String} (isNumber : Text.isNumber text = true) : Content.Proper (.number, text)
  | text {text : String} (unquoted : '"' ∉ text.toList) : Content.Proper (.text, text)
  | sign {c : Char} {kind : TokenKind} (known : TokenKind.ofChar? c = some kind) :
      Content.Proper (kind, c.toString)

/-- A space or a sign. It goes on with no word and no number. -/
def Parts (c : Char) : Prop :=
  c = ' ' ∨ (TokenKind.ofChar? c).isSome = true

instance (c : Char) : Decidable (Parts c) :=
  inferInstanceAs (Decidable (_ ∨ _))

theorem parts_head {chars : List Char} {c : Char} (first : chars.head? = some c) (parts : Parts c) :
    ∀ d ∈ chars.head?, Parts d := by
  intro d member
  obtain rfl : c = d := Option.some.inj (first.symm.trans member)
  exact parts

/-- The characters spell what the tokens say, with any number of spaces between them. After a word
or a number there is a space, a sign, or nothing. -/
inductive Spaced : List Content → List Char → Prop
  | nil : Spaced [] []
  | space {contents : List Content} {chars : List Char} (later : Spaced contents chars) :
      Spaced contents (' ' :: chars)
  | cons {content : Content} {contents : List Content} {chars : List Char}
      (apart : content.1 = .word ∨ content.1 = .number → ∀ c ∈ chars.head?, Parts c)
      (later : Spaced contents chars) : Spaced (content :: contents) (content.slice ++ chars)

/-- All that tokens can say can be written, with a space after each. -/
theorem exists_spaced (contents : List Content) : ∃ source :
    String, Spaced contents source.toList := by
  have spaced : Spaced contents (contents.flatMap fun content => content.slice ++ [' ']) := by
    induction contents with
    | nil => exact .nil
    | cons content contents ih =>
      rw [List.flatMap_cons, List.append_assoc]
      exact .cons (fun _ c first => .inl (Option.some.inj first).symm) (.space ih)
  rw [← String.toList_ofList (l := contents.flatMap _)] at spaced
  exact ⟨_, spaced⟩

theorem Parts.stops {c : Char} (parts : Parts c) :
    Text.isWordChar c = false ∧ c ≠ ':' ∧ c.isDigit = false := by
  rcases parts with rfl | sign
  · decide
  · obtain ⟨kind, known⟩ := Option.isSome_iff_exists.mp sign
    have noWordChar := not_isWordChar_of_sign known
    refine ⟨noWordChar, ?_, ?_⟩
    · rintro rfl
      cases known
    · refine Bool.eq_false_iff.mpr fun digit => ?_
      cases noWordChar.symm.trans (Text.isWordChar_of_isDigit digit)

/-- A token that says something proper fits what does not go on with it. -/
theorem Content.Proper.fits {content : Content} (proper : content.Proper) (place : Place)
    {after : List Char} (apart : content.1 = .word ∨ content.1 = .number →
      ∃ c rest, after = c :: rest ∧ Parts c) :
    Fits (.token ⟨content.2, content.1, place⟩) place after := by
  cases proper with
  | word isWord =>
    obtain ⟨c, rest, rfl, parts⟩ := apart (.inl rfl)
    obtain ⟨noWordChar, noColon, -⟩ := parts.stops
    exact .word isWord noWordChar noColon
  | number isNumber =>
    obtain ⟨c, rest, rfl, parts⟩ := apart (.inr rfl)
    exact .number isNumber parts.stops.2.2
  | label isWord => exact .label isWord
  | text unquoted => exact .text unquoted
  | sign known => exact .sign known

/-- What is written with spaces is scanned as what it spells. -/
theorem scan_spaced {contents : List Content} {chars after : List Char}
    (spaced : Spaced contents chars) (proper : ∀ content ∈ contents, content.Proper)
    (ends : ∃ c rest, after = c :: rest ∧ Parts c) (place : Place) :
    ∃ tokens, tokens.map content = contents ∧
      scan .between place (chars ++ after) =
        tokens ++ scan .between (place.afterAll chars) after := by
  induction spaced generalizing place with
  | nil => exact ⟨[], rfl, rfl⟩
  | @space contents chars later ih =>
    obtain ⟨tokens, same, scanned⟩ := ih proper (place.after ' ')
    refine ⟨tokens, same, ?_⟩
    have skipped := scan_separators (List.forall_mem_singleton.mpr (show Separates ' ' by decide))
      place (chars ++ after)
    exact skipped.trans scanned
  | @cons content contents chars apart later ih =>
    obtain ⟨first, others⟩ := List.forall_mem_cons.mp proper
    obtain ⟨tokens, same, scanned⟩ := ih others (place.afterAll content.slice)
    have follows : content.1 = .word ∨ content.1 = .number →
        ∃ c rest, chars ++ after = c :: rest ∧ Parts c := by
      intro unclosed
      cases chars with
      | nil => exact ends
      | cons c chars => exact ⟨c, chars ++ after, rfl, apart unclosed c rfl⟩
    refine ⟨⟨content.2, content.1, place⟩ :: tokens, ?_, ?_⟩
    · rw [List.map_cons, same]
      rfl
    · have fitting := scan_fits (first.fits place follows)
      rw [List.append_assoc, Place.afterAll_append, List.cons_append, ← scanned]
      exact fitting

/-! ## Rendering -/

/-- A token that is to be written: what it says, and how many spaces come after it. -/
structure Written where
  content : Content
  spaces : Nat
  proper : content.Proper
  spaced : 0 < spaces

/-- The characters of a token with the spaces after it. -/
def Written.chars (written : Written) : List Char :=
  written.content.slice ++ List.replicate written.spaces ' '

/-- The script with the tokens in order. -/
def render (row : List Written) : String :=
  String.ofList (row.flatMap Written.chars)

/-- A token that is written with spaces after it is scanned as that token, whatever follows. -/
theorem Written.scan_eq (written : Written) (place : Place) (after : List Char) :
    scan .between place (written.chars ++ after) =
      ⟨written.content.2, written.content.1, place⟩ ::
      scan .between (place.afterAll written.chars) after := by
  obtain ⟨content, _ | more, proper, spaced⟩ := written
  · cases spaced
  have blank : ∀ c ∈ List.replicate (more + 1) ' ', Separates c := by
    intro c member
    rw [List.eq_of_mem_replicate member]
    decide
  have fits : Fits (.token ⟨content.2, content.1, place⟩) place
      (List.replicate (more + 1) ' ' ++ after) :=
    proper.fits place fun _ => ⟨' ', _, rfl, .inl rfl⟩
  have scanned := scan_fits fits
  rw [scan_separators blank] at scanned
  rw [Written.chars, List.append_assoc, Place.afterAll_append]
  exact scanned

theorem contents_scan_written (row : List Written) (place : Place) :
    (scan .between place (row.flatMap Written.chars)).map content =
      row.map Written.content ++ [(.endOfFile, "")] := by
  induction row generalizing place with
  | nil => rfl
  | cons written row ih =>
    rw [List.flatMap_cons, written.scan_eq, List.map_cons, ih, List.map_cons, List.cons_append]
    rfl

/-- What is written is read back: the tokens of a rendering say what was written, in that order, and
an end mark follows. So tokens that say something else have no rendering in common. -/
theorem tokenize_render (row : List Written) :
    (tokenize (render row)).map content = row.map Written.content ++ [(.endOfFile, "")] ∧
    ∀ other : List Written, other.map Written.content ≠ row.map Written.content →
      render other ≠ render row := by
  have readBack : ∀ row, (tokenize (render row)).map content =
      row.map Written.content ++ [(.endOfFile, "")] := by
    intro row
    rw [tokenize, render, String.toList_ofList]
    exact contents_scan_written row .start
  refine ⟨readBack row, ?_⟩
  intro other differ same
  have equal := readBack other
  rw [same, readBack row] at equal
  exact differ (List.append_cancel_right equal).symm

end RobotScript.Token
