import RobotScript.Proofs.Decimal.Exact
import RobotScript.Proofs.Dialogue

/-!
# Printed integers read back

A number that is an integer of at most 15 digits is printed as the plain decimal numeral of that
integer, and the numeral reads as that number again, whatever white space stands around it.

* `Numeral` is the plain decimal numeral of an integer, said without the functions that print and
  read it.
* `numeral_toString` and `Numeral.read?_eq` are what printing and reading have to do with it.
* `Value.printed_integer_reads_back` puts them together, for texts, lines of input and comparisons.
-/

namespace RobotScript

/-! ## White space around a text -/

namespace Text

/-- Nothing but white space. -/
def Blank (text : String) : Prop :=
  ∀ c ∈ text.toList, isBlank c = true

/-- White space around a text is trimmed, and nothing else. -/
theorem trim_padded {before after text : List Char}
    (blankBefore : ∀ c ∈ before, isBlank c = true)
    (blankAfter : ∀ c ∈ after, isBlank c = true) (filled : text ≠ [])
    (bare : ∀ c ∈ text, isBlank c = false) :
    trim (before ++ text ++ after) = text := by
  obtain ⟨first, rest, rfl⟩ := List.exists_cons_of_ne_nil filled
  have start : (before ++ (first :: rest) ++ after).dropWhile isBlank = first :: rest ++ after := by
    rw [List.append_assoc, List.dropWhile_append_of_pos blankBefore, List.cons_append,
      List.dropWhile_cons_of_neg (by simp [bare first List.mem_cons_self])]
  -- The end is trimmed as the front of the reverse, where the last character comes first.
  obtain ⟨last, init, shape⟩ := List.exists_cons_of_ne_nil (List.reverse_ne_nil_iff.mpr filled)
  have bareLast : isBlank last = false :=
    bare last (List.mem_reverse.mp (shape ▸ List.mem_cons_self))
  rw [trim, start, List.reverse_append,
    List.dropWhile_append_of_pos (fun c member => blankAfter c (List.mem_reverse.mp member)), shape,
      List.dropWhile_cons_of_neg (by simp [bareLast]), ← shape, List.reverse_reverse]

theorem isBlank_of_isDigit {c : Char} (digit : c.isDigit = true) : isBlank c = false := by
  obtain ⟨low, high⟩ := (Bool.and_eq_true ..).mp digit
  have least : 48 ≤ c.toNat := of_decide_eq_true low
  have most : c.toNat ≤ 57 := of_decide_eq_true high
  simp only [isBlank, Bool.or_eq_false_iff, Bool.and_eq_false_iff, decide_eq_false_iff_not,
    beq_eq_false_iff_ne]
  omega

end Text

namespace Decimal

/-! ## Numerals -/

/-- The decimal digits of a natural number. A digit is appended to those of a positive number only,
so that no zero stands in front. -/
inductive DigitsOf : Nat → List Char → Prop
  | single {d : Nat} (small : d < 10) : DigitsOf d [d.digitChar]
  | append {n d : Nat} {digits : List Char} (positive : 0 < n) (small : d < 10)
      (earlier : DigitsOf n digits) :
      DigitsOf (10 * n + d) (digits ++ [d.digitChar])

/-- The plain decimal numeral of an integer: its digits, and a minus sign in front of them if it is
negative. -/
inductive Numeral : Int → List Char → Prop
  | natural {n : Nat} {digits : List Char} (written : DigitsOf n digits) : Numeral n digits
  | negative {n : Nat} {digits : List Char} (positive : 0 < n) (written : DigitsOf n digits) :
      Numeral (-n) ('-' :: digits)

variable {n : Nat} {digits : List Char}

theorem digitsOf_toDigits (n : Nat) : DigitsOf n (Nat.toDigits 10 n) := by
  induction n using Nat.strongRecOn with
  | ind n ih =>
    rcases Nat.lt_or_ge n 10 with small | large
    · rw [Nat.toDigits_of_lt_base small]
      exact .single small
    · have appended := DigitsOf.append (Nat.div_pos large (by decide)) (Nat.mod_lt n (by decide))
        (ih (n / 10) (by omega))
      rwa [Nat.div_add_mod, ← Nat.toDigits_of_base_le (by decide) large] at appended

/-- An integer is printed as its numeral. -/
theorem numeral_toString (n : Int) : Numeral n (toString n).toList := by
  cases n with
  | ofNat n =>
    have printed : (toString (Int.ofNat n)).toList = Nat.toDigits 10 n := Nat.toList_repr
    rw [printed]
    exact .natural (digitsOf_toDigits n)
  | negSucc n =>
    have printed : (toString (Int.negSucc n)).toList = '-' :: Nat.toDigits 10 (n + 1) := by
      rw [Int.toString_eq_repr, Int.repr_eq_if, if_neg (by omega), String.toList_append,
        Nat.toList_repr]
      rfl
    rw [printed]
    exact .negative (Nat.succ_pos n) (digitsOf_toDigits (n + 1))

theorem digitsValue_append (digits : List Char) (c : Char) :
    digitsValue (digits ++ [c]) = 10 * digitsValue digits + (c.toNat - '0'.toNat) := by
  simp [digitsValue]

theorem DigitsOf.value_eq (written : DigitsOf n digits) : digitsValue digits = n := by
  have value {d : Nat} (small : d < 10) : d.digitChar.toNat - '0'.toNat = d :=
    Nat.toNat_digitChar_sub_48_of_lt_ten small
  induction written with
  | @single d small =>
    have alone := digitsValue_append [] d.digitChar
    rw [value small] at alone
    exact alone.trans (Nat.zero_add d)
  | append positive small earlier ih => rw [digitsValue_append, ih, value small]

theorem DigitsOf.ne_nil (written : DigitsOf n digits) : digits ≠ [] := by
  cases written <;> simp

theorem DigitsOf.isDigit (written : DigitsOf n digits) : ∀ c ∈ digits, c.isDigit = true := by
  induction written with
  | single small => simp [small]
  | append positive small earlier ih =>
    intro c member
    rcases List.mem_append.mp member with inside | last
    · exact ih c inside
    · simp [List.mem_singleton.mp last, small]

theorem DigitsOf.length_le (written : DigitsOf n digits) {k : Nat} (short : n < 10 ^ k)
    (positive : 0 < k) :
    digits.length ≤ k := by
  induction written generalizing k with
  | single small => exact positive
  | @append n d digits nonzero small earlier ih =>
    -- The digits in front of the last one are those of a number that is one digit shorter, and not
    -- zero.
    obtain ⟨k, rfl⟩ := Nat.exists_eq_succ_of_ne_zero positive.ne'
    rw [Nat.pow_succ] at short
    have fewer : n < 10 ^ k := by omega
    have longer : 0 < k := by
      refine Nat.pos_of_ne_zero fun zero => ?_
      subst zero
      omega
    rw [List.length_append]
    exact Nat.succ_le_succ (ih fewer longer)

/-! ## Reading a numeral -/

theorem digitsValue_zero_cons (digits : List Char) :
    digitsValue ('0' :: digits) = digitsValue digits := by
  simp [digitsValue]

theorem digitsValue_dropWhile (digits : List Char) :
    digitsValue (digits.dropWhile (· == '0')) = digitsValue digits := by
  induction digits with
  | nil => rfl
  | cons c rest ih =>
    by_cases zero : c = '0'
    · rw [zero, List.dropWhile_cons_of_pos (by simp), ih, digitsValue_zero_cons]
    · rw [List.dropWhile_cons_of_neg (by simp [zero])]

theorem significant_of_short (short : digits.length ≤ precision) :
    significant digits = (digits.dropWhile (· == '0'), 0) := by
  have fewer : (digits.dropWhile (· == '0')).length ≤ precision :=
    Nat.le_trans (List.dropWhile_suffix _).length_le short
  simp [significant, List.splitAt_eq, List.take_of_length_le fewer, List.drop_of_length_le fewer]

/-- Digits and nothing else read as the natural number whose digits they are. -/
theorem DigitsOf.decimal?_eq (written : DigitsOf n digits) (short : digits.length ≤ precision) :
    decimal? digits = some (n, 0) := by
  have span : splitDigits digits = (digits, []) := by
    rw [splitDigits, List.span_eq_takeWhile_dropWhile,
      List.takeWhile_eq_self_iff.mpr written.isDigit, List.dropWhile_eq_nil_iff.mpr written.isDigit]
  simp [decimal?, span, significant_of_short short, digitsValue_dropWhile, written.value_eq,
    written.ne_nil, scale?]

theorem DigitsOf.splitSign_eq (written : DigitsOf n digits) :
    splitSign digits = (false, digits) := by
  obtain ⟨first, rest, rfl⟩ := List.exists_cons_of_ne_nil written.ne_nil
  have digit := written.isDigit first List.mem_cons_self
  have notMinus : first ≠ '-' := by
    rintro rfl
    exact absurd digit (by decide)
  have notPlus : first ≠ '+' := by
    rintro rfl
    exact absurd digit (by decide)
  simp [splitSign, notMinus, notPlus]

/-- A numeral reads as the number of its integer. -/
theorem Numeral.read?_eq {n : Int} {text : List Char} (written : Numeral n text)
    (short : text.length ≤ precision) :
    read? text = some (ofInt n) := by
  cases written with
  | @natural n _ written =>
    have above : ¬(n : Int) < 0 := Int.not_lt.mpr (Int.natCast_nonneg n)
    simp [read?, written.splitSign_eq, written.decimal?_eq short, ofInt, above]
  | negative positive written =>
    have size := written.decimal?_eq (Nat.le_of_succ_le short)
    simp [read?, splitSign, size, ofInt, positive]

theorem Numeral.bare {n : Int} {text : List Char} (written : Numeral n text) :
    ∀ c ∈ text, Text.isBlank c = false := by
  cases written with
  | natural written => exact fun c member => Text.isBlank_of_isDigit (written.isDigit c member)
  | negative positive written =>
    intro c member
    rcases List.mem_cons.mp member with rfl | inside
    · decide
    · exact Text.isBlank_of_isDigit (written.isDigit c inside)

theorem Numeral.ne_nil {n : Int} {text : List Char} (written : Numeral n text) : text ≠ [] := by
  cases written with
  | natural written => exact written.ne_nil
  | negative positive written => exact List.cons_ne_nil _ _

theorem Numeral.length_le {n : Int} {text : List Char} (written : Numeral n text)
    (short : n.natAbs < 10 ^ 15) :
    text.length ≤ precision := by
  cases written with
  | natural written => exact Nat.le_trans (written.length_le short (by decide)) (by decide)
  | negative positive written =>
    rw [Int.natAbs_neg, Int.natAbs_natCast] at short
    exact Nat.le_trans (Nat.succ_le_succ (written.length_le short (by decide))) (by decide)

end Decimal

/-! ## Printed and read back -/

theorem Machine.get?_readInto {machine : Machine} {line : String} {rest : List String}
    (next : machine.console.input = line :: rest) (name : String) :
    (machine.readInto name).store.get? name = some (.ofInput line) := by
  have read : machine.console.readLine = (some line, { machine.console with input := rest }) := by
    rw [Console.readLine, next]
  rw [readInto, read]
  exact (Table.get?_insert ..).trans (if_pos rfl)

namespace Value

open Decimal (Numeral integer? ofInt)
open Text (Blank)

/-- A number that is an integer prints as the numeral of the integer, and what was printed counts as
the number again. -/
structure ReadsBack (n : Int) (x : Float) : Prop where
  /-- It is printed as the plain numeral. -/
  numeral : Numeral n (number x).write.toList
  /-- What was printed counts as the integer, whatever white space stands around it. -/
  counts : ∀ before after, Blank before → Blank after →
    (text (before ++ (number x).write ++ after)).toNumber = ofInt n
  /-- That is the number which was printed, except that a zero loses its sign. -/
  unchanged : n ≠ 0 → x = ofInt n
  /-- A line that one script adds to its output and another reads gives the other that number. -/
  handedOver : ∀ (program : Program) (printer : Machine) (index : Nat) (expr : Expr),
    printer.value expr = .ok (number x) →
    ∃ line, (program.execute printer index (.print expr)).1.console =
        { printer.console with output := printer.console.output.push line } ∧
      ∀ (other : Program) (reader : Machine) (place : Nat) (name before after : String)
        (rest : List String),
        Blank before → Blank after →
        reader.console.input = (before ++ line ++ after) :: rest →
        (other.execute reader place (.input name)).1.store.get? name = some (number (ofInt n))
  /-- The number equals what was printed. -/
  equalsText : Operator.equal.apply (number x) (text (number x).write) = number 1.0
  /-- What was printed equals the number. -/
  textEquals : Operator.equal.apply (text (number x).write) (number x) = number 1.0

variable {n : Int} {x : Float}

theorem textNumber?_padded {line before after : String} (written : Numeral n line.toList)
    (short : n.natAbs < 10 ^ 15) (blankBefore : Blank before) (blankAfter : Blank after) :
    textNumber? (before ++ line ++ after) = some (ofInt n) := by
  rw [textNumber?, String.toList_append, String.toList_append,
    Text.trim_padded blankBefore blankAfter written.ne_nil written.bare]
  exact written.read?_eq (written.length_le short)

theorem write_integer (held : integer? x = some n) (short : n.natAbs < 10 ^ 15) :
    (number x).write = toString n := by
  have below : n.natAbs < integerBound := short
  simp only [write, writeNumber, held]
  exact if_pos below

/-- An integer of at most 15 digits is a number, the numbers that are the integer are those that
equal it, and each of them reads back from what it is printed as. -/
theorem printed_integer_reads_back (short : n.natAbs < 10 ^ 15) :
    integer? (ofInt n) = some n ∧ (∀ x, integer? x = some n ↔ (x == ofInt n) = true) ∧
      ∀ x, integer? x = some n → ReadsBack n x := by
  have fits : n.natAbs < 2 ^ 53 := Nat.lt_trans short (by decide)
  have equals (x : Float) := Decimal.integer?_eq_some_iff (x := x) fits
  refine ⟨Decimal.integer?_ofInt fits, equals, fun x held => ?_⟩
  have written : Numeral n (number x).write.toList :=
    write_integer held short ▸ Decimal.numeral_toString n
  have blank : Blank "" := by
    intro c member
    cases member
  have bare : textNumber? (number x).write = some (ofInt n) := by
    have padded := textNumber?_padded written short blank blank
    rwa [String.append_empty, String.empty_append] at padded
  refine ⟨written, fun before after blankBefore blankAfter => ?_,
    Decimal.eq_ofInt_of_integer? held fits, ?_, ?_, ?_⟩
  · rw [toNumber, textNumber?_padded written short blankBefore blankAfter]
    rfl
  · intro program printer index expr value
    refine ⟨(number x).write, ?_, ?_⟩
    · exact congrArg (·.1.console) (Machine.withValue_ok value)
    · intro other reader place name before after rest blankBefore blankAfter next
      refine (Machine.get?_readInto next name).trans ?_
      rw [ofInput, textNumber?_padded written short blankBefore blankAfter]
  · show ofBool (x == (textNumber? (number x).write).getD 0.0) = _
    rw [bare, Option.getD_some, (equals x).mp held]
    rfl
  · -- With a text on the left the number is written, not the text read.
    show ofBool ((number x).write == (number x).write) = _
    rw [beq_self_eq_true]
    rfl

/-- The least integer of 15 digits, and the zero with the sign that is not printed. -/
theorem printed_integer_reads_back_least :
    ReadsBack (-999999999999999) (ofInt (-999999999999999)) ∧ (number (-0.0)).write = "0" ∧
      ReadsBack 0 (-0.0) := by
  obtain ⟨exact, -, least⟩ := printed_integer_reads_back (n := -999999999999999) (by decide)
  obtain ⟨-, -, zero⟩ := printed_integer_reads_back (n := 0) (by decide)
  exact ⟨least _ exact, by decide +kernel, zero _ (by decide +kernel)⟩

end Value

end RobotScript
