import Mathlib
import RobotScript.Decimal.Parts
import RobotScript.Decimal.Reading

/-!
# Integers are held exactly

An integer of at most 53 bits is a number. `ofInt` gives that number without rounding
(`integer?_ofInt`), and the numbers that are the integer are those that equal it
(`integer?_eq_some_iff`): there is one, except that zero has two signs (`eq_ofInt_of_integer?`).

An integer is converted by moving its highest bit to the front of the mantissa. A mantissa with that
leading bit is `Normal`, and all that is shown about rounding and packing is about those.
-/

namespace RobotScript.Decimal

open Float.Model (UnpackedFloat Format totalExponent)
open Float.Model.UnpackedFloat (Sign ExtendedMantissa shiftToTargetExponent roundWithAccuracy)

variable {m : Nat} {e : Int}

/-! ## Mantissas with a leading bit -/

/-- A mantissa with its leading bit, and an exponent in range: a number that is not among the
smallest. -/
structure Normal (mantissa : Nat) (exponent : Int) : Prop where
  leading : 2 ^ 52 ≤ mantissa
  fits : mantissa < 2 ^ 53
  least : -1074 ≤ exponent
  most : exponent ≤ 971

theorem Normal.pos (normal : Normal m e) : 0 < m :=
  Nat.lt_of_lt_of_le (by decide) normal.leading

theorem Normal.log2 (normal : Normal m e) : m.log2 = 52 :=
  (Nat.log2_eq_iff normal.pos.ne').mpr ⟨normal.leading, normal.fits⟩

theorem log2_mul_two_pow (positive : 0 < m) (j : Nat) : (m * 2 ^ j).log2 = m.log2 + j := by
  obtain ⟨low, high⟩ := (Nat.log2_eq_iff positive.ne').mp rfl
  refine (Nat.log2_eq_iff (Nat.mul_pos positive (Nat.two_pow_pos j)).ne').mpr ⟨?_, ?_⟩
  · rw [Nat.pow_add]
    exact Nat.mul_le_mul_right _ low
  · rw [Nat.add_right_comm, Nat.pow_add]
    exact Nat.mul_lt_mul_of_pos_right high (Nat.two_pow_pos j)

/-- Shifting a multiple of the power of two loses no bit. -/
theorem shiftRight_multiple (m j : Nat) :
    (⟨m * 2 ^ j, false, false⟩ : ExtendedMantissa) >>> j = ⟨m, false, false⟩ := by
  induction j generalizing m with
  | zero => simp [HShiftRight.hShiftRight, Nat.repeat]
  | succ j ih =>
    -- All shifts but the last leave the double.
    have double : (⟨m * 2 ^ (j + 1), false, false⟩ : ExtendedMantissa) >>> j =
        ⟨m * 2, false, false⟩ := by
      rw [← ih (m * 2), Nat.pow_succ, Nat.mul_comm (2 ^ j), Nat.mul_assoc]
    show ((⟨m * 2 ^ (j + 1), false, false⟩ : ExtendedMantissa) >>> j).shiftRightOne = _
    rw [double]
    simp [ExtendedMantissa.shiftRightOne]

theorem targetExponent_multiple (normal : Normal m e) (j : Nat) :
    Format.binary64.targetExponent (totalExponent (m * 2 ^ j) (e - j)) = e := by
  have least := normal.least
  simp only [totalExponent, log2_mul_two_pow normal.pos, normal.log2, Format.targetExponent,
    Format.mantissaBits, Format.minExponent]
  omega

theorem shiftToTargetExponent_multiple (normal : Normal m e) (j : Nat) :
    shiftToTargetExponent .binary64 (m * 2 ^ j) (e - j) .exact = (⟨m, false, false⟩, e) := by
  have distance : (e - (e - j)).toNat = j := by omega
  simp only [shiftToTargetExponent, targetExponent_multiple normal,
    UnpackedFloat.shiftToExponent, distance]
  exact Prod.ext (shiftRight_multiple m j) (by simp)

/-- Rounding finds a mantissa with its leading bit again, whatever power of two was moved into
it. -/
theorem roundWithAccuracy_multiple (normal : Normal m e) (s : Sign) (j : Nat) :
    roundWithAccuracy .binary64 s (m * 2 ^ j) (e - j) .exact = .finite s m e normal.pos := by
  have again := shiftToTargetExponent_multiple normal 0
  rw [Nat.pow_zero, Nat.mul_one, Int.ofNat_zero, Int.sub_zero] at again
  have exact : ExtendedMantissa.roundedMantissa ⟨m, false, false⟩ = m := rfl
  simp only [roundWithAccuracy, shiftToTargetExponent_multiple normal, exact, again]
  rw [dif_neg normal.pos.ne']

/-! ## Packing -/

theorem toNat_leading_append (mantissa : BitVec 52) :
    (1#1 ++ mantissa).toNat = 2 ^ 52 + mantissa.toNat := by
  rw [BitVec.toNat_append, ← Nat.shiftLeft_add_eq_or_of_lt mantissa.isLt]
  rfl

/-- The exponent field of a number with a leading bit. -/
def exponentField (e : Int) : BitVec 11 :=
  BitVec.ofNat 11 (e + 1075).toNat

theorem Normal.toNat_exponentField (normal : Normal m e) :
    ((exponentField e).toNat : Int) = e + 1075 := by
  obtain ⟨-, -, least, most⟩ := normal
  rw [exponentField, BitVec.toNat_ofNat]
  omega

theorem Normal.toNat_mantissaField (normal : Normal m e) :
    2 ^ 52 + (BitVec.ofNat 52 m).toNat = m := by
  obtain ⟨leading, fits, -, -⟩ := normal
  rw [BitVec.toNat_ofNat]
  omega

theorem pack_normal (normal : Normal m e) (s : Sign) :
    UnpackedFloat.pack .binary64 (.finite s m e normal.pos) =
      UnpackedFloat.packComponents .binary64 s (exponentField e) (BitVec.ofNat 52 m) := by
  have biased : e + (Format.binary64.exponentBias : Nat) + (52 : Nat) = e + 1075 := by
    simp only [Format.exponentBias]
    omega
  have inRange : ¬2 ^ 11 ≤ (e + 1075).toNat + 1 := by
    have most := normal.most
    omega
  simp only [UnpackedFloat.pack, normal.log2, biased, inRange, if_false]
  exact if_pos rfl

/-- Packing loses nothing of a number with a leading bit. -/
theorem unpack_pack_normal (normal : Normal m e) (s : Sign) :
    UnpackedFloat.unpack .binary64 (UnpackedFloat.pack .binary64 (.finite s m e normal.pos)) =
      .finite s m e normal.pos := by
  have field := normal.toNat_exponentField
  have least := normal.least
  have most := normal.most
  have notLast : exponentField e ≠ -1#11 := by
    intro last
    have : (exponentField e).toNat = 2047 := congrArg BitVec.toNat last
    omega
  have notFirst : exponentField e ≠ 0#11 := by
    intro first
    have : (exponentField e).toNat = 0 := congrArg BitVec.toNat first
    omega
  have exponent :
      (exponentField e).toNat - ((Format.binary64.exponentBias : Nat) + (52 : Nat) : Int) = e := by
    simp only [field, Format.exponentBias]
    omega
  rw [pack_normal normal]
  simp only [UnpackedFloat.unpack, UnpackedFloat.unpackMantissa_packComponents,
    UnpackedFloat.unpackExponent_packComponents, UnpackedFloat.unpackSign_packComponents,
    Sign.ofBitVec_toBitVec, notLast, notFirst, if_false, toNat_leading_append,
    normal.toNat_mantissaField, exponent]

/-! ## Whole numbers -/

/-- The form of a whole number: the leading bit of the mantissa is the highest bit of the number. -/
def whole (s : Sign) (n : Nat) : UnpackedFloat :=
  if positive : 0 < n then
    .finite s (n * Nat.pow 2 (52 - n.log2)) (n.log2 - 52) (Nat.mul_pos positive (Nat.two_pow_pos _))
  else .zero s

/-- One, in that form. -/
def one : UnpackedFloat :=
  .finite .positive (Nat.pow 2 52) (-52) (by decide)

/-- The sign of a number. -/
def signOf (negative : Bool) : Sign :=
  if negative then .negative else .positive

/-- The number that a whole number is, with a sign. -/
def ofWhole (negative : Bool) (n : Nat) : Float :=
  .ofModel (.pack (whole (signOf negative) n))

section

variable {n : Nat}

theorem normal_whole (positive : 0 < n) (fits : n < 2 ^ 53) :
    Normal (n * 2 ^ (52 - n.log2)) (n.log2 - 52) := by
  have short : n.log2 < 53 := (Nat.log2_lt positive.ne').mpr fits
  have highest : (n * 2 ^ (52 - n.log2)).log2 = 52 := by
    rw [log2_mul_two_pow positive]
    omega
  obtain ⟨leading, high⟩ :=
    (Nat.log2_eq_iff (Nat.mul_pos positive (Nat.two_pow_pos _)).ne').mp highest
  exact ⟨leading, high, by omega, by omega⟩

theorem whole_of_pos (positive : 0 < n) (fits : n < 2 ^ 53) (s : Sign) :
    whole s n = .finite s (n * 2 ^ (52 - n.log2)) (n.log2 - 52) (normal_whole positive fits).pos :=
  dif_pos positive

theorem unpack_ofWhole (fits : n < 2 ^ 53) (negative : Bool) :
    (ofWhole negative n).toModel.unpack = whole (signOf negative) n := by
  show UnpackedFloat.unpack .binary64 (UnpackedFloat.pack .binary64 (whole (signOf negative) n)) = _
  rcases Nat.eq_zero_or_pos n with rfl | positive
  · exact UnpackedFloat.unpack_packedZero
  · rw [whole_of_pos positive fits]
    exact unpack_pack_normal (normal_whole positive fits) _

theorem ofNat_eq_whole (fits : n < 2 ^ 53) :
    UnpackedFloat.ofNat .binary64 n = whole .positive n := by
  rcases Nat.eq_zero_or_pos n with rfl | positive
  · rfl
  · have short : n.log2 < 53 := (Nat.log2_lt positive.ne').mpr fits
    have above : compare (n : Int) 0 = .gt := Int.compare_eq_gt.mpr (by omega)
    have target : Format.binary64.targetExponent (totalExponent n 0) = n.log2 - 52 := by
      simp only [totalExponent, Format.targetExponent, Format.mantissaBits, Format.minExponent]
      omega
    have distance : (0 - ((n.log2 : Int) - 52)).toNat = 52 - n.log2 := by omega
    have moved : (0 : Int) - (52 - n.log2 : Nat) = n.log2 - 52 := by omega
    have rounded := roundWithAccuracy_multiple (normal_whole positive fits) .positive 0
    rw [Nat.pow_zero, Nat.mul_one, Int.ofNat_zero, Int.sub_zero] at rounded
    simp only [UnpackedFloat.ofNat, UnpackedFloat.ofInt, UnpackedFloat.normalize, above,
      Int.toNat_natCast, UnpackedFloat.round, target, UnpackedFloat.decreaseExponent, distance,
      moved, Nat.shiftLeft_eq, rounded]
    rw [whole_of_pos positive fits]

theorem mul_one_whole (fits : n < 2 ^ 53) (s : Sign) :
    UnpackedFloat.mul .binary64 (whole s n) one = whole s n := by
  rcases Nat.eq_zero_or_pos n with rfl | positive
  · cases s <;> rfl
  · rw [whole_of_pos positive fits]
    cases s <;> exact roundWithAccuracy_multiple (normal_whole positive fits) _ 52

theorem neg_whole (s : Sign) (n : Nat) : UnpackedFloat.neg (whole s n) = whole (-s) n := by
  unfold whole
  split <;> rfl

theorem toFloat_eq_ofWhole (fits : n < 2 ^ 53) : n.toUInt64.toFloat = ofWhole false n := by
  have word : n.toUInt64.toNat = n := by
    rw [Nat.toUInt64_eq, UInt64.toNat_ofNat']
    omega
  show Float.ofModel (.pack (UnpackedFloat.ofNat .binary64 n.toUInt64.toNat)) = _
  rw [word, ofNat_eq_whole fits]
  rfl

/-- Digits without an exponent are multiplied by the first power of ten, which is one. -/
theorem ofScientific_eq_ofWhole (fits : n < 2 ^ 53) :
    Float.ofScientific n false 0 = ofWhole false n := by
  have power : (Float.ofBits 0x3FF0000000000000).toModel.unpack = one := rfl
  have product :
      Float.ofScientific n false 0 = ofWhole false n * Float.ofBits 0x3FF0000000000000 := by
    rw [← toFloat_eq_ofWhole fits, Float.ofScientific, dif_pos ⟨fits, by decide⟩]
    rfl
  rw [product]
  show Float.ofModel (.pack (UnpackedFloat.mul .binary64 (ofWhole false n).toModel.unpack
    (Float.ofBits 0x3FF0000000000000).toModel.unpack)) = _
  rw [unpack_ofWhole fits, power, mul_one_whole fits]
  rfl

end

theorem ofInt_eq_ofWhole {n : Int} (fits : n.natAbs < 2 ^ 53) :
    ofInt n = ofWhole (n < 0) n.natAbs := by
  have size := ofScientific_eq_ofWhole fits
  by_cases below : n < 0
  · have negated : ofInt n = -ofWhole false n.natAbs := by simp [ofInt, nearest, below, size]
    rw [negated, decide_eq_true below]
    show Float.ofModel (.pack (UnpackedFloat.neg (ofWhole false n.natAbs).toModel.unpack)) = _
    rw [unpack_ofWhole fits, neg_whole]
    rfl
  · simp [ofInt, nearest, below, size]

/-! ## The parts of a whole number -/

theorem toNat_unpackMantissa (b : BitVec 64) :
    (@UnpackedFloat.unpackMantissa .binary64 b).toNat = b.toNat % 2 ^ 52 := by
  rw [UnpackedFloat.unpackMantissa_def, BitVec.extractLsb'_toNat, Nat.shiftRight_zero]

theorem toNat_unpackExponent (b : BitVec 64) :
    (@UnpackedFloat.unpackExponent .binary64 b).toNat = b.toNat / 2 ^ 52 % 2 ^ 11 := by
  rw [UnpackedFloat.unpackExponent_def, BitVec.extractLsb'_toNat, Nat.shiftRight_eq_div_pow]

theorem toNat_unpackSign (b : BitVec 64) :
    (@UnpackedFloat.unpackSign .binary64 b).toNat = b.toNat / 2 ^ 63 % 2 := by
  rw [UnpackedFloat.unpackSign_def, BitVec.extractLsb'_toNat, Nat.shiftRight_eq_div_pow]
  rfl

/-- The size that the exponent field and the fraction stand for. -/
def sizeOfFields (field fraction : Nat) : Magnitude :=
  if field = 2047 then if fraction = 0 then .infinite else .undefined
  else if field = 0 then .finite fraction leastExponent
  else .finite (leadingBit + fraction) (leastExponent + (field - 1 : Nat))

/-- The fields of a finite number: the exponent field is zero for the smallest numbers, and the last
one is not used. -/
theorem sizeOfFields_eq_finite {field fraction : Nat}
    (finite : sizeOfFields field fraction = .finite m e) :
    field = 0 ∧ m = fraction ∧ e = leastExponent ∨
      field ≠ 0 ∧ field ≠ 2047 ∧ m = leadingBit + fraction ∧
        e = leastExponent + (field - 1 : Nat) := by
  unfold sizeOfFields at finite
  split at finite
  · split at finite <;> cases finite
  · split at finite
    · cases finite
      exact .inl ⟨‹_›, rfl, rfl⟩
    · cases finite
      exact .inr ⟨‹_›, ‹_›, rfl, rfl⟩

theorem partsOfBits_eq (bits : Nat) :
    partsOfBits bits =
      ⟨bits / 2 ^ 63 % 2 == 1, sizeOfFields (bits / 2 ^ 52 % 2 ^ 11) (bits % 2 ^ 52)⟩ :=
  rfl

/-- The parts of a packed number are the fields that were packed. -/
theorem partsOfBits_packComponents (s : Sign) (exponent : BitVec 11) (mantissa : BitVec 52) :
    partsOfBits (UnpackedFloat.packComponents .binary64 s exponent mantissa).toNat =
      ⟨s.toBitVec.toNat == 1, sizeOfFields exponent.toNat mantissa.toNat⟩ := by
  rw [partsOfBits_eq, ← toNat_unpackSign, ← toNat_unpackExponent, ← toNat_unpackMantissa,
    UnpackedFloat.unpackSign_packComponents, UnpackedFloat.unpackExponent_packComponents,
    UnpackedFloat.unpackMantissa_packComponents]

/-- The size of a whole number, in the form of `whole`. -/
def wholeSize (n : Nat) : Magnitude :=
  if n = 0 then .finite 0 leastExponent else .finite (n * Nat.pow 2 (52 - n.log2)) (n.log2 - 52)

theorem wholeSize_finite (n : Nat) : ∃ m e, wholeSize n = .finite m e := by
  rw [wholeSize]
  split <;> exact ⟨_, _, rfl⟩

theorem toNat_signOf (negative : Bool) : ((signOf negative).toBitVec.toNat == 1) = negative := by
  cases negative <;> rfl

theorem parts_ofWhole {n : Nat} (fits : n < 2 ^ 53) (negative : Bool) :
    parts (ofWhole negative n) = ⟨negative, wholeSize n⟩ := by
  show partsOfBits (UnpackedFloat.pack .binary64 (whole (signOf negative) n)).toNat = _
  rcases Nat.eq_zero_or_pos n with rfl | positive
  · have zero := partsOfBits_packComponents (signOf negative) 0 0
    rw [toNat_signOf] at zero
    exact zero
  · have normal := normal_whole positive fits
    have field := normal.toNat_exponentField
    have least := normal.least
    have most := normal.most
    have mantissa : leadingBit + (BitVec.ofNat 52 (n * 2 ^ (52 - n.log2))).toNat =
        n * 2 ^ (52 - n.log2) :=
      normal.toNat_mantissaField
    have exponent : leastExponent + ((exponentField (n.log2 - 52)).toNat - 1 : Nat) =
        n.log2 - 52 := by
      rw [leastExponent]
      omega
    rw [whole_of_pos positive fits, pack_normal normal, partsOfBits_packComponents,
      toNat_signOf, sizeOfFields, if_neg (by omega), if_neg (by omega), mantissa, exponent,
      wholeSize, if_neg positive.ne']
    rfl

theorem parts_ofInt {n : Int} (fits : n.natAbs < 2 ^ 53) :
    parts (ofInt n) = ⟨n < 0, wholeSize n.natAbs⟩ := by
  rw [ofInt_eq_ofWhole fits, parts_ofWhole fits]

/-! ## The integer that a number is -/

theorem integer?_eq (x : Float) :
    integer? x = ((parts x).magnitude.nat?).map fun n : Nat => if (parts x).negative
      then -(n : Int) else n := by
  rw [integer?]
  cases (parts x).magnitude.nat? <;> rfl

theorem nat?_wholeSize {n : Nat} (fits : n < 2 ^ 53) : (wholeSize n).nat? = some n := by
  rcases Nat.eq_zero_or_pos n with rfl | positive
  · simp [wholeSize, Magnitude.nat?]
  · have short : n.log2 < 53 := (Nat.log2_lt positive.ne').mpr fits
    have power : (-((n.log2 : Int) - 52)).toNat = 52 - n.log2 := by omega
    rw [wholeSize, if_neg positive.ne', Magnitude.nat?]
    by_cases full : n.log2 = 52
    · simp [full]
    · rw [if_neg (by omega), power]
      simp

/-- The number for an integer is that integer. -/
theorem integer?_ofInt {n : Int} (fits : n.natAbs < 2 ^ 53) : integer? (ofInt n) = some n := by
  simp only [integer?_eq, parts_ofInt fits, nat?_wholeSize fits, Option.map_some, decide_eq_true_eq,
    Option.some_inj]
  split <;> omega

theorem Magnitude.nat?_eq_some {n : Nat} (held : (Magnitude.finite m e).nat? = some n) :
    0 ≤ e ∧ n = m * 2 ^ e.toNat ∨ e < 0 ∧ m = n * 2 ^ (-e).toNat := by
  rw [Magnitude.nat?] at held
  split at held
  · exact .inl ⟨‹_›, (Option.some.inj held).symm⟩
  · split at held
    · have divides := Nat.div_mul_cancel (Nat.dvd_of_mod_eq_zero ‹_›)
      rw [Option.some.inj held] at divides
      exact .inr ⟨by omega, divides.symm⟩
    · cases held

/-- The smallest numbers are not whole, except for zero. -/
theorem Magnitude.nat?_least {n : Nat} (small : m < 2 ^ 52)
    (held : (Magnitude.finite m leastExponent).nat? = some n) : m = 0 ∧ n = 0 := by
  obtain ⟨above, -⟩ | ⟨-, value⟩ := Magnitude.nat?_eq_some held
  · cases above
  · rcases Nat.eq_zero_or_pos n with rfl | positive
    · exact ⟨by simpa using value, rfl⟩
    · have longer : 2 ^ 52 ≤ 2 ^ (-leastExponent).toNat :=
        Nat.pow_le_pow_right (by decide) (by decide)
      have multiple := Nat.le_mul_of_pos_left (2 ^ (-leastExponent).toNat) positive
      omega

/-- A whole number with a leading bit has the form of one. -/
theorem Normal.eq_wholeSize {n : Nat} (normal : Normal m e)
    (held : (Magnitude.finite m e).nat? = some n) (fits : n < 2 ^ 53) :
    Magnitude.finite m e = wholeSize n := by
  obtain ⟨j, power, multiple⟩ : ∃ j : Nat, e = -j ∧ m = n * 2 ^ j := by
    obtain ⟨above, value⟩ | ⟨below, value⟩ := Magnitude.nat?_eq_some held
    · -- With an exponent above zero the number would be too long.
      rcases Nat.eq_zero_or_pos e.toNat with zero | positive
      · rw [zero, Nat.pow_zero, Nat.mul_one] at value
        exact ⟨0, by omega, by simp [value]⟩
      · have longer :=
          Nat.mul_le_mul normal.leading (Nat.pow_le_pow_right (by decide : 0 < 2) positive)
        omega
    · exact ⟨(-e).toNat, by omega, value⟩
  have positive : 0 < n := by
    refine Nat.pos_of_ne_zero fun zero => ?_
    rw [multiple, zero, Nat.zero_mul] at normal
    exact absurd normal.pos (Nat.lt_irrefl 0)
  have highest := normal.log2
  rw [multiple, log2_mul_two_pow positive] at highest
  have shift : 52 - n.log2 = j := by omega
  have exponent : (n.log2 : Int) - 52 = e := by omega
  rw [wholeSize, if_neg positive.ne', shift, exponent, multiple]
  rfl

/-- The mantissa of a finite number has its leading bit, or the number is among the smallest. -/
theorem sizeOfFields_finite {field fraction : Nat} (inField : field < 2 ^ 11)
    (inFraction : fraction < 2 ^ 52) (finite : sizeOfFields field fraction = .finite m e) :
    Normal m e ∨ m < 2 ^ 52 ∧ e = leastExponent := by
  have bit : leadingBit = 2 ^ 52 := rfl
  rcases sizeOfFields_eq_finite finite with ⟨-, rfl, rfl⟩ | ⟨-, notLast, rfl, rfl⟩
  · exact .inr ⟨inFraction, rfl⟩
  · rw [bit, leastExponent]
    exact .inl ⟨by omega, by omega, by omega, by omega⟩

/-- A number that is an integer has the size of that integer. -/
theorem magnitude_of_integer? {x : Float} {n : Int} (held : integer? x = some n)
    (fits : n.natAbs < 2 ^ 53) :
    (parts x).magnitude = wholeSize n.natAbs := by
  rw [integer?_eq] at held
  obtain ⟨size, isSize, value⟩ := Option.map_eq_some_iff.mp held
  obtain rfl : size = n.natAbs := by
    subst value
    split <;> simp
  cases finite : (parts x).magnitude with
  | infinite => rw [finite] at isSize; cases isSize
  | undefined => rw [finite] at isSize; cases isSize
  | finite m e =>
    rw [finite] at isSize
    rcases sizeOfFields_finite (Nat.mod_lt _ (by decide)) (Nat.mod_lt _ (by decide)) finite with
      normal | ⟨small, rfl⟩
    · exact normal.eq_wholeSize isSize fits
    · obtain ⟨rfl, zero⟩ := Magnitude.nat?_least small isSize
      rw [zero]
      rfl

theorem negative_of_integer? {x : Float} {n : Int} (held : integer? x = some n)
    (nonzero : n ≠ 0) :
    (parts x).negative = decide (n < 0) := by
  rw [integer?_eq] at held
  obtain ⟨size, -, value⟩ := Option.map_eq_some_iff.mp held
  cases sign : (parts x).negative with
  | false =>
    rw [sign, if_neg (by decide)] at value
    exact (decide_eq_false (by omega)).symm
  | true =>
    rw [sign, if_pos rfl] at value
    exact (decide_eq_true (by omega)).symm

/-! ## The number that an integer is -/

/-- The two fields of a finite number, read as one, from its size. -/
theorem fields_of_finite {field fraction : Nat}
    (finite : sizeOfFields field fraction = .finite m e) :
    (field * 2 ^ 52 + fraction : Int) = m + (e + 1074) * 2 ^ 52 := by
  have bit : leadingBit = 2 ^ 52 := rfl
  rcases sizeOfFields_eq_finite finite with ⟨rfl, rfl, rfl⟩ | ⟨notFirst, -, rfl, rfl⟩
  · rw [leastExponent]
    omega
  · rw [bit, leastExponent]
    omega

/-- A finite number is determined by its parts. -/
theorem eq_of_parts {x y : Float} (same : parts x = parts y)
    (finite : (parts x).magnitude = .finite m e) : x = y := by
  have finite' : (parts y).magnitude = .finite m e := same ▸ finite
  rw [parts, partsOfBits_eq] at finite finite'
  simp only [parts, partsOfBits_eq, Parts.mk.injEq] at same
  have signs : x.toBits.toNat / 2 ^ 63 % 2 = 1 ↔ y.toBits.toNat / 2 ^ 63 % 2 = 1 := by
    rw [← beq_iff_eq, same.1, beq_iff_eq]
  -- The bits are the sign and, below it, the two fields, which the size determines.
  have fields := (fields_of_finite finite).trans (fields_of_finite finite').symm
  have xBits := x.toBits.toNat_lt
  have yBits := y.toBits.toNat_lt
  refine Float.toBits_inj.mp (UInt64.toNat_inj.mp ?_)
  push_cast at fields
  omega

/-- A number that is an integer is the whole number of that size, with one of the two signs. -/
theorem eq_ofWhole_of_integer? {x : Float} {n : Int} (held : integer? x = some n)
    (fits : n.natAbs < 2 ^ 53) :
    x = ofWhole (parts x).negative n.natAbs := by
  obtain ⟨m, e, finite⟩ := wholeSize_finite n.natAbs
  have size := magnitude_of_integer? held fits
  refine eq_of_parts ?_ (size.trans finite)
  rw [parts_ofWhole fits, ← size]

/-- Only one number is an integer other than zero. -/
theorem eq_ofInt_of_integer? {x : Float} {n : Int} (held : integer? x = some n)
    (fits : n.natAbs < 2 ^ 53) (nonzero : n ≠ 0) : x = ofInt n := by
  rw [ofInt_eq_ofWhole fits, ← negative_of_integer? held nonzero]
  exact eq_ofWhole_of_integer? held fits

/-- All numbers that are an integer count as equal, the two zeros too. -/
theorem beq_ofInt_of_integer? {x : Float} {n : Int} (held : integer? x = some n)
    (fits : n.natAbs < 2 ^ 53) :
    (x == ofInt n) = true := by
  by_cases nonzero : n = 0
  · subst nonzero
    rw [eq_ofWhole_of_integer? held fits]
    cases (parts x).negative <;> rfl
  · rw [← eq_ofInt_of_integer? held fits nonzero]
    refine Float.beq_self_iff.mpr fun undefined => ?_
    have none : integer? Float.nan = none := by decide +kernel
    rw [undefined, none] at held
    cases held

theorem integer?_of_beq_ofInt {x : Float} {n : Int} (equal : (x == ofInt n) = true)
    (fits : n.natAbs < 2 ^ 53) :
    integer? x = some n := by
  have held := integer?_ofInt fits
  have zeros : integer? 0 = some 0 ∧ integer? (-0) = some 0 := by decide +kernel
  obtain ⟨-, -, rfl | ⟨rfl, zero⟩ | ⟨rfl, zero⟩⟩ := Float.beq_iff_ne_nan_and_eq.mp equal
  · exact held
  · rw [zeros.1, ← zeros.2, ← zero, held]
  · rw [zeros.2, ← zeros.1, ← zero, held]

/-- A number is an integer if it equals the number for it. -/
theorem integer?_eq_some_iff {x : Float} {n : Int} (fits : n.natAbs < 2 ^ 53) :
    integer? x = some n ↔ (x == ofInt n) = true :=
  ⟨fun held => beq_ofInt_of_integer? held fits, fun equal => integer?_of_beq_ofInt equal fits⟩

end RobotScript.Decimal
