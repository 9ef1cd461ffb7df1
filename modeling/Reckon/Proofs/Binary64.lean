import Mathlib
import Reckon.Binary64

/-!
Doubles and the integers among them.  An integer of less than fifty-four bits is read off a double
and rounded to the nearest double again without loss; only the sign of zero is forgotten.
-/

namespace Reckon.Binary64

def IsFinite (number : Float) : Prop :=
  ∃ negative mantissa exponent, decode number = .finite negative mantissa exponent

instance : DecidablePred IsFinite := fun number =>
  match read : decode number with
  | .finite negative mantissa exponent => isTrue ⟨negative, mantissa, exponent, read⟩
  | .infinite _ => isFalse fun ⟨_, _, _, other⟩ => by rw [read] at other; cases other
  | .nan => isFalse fun ⟨_, _, _, other⟩ => by rw [read] at other; cases other

variable {number : Float}

theorem IsFinite.ne_nan (finite : IsFinite number) : number ≠ Float.nan := by
  rintro rfl
  revert finite
  decide +kernel

theorem IsFinite.isNaN (finite : IsFinite number) : number.isNaN = false := by
  rw [Float.isNaN_eq_decide_eq_nan, decide_eq_false_iff_not]
  exact finite.ne_nan

theorem IsFinite.beq_self (finite : IsFinite number) : (number == number) = true :=
  Float.beq_self_iff.mpr finite.ne_nan

theorem beq_symm {left right : Float} (same : (left == right) = true) : (right == left) = true := by
  obtain ⟨leftNumber, rightNumber, same⟩ := Float.beq_iff_ne_nan_and_eq.mp same
  apply Float.beq_iff_ne_nan_and_eq.mpr
  refine ⟨rightNumber, leftNumber, ?_⟩
  rcases same with same | ⟨positive, negative⟩ | ⟨negative, positive⟩
  · exact .inl same.symm
  · exact .inr (.inr ⟨negative, positive⟩)
  · exact .inr (.inl ⟨positive, negative⟩)

theorem beq_trans {first second third : Float} (left : (first == second) = true)
    (right : (second == third) = true) : (first == third) = true := by
  obtain ⟨firstNumber, -, left⟩ := Float.beq_iff_ne_nan_and_eq.mp left
  obtain ⟨-, thirdNumber, right⟩ := Float.beq_iff_ne_nan_and_eq.mp right
  apply Float.beq_iff_ne_nan_and_eq.mpr
  refine ⟨firstNumber, thirdNumber, ?_⟩
  rcases left with rfl | left | left
  · exact right
  · grind
  · grind

theorem beq_self_eq_not_isNaN (number : Float) : (number == number) = !number.isNaN := by
  rw [Float.isNaN_eq_decide_eq_nan, Bool.eq_iff_iff, Float.beq_self_iff]
  simp

/-- The bits of a double, its sign aside. -/
def magnitude (number : Float) : Nat :=
  number.toBits.toNat % signBit

def isSigned (number : Float) : Bool :=
  decide (signBit ≤ number.toBits.toNat)

theorem assemble_magnitude (number : Float) :
    assemble (isSigned number) (magnitude number) = number := by
  have bounded : number.toBits.toNat < 2 * signBit := number.toBits.toNat_lt
  have whole : (if isSigned number then signBit + magnitude number else magnitude number) =
      number.toBits.toNat := by
    unfold isSigned magnitude
    by_cases signed : signBit ≤ number.toBits.toNat
    · rw [if_pos (decide_eq_true signed), Nat.mod_eq_sub_mod signed, Nat.mod_eq_of_lt (by omega)]
      omega
    · rw [if_neg (by simpa using signed), Nat.mod_eq_of_lt (by omega)]
  unfold assemble
  rw [whole, UInt64.ofNat_toNat, Float.ofBits_toBits]

/-! ## Whole numbers of less than fifty-four bits -/

section

variable {count mantissa shift : Nat} (whole : count * 2 ^ shift = mantissa)
  (least : hiddenBit ≤ mantissa)

include whole least

theorem count_ne_zero : count ≠ 0 := by
  rintro rfl
  rw [Nat.zero_mul] at whole
  subst whole
  exact absurd least (by decide)

variable (most : mantissa < 2 * hiddenBit)

include most

theorem shift_le : shift ≤ 52 := by
  by_contra large
  have power : 2 * hiddenBit ≤ 2 ^ shift :=
    Nat.pow_le_pow_right (n := 2) (i := 53) (by decide) (by omega)
  have product : 2 ^ shift ≤ count * 2 ^ shift :=
    Nat.le_mul_of_pos_left _ (Nat.pos_of_ne_zero (count_ne_zero whole least))
  omega

theorem log2_count : count.log2 = 52 - shift := by
  have small := shift_le whole least most
  have powers : 2 ^ (52 - shift) * 2 ^ shift = hiddenBit := by
    rw [← Nat.pow_add, Nat.sub_add_cancel small]
    rfl
  rw [Nat.log2_eq_iff (count_ne_zero whole least)]
  constructor
  · apply Nat.le_of_mul_le_mul_right _ (Nat.two_pow_pos shift)
    rw [powers, whole]
    exact least
  · apply Nat.lt_of_mul_lt_mul_right (a := 2 ^ shift)
    rw [Nat.pow_succ, Nat.mul_right_comm, powers, whole, Nat.mul_comm]
    exact most

theorem unitExponent_count : unitExponent count 1 = -shift := by
  have small := shift_le whole least most
  have guess : (count.log2 : Int) - Nat.log2 1 - 53 = -(shift + 1 : Nat) := by
    have one : Nat.log2 1 = 0 := by decide
    rw [log2_count whole least most, one]
    omega
  have full : ¬count * 2 ^ (shift + 1) < 2 * hiddenBit := by
    rw [Nat.pow_succ, ← Nat.mul_assoc, whole]
    omega
  have scaled : scale count 1 (-(shift + 1 : Nat)) = (count * 2 ^ (shift + 1), 1) := by
    simp [scale]
  unfold unitExponent
  simp only [guess, scaled, Nat.div_one, if_neg full, leastExponent]
  omega

theorem nearestBits_count :
    nearestBits count 1 = (1074 - shift) * hiddenBit + mantissa := by
  have small := shift_le whole least most
  have scaled : scale count 1 (-shift) = (mantissa, 1) := by
    simp [scale, whole]
  have exact : roundHalfEven mantissa 1 = mantissa := by
    simp [roundHalfEven, Nat.mod_one]
  have unit : (-(shift : Int) - leastExponent).toNat = 1074 - shift := by
    unfold leastExponent
    omega
  unfold nearestBits
  rw [if_neg (count_ne_zero whole least)]
  simp only [unitExponent_count whole least most, scaled, exact, unit]
  apply Nat.min_eq_left
  simp only [infiniteBits, hiddenBit] at *
  omega

end

/-! ## Integers read off doubles -/

section

variable {negative : Bool} {mantissa : Nat} {exponent : Int}

structure Parts (number : Float) (negative : Bool) (mantissa : Nat) (exponent : Int) : Prop where
  sign : isSigned number = negative
  bits : magnitude number = (exponent - leastExponent).toNat * hiddenBit + mantissa
  most : mantissa < 2 * hiddenBit
  normal : hiddenBit ≤ mantissa ∨ exponent = leastExponent

theorem parts_of_decode (read : decode number = .finite negative mantissa exponent) :
    Parts number negative mantissa exponent := by
  have fraction : number.toBits.toNat % hiddenBit < hiddenBit := Nat.mod_lt _ (by decide)
  unfold decode ofBits at read
  dsimp only at read
  split at read
  · split at read <;> cases read
  · split at read
    · rename_i field
      cases read
      refine ⟨rfl, ?_, by omega, .inr rfl⟩
      simp only [magnitude, signBit, hiddenBit, leastExponent] at *
      omega
    · rename_i field
      cases read
      refine ⟨rfl, ?_, by omega, .inl (Nat.le_add_right ..)⟩
      simp only [magnitude, signBit, hiddenBit, leastExponent] at *
      omega

theorem eq_zero_of_mod_eq_zero {shift : Nat} (small : mantissa < hiddenBit) (large : 52 ≤ shift)
    (exact : mantissa % 2 ^ shift = 0) : mantissa = 0 := by
  have power : hiddenBit ≤ 2 ^ shift := Nat.pow_le_pow_right (n := 2) (i := 52) (by decide) large
  rwa [Nat.mod_eq_of_lt (Nat.lt_of_lt_of_le small power)] at exact

theorem wholePart_natAbs (negative : Bool) (mantissa : Nat) (exponent : Int) :
    (wholePart negative mantissa exponent).natAbs =
      mantissa * 2 ^ exponent.toNat / 2 ^ (-exponent).toNat := by
  cases negative with
  | false => exact Int.natAbs_natCast _
  | true => exact (Int.natAbs_neg _).trans (Int.natAbs_natCast _)

theorem wholePart_mul {shift : Nat} (exact : mantissa % 2 ^ shift = 0) :
    (wholePart negative mantissa (-shift)).natAbs * 2 ^ shift = mantissa := by
  have natAbs : (wholePart negative mantissa (-shift)).natAbs = mantissa / 2 ^ shift := by
    rw [wholePart_natAbs]
    simp
  rw [natAbs]
  exact Nat.div_mul_cancel (Nat.dvd_of_mod_eq_zero exact)

theorem wholePart_neg_iff (nonzero : wholePart negative mantissa exponent ≠ 0) :
    wholePart negative mantissa exponent < 0 ↔ negative = true := by
  cases negative with
  | false => exact iff_of_false (Int.not_lt.mpr (Int.natCast_nonneg _)) nofun
  | true =>
      refine iff_of_true ?_ rfl
      have opposite : wholePart true mantissa exponent = -wholePart false mantissa exponent := rfl
      have positive : 0 ≤ wholePart false mantissa exponent := Int.natCast_nonneg _
      omega

namespace Parts

variable (parts : Parts number negative mantissa exponent)

include parts

theorem exponent_nonpos (small : (wholePart negative mantissa exponent).natAbs < 2 * hiddenBit) :
    exponent ≤ 0 := by
  by_contra positive
  have normal : hiddenBit ≤ mantissa := by
    rcases parts.normal with normal | least
    · exact normal
    · simp only [least, leastExponent] at positive
      omega
  have power : 2 ≤ 2 ^ exponent.toNat :=
    Nat.pow_le_pow_right (n := 2) (i := 1) (by decide) (by omega)
  have unscaled : (-exponent).toNat = 0 := by omega
  rw [wholePart_natAbs, unscaled, Nat.pow_zero, Nat.div_one] at small
  have product : hiddenBit * 2 ≤ mantissa * 2 ^ exponent.toNat := Nat.mul_le_mul normal power
  omega

theorem normal_of_nonzero (exact : mantissa % 2 ^ (-exponent).toNat = 0) (nonzero : mantissa ≠ 0) :
    hiddenBit ≤ mantissa := by
  rcases parts.normal with normal | rfl
  · exact normal
  · by_contra small
    exact nonzero (eq_zero_of_mod_eq_zero (Nat.lt_of_not_le small) (by decide) exact)

/-- A double that is an integer of less than fifty-four bits other than zero is the double nearest
to it. -/
theorem ofInt_wholePart (exact : mantissa % 2 ^ (-exponent).toNat = 0)
    (small : (wholePart negative mantissa exponent).natAbs < 2 * hiddenBit)
    (nonzero : mantissa ≠ 0) : ofInt (wholePart negative mantissa exponent) = number := by
  have normal := parts.normal_of_nonzero exact nonzero
  obtain ⟨shift, rfl⟩ := Int.exists_eq_neg_ofNat (parts.exponent_nonpos small)
  rw [Int.neg_neg, Int.toNat_natCast] at exact
  have whole : (wholePart negative mantissa (-shift)).natAbs * 2 ^ shift = mantissa :=
    wholePart_mul exact
  have bits : nearestBits (wholePart negative mantissa (-shift)).natAbs 1 = magnitude number := by
    have unit : (-(shift : Int) - leastExponent).toNat = 1074 - shift := by
      unfold leastExponent
      omega
    rw [nearestBits_count whole normal parts.most, parts.bits, unit]
  have sign : decide (wholePart negative mantissa (-shift) < 0) = isSigned number := by
    have other := Int.natAbs_ne_zero.mp (count_ne_zero whole normal)
    rw [parts.sign, Bool.eq_iff_iff, decide_eq_true_iff]
    exact wholePart_neg_iff other
  unfold ofInt ofRatio
  rw [bits, sign, assemble_magnitude]

theorem eq_zero (nothing : mantissa = 0) : number = 0 ∨ number = -0 := by
  have least : exponent = leastExponent := by
    rcases parts.normal with normal | least
    · exact absurd (nothing ▸ normal) (by decide)
    · exact least
  have bits : magnitude number = 0 := by
    rw [parts.bits, least, nothing, Int.sub_self]
    rfl
  have whole := assemble_magnitude number
  rw [bits] at whole
  rw [← whole]
  cases isSigned number with
  | false => exact .inl (by decide +kernel)
  | true => exact .inr (by decide +kernel)

end Parts

end

/-- A double that is an integer of less than fifty-four bits equals the double nearest to it. -/
theorem ofInt_beq_of_toInt? {whole : Int} (read : toInt? number = some whole)
    (small : whole.natAbs < 2 * hiddenBit) : (ofInt whole == number) = true := by
  unfold toInt? at read
  split at read
  · rename_i negative mantissa exponent decoded
    have parts := parts_of_decode decoded
    split at read
    · rename_i exact
      cases read
      by_cases nothing : mantissa = 0
      · have vanishes : wholePart negative mantissa exponent = 0 := by
          subst nothing
          cases negative <;> simp [wholePart]
        rw [vanishes]
        rcases parts.eq_zero nothing with rfl | rfl <;> decide +kernel
      · have same := parts.ofInt_wholePart exact small nothing
        rw [same]
        exact IsFinite.beq_self ⟨_, _, _, decoded⟩
    · cases read
  · cases read

/-! ## Integers of a machine word -/

theorem toBits_ofBits {bits : UInt64} (other : bits.toNat / hiddenBit % 2048 ≠ 2047) :
    (Float.ofBits bits).toBits = bits := by
  have field : @Float.Model.UnpackedFloat.isNaNBits .binary64 bits.toBitVec = false := by
    unfold Float.Model.UnpackedFloat.isNaNBits
    rw [decide_eq_false_iff_not]
    rintro ⟨ones, -⟩
    rw [Float.Model.UnpackedFloat.unpackExponent_def] at ones
    have numbers := congrArg BitVec.toNat ones
    rw [BitVec.extractLsb'_toNat, Nat.shiftRight_eq_div_pow] at numbers
    exact other numbers
  have packed := @Float.Model.UnpackedFloat.pack_unpack .binary64 bits.toBitVec
  rw [field] at packed
  exact congrArg UInt64.ofBitVec packed

theorem exists_finite_of_bits {bits : Nat} (other : bits / hiddenBit % 2048 ≠ 2047) :
    ∃ negative mantissa exponent, ofBits bits = .finite negative mantissa exponent := by
  unfold ofBits
  rw [if_neg other]
  split
  · exact ⟨_, _, _, rfl⟩
  · exact ⟨_, _, _, rfl⟩

/-- Bits below those of infinity are kept as they are, and the sign bit goes before them. -/
theorem decode_assemble (negative : Bool) {bits : Nat} (small : bits < infiniteBits) :
    decode (assemble negative bits) = ofBits (if negative then signBit + bits else bits) := by
  have word : (UInt64.ofNat (if negative then signBit + bits else bits)).toNat =
      if negative then signBit + bits else bits := by
    rw [UInt64.toNat_ofNat']
    apply Nat.mod_eq_of_lt
    simp only [infiniteBits, hiddenBit, signBit] at *
    split <;> omega
  have field : (if negative then signBit + bits else bits) / hiddenBit % 2048 ≠ 2047 := by
    simp only [infiniteBits, hiddenBit, signBit] at *
    split <;> omega
  unfold decode assemble
  rw [toBits_ofBits (by rwa [word]), word]

theorem isFinite_assemble (negative : Bool) {bits : Nat} (small : bits < infiniteBits) :
    IsFinite (assemble negative bits) := by
  have field : (if negative then signBit + bits else bits) / hiddenBit % 2048 ≠ 2047 := by
    simp only [infiniteBits, hiddenBit, signBit] at *
    split <;> omega
  unfold IsFinite
  rw [decode_assemble negative small]
  exact exists_finite_of_bits field

theorem isNaN_assemble (negative : Bool) {bits : Nat} (bounded : bits ≤ infiniteBits) :
    (assemble negative bits).isNaN = false := by
  rcases Nat.lt_or_eq_of_le bounded with small | rfl
  · exact (isFinite_assemble negative small).isNaN
  · cases negative <;> decide +kernel

theorem roundHalfEven_le (top bottom : Nat) : roundHalfEven top bottom ≤ top / bottom + 1 := by
  unfold roundHalfEven
  dsimp only
  split <;> omega

theorem quotient_lt {count : Nat} {exponent : Int} (least : (count.log2 : Int) - 53 ≤ exponent) :
    (scale count 1 exponent).1 / (scale count 1 exponent).2 < 2 ^ 54 := by
  have power : count < 2 ^ (count.log2 + 1) := Nat.lt_log2_self
  change count * 2 ^ (-exponent).toNat / (1 * 2 ^ exponent.toNat) < 2 ^ 54
  rw [Nat.one_mul]
  apply Nat.div_lt_of_lt_mul
  calc count * 2 ^ (-exponent).toNat
      < 2 ^ (count.log2 + 1) * 2 ^ (-exponent).toNat :=
        Nat.mul_lt_mul_of_pos_right power (Nat.two_pow_pos _)
    _ = 2 ^ (count.log2 + 1 + (-exponent).toNat) := (Nat.pow_add ..).symm
    _ ≤ 2 ^ (exponent.toNat + 54) := Nat.pow_le_pow_right (by decide) (by omega)
    _ = 2 ^ exponent.toNat * 2 ^ 54 := Nat.pow_add ..

theorem nearestBits_lt {count : Nat} (small : count < 2 ^ 64) :
    nearestBits count 1 < infiniteBits := by
  unfold nearestBits
  split
  · decide
  · rename_i nonzero
    have log : count.log2 < 64 := (Nat.log2_lt nonzero).mpr small
    have one : Nat.log2 1 = 0 := by decide
    have least : (count.log2 : Int) - 53 ≤ unitExponent count 1 := by
      unfold unitExponent
      dsimp only
      split <;> omega
    have most : unitExponent count 1 ≤ 11 := by
      unfold unitExponent leastExponent
      dsimp only
      split <;> omega
    have mantissa := Nat.le_trans (roundHalfEven_le ..) (quotient_lt least)
    have unit : (unitExponent count 1 - leastExponent).toNat ≤ 1085 := by
      unfold leastExponent
      omega
    apply Nat.lt_of_le_of_lt (Nat.min_le_left ..)
    have units := Nat.mul_le_mul_right hiddenBit unit
    simp only [infiniteBits, hiddenBit] at *
    omega

theorem isFinite_ofInt {whole : Int} (small : whole.natAbs < 2 ^ 64) : IsFinite (ofInt whole) :=
  isFinite_assemble _ (nearestBits_lt small)

end Reckon.Binary64
