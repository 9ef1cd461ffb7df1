import Reckon.Proofs.Binary64.Rounding
import Reckon.Proofs.Binary64.Special

/-!
Products of doubles.  The product of two finite ones is the double nearest to the product of what
they denote, so integers are multiplied without loss as long as a double denotes their product.
-/

namespace Reckon.Binary64

open Float.Model UnpackedFloat

variable {number left right : Float}

/-! ## What a double is unpacked to -/

def signOf (negative : Bool) : Sign :=
  if negative then .negative else .positive

theorem isNegative_signOf (negative : Bool) : isNegative (signOf negative) = negative := by
  cases negative <;> rfl

theorem toNat_unpackExponent (number : Float) :
    (@unpackExponent .binary64 number.toBits.toBitVec).toNat =
      number.toBits.toNat / hiddenBit % 2048 := by
  rw [unpackExponent_def, BitVec.extractLsb'_toNat, Nat.shiftRight_eq_div_pow]
  rfl

theorem toNat_unpackMantissa (number : Float) :
    (@unpackMantissa .binary64 number.toBits.toBitVec).toNat = number.toBits.toNat % hiddenBit := by
  rw [unpackMantissa_def, BitVec.extractLsb'_toNat]
  rfl

theorem toNat_wholeMantissa (number : Float) :
    (1#1 ++ @unpackMantissa .binary64 number.toBits.toBitVec).toNat =
      hiddenBit + number.toBits.toNat % hiddenBit := by
  have whole := Nat.shiftLeft_add_eq_or_of_lt
    (@unpackMantissa .binary64 number.toBits.toBitVec).isLt 1
  rw [BitVec.toNat_append, ← toNat_unpackMantissa]
  exact whole.symm

theorem ofBitVec_unpackSign (number : Float) :
    Sign.ofBitVec (@unpackSign .binary64 number.toBits.toBitVec) = signOf (isSigned number) := by
  have bit : (@unpackSign .binary64 number.toBits.toBitVec).toNat =
      number.toBits.toNat / signBit % 2 := by
    rw [unpackSign_def, BitVec.extractLsb'_toNat, Nat.shiftRight_eq_div_pow]
    rfl
  have bounded : number.toBits.toNat < 2 * signBit := number.toBits.toNat_lt
  unfold Sign.ofBitVec signOf isSigned
  by_cases signed : signBit ≤ number.toBits.toNat
  · have one : number.toBits.toNat / signBit % 2 = 1 := by
      have quotient : number.toBits.toNat / signBit = 1 := by
        rw [Nat.div_eq_iff (by decide)]
        omega
      rw [quotient]
    have other : @unpackSign .binary64 number.toBits.toBitVec ≠ 0#1 := by
      intro zero
      rw [zero, one] at bit
      cases bit
    rw [if_neg other, if_pos (decide_eq_true signed)]
  · have zero : @unpackSign .binary64 number.toBits.toBitVec = 0#1 := by
      apply BitVec.eq_of_toNat_eq
      rw [bit, Nat.div_eq_of_lt (Nat.lt_of_not_le signed)]
      rfl
    rw [if_pos zero, if_neg (by simpa using signed)]

section

variable (number)

theorem unpackExponent_eq_iff (field : BitVec 11) :
    @unpackExponent .binary64 number.toBits.toBitVec = field ↔
      number.toBits.toNat / hiddenBit % 2048 = field.toNat := by
  rw [← toNat_unpackExponent]
  exact BitVec.toNat_inj.symm

theorem unpackMantissa_eq_zero_iff :
    @unpackMantissa .binary64 number.toBits.toBitVec = 0#52 ↔
      number.toBits.toNat % hiddenBit = 0 := by
  rw [← toNat_unpackMantissa]
  exact BitVec.toNat_inj.symm

end

theorem finite_congr {sign : Sign} {mantissa other : Nat} {exponent power : Int}
    {positive : 0 < mantissa} {further : 0 < other} (mantissas : mantissa = other)
    (exponents : exponent = power) :
    UnpackedFloat.finite sign mantissa exponent positive = .finite sign other power further := by
  subst mantissas exponents
  rfl

theorem unpack_of_finite {negative : Bool} {mantissa : Nat} {exponent : Int}
    (decoded : decode number = .finite negative mantissa exponent) :
    number.toModel.unpack =
      if positive : 0 < mantissa then .finite (signOf negative) mantissa exponent positive
      else .zero (signOf negative) := by
  have sign := ofBitVec_unpackSign number
  have field := toNat_unpackExponent number
  have fraction := toNat_unpackMantissa number
  change UnpackedFloat.unpack .binary64 number.toBits.toBitVec = _
  unfold UnpackedFloat.unpack
  dsimp only
  rw [sign]
  unfold decode ofBits at decoded
  dsimp only at decoded
  split at decoded
  · split at decoded <;> cases decoded
  · rename_i proper
    have finite : @unpackExponent .binary64 number.toBits.toBitVec ≠ -1#11 :=
      fun ones => proper ((unpackExponent_eq_iff number _).mp ones)
    rw [if_neg finite]
    split at decoded
    · rename_i subnormal
      cases decoded
      rw [if_pos ((unpackExponent_eq_iff number 0#11).mpr subnormal)]
      by_cases nothing : number.toBits.toNat % hiddenBit = 0
      · rw [dif_pos ((unpackMantissa_eq_zero_iff number).mpr nothing), dif_neg (by omega)]
        rfl
      · rw [dif_neg (mt (unpackMantissa_eq_zero_iff number).mp nothing),
          dif_pos (Nat.pos_of_ne_zero nothing)]
        refine finite_congr fraction ?_
        rw [field, subnormal]
        rfl
    · rename_i normal
      cases decoded
      have other : @unpackExponent .binary64 number.toBits.toBitVec ≠ 0#11 :=
        fun zero => normal ((unpackExponent_eq_iff number _).mp zero)
      have positive : 0 < hiddenBit + number.toBits.toNat % hiddenBit :=
        Nat.add_pos_left (by decide) _
      rw [if_neg other, dif_pos positive]
      refine finite_congr (toNat_wholeMantissa number) ?_
      rw [field]
      rfl

theorem toModel_mul (left right : Float) :
    left * right = Float.ofModel (Float.Model.pack
      (UnpackedFloat.mul .binary64 left.toModel.unpack right.toModel.unpack)) := rfl

/-! ## Products -/

theorem ofScaled_zero (negative : Bool) (exponent : Int) :
    ofScaled negative 0 exponent = assemble negative 0 := by
  unfold ofScaled ofRatio nearestBits
  rw [if_pos (Nat.zero_mul _)]

section

variable {negative sign : Bool} {mantissa fraction : Nat} {exponent power : Int}

/-- Mantissas of fifty-three bits, or of the least exponent, have a product that is long enough to
be rounded. -/
theorem product_fine (first : decode left = .finite negative mantissa exponent)
    (second : decode right = .finite sign fraction power) (nonzero : mantissa ≠ 0)
    (further : fraction ≠ 0) :
    exponent + power ≤ max (exponent + power + (mantissa * fraction).log2 - 52) leastExponent := by
  have log : hiddenBit ≤ mantissa * fraction → 52 ≤ (mantissa * fraction).log2 :=
    fun large => (Nat.le_log2 (Nat.mul_ne_zero nonzero further)).mpr large
  rcases (parts_of_decode first).normal with normal | least
  · have large : hiddenBit ≤ mantissa * fraction :=
      normal.trans (Nat.le_mul_of_pos_right mantissa (Nat.pos_of_ne_zero further))
    have long := log large
    omega
  · rcases (parts_of_decode second).normal with normal | lowest
    · have large : hiddenBit ≤ mantissa * fraction :=
        normal.trans (Nat.le_mul_of_pos_left fraction (Nat.pos_of_ne_zero nonzero))
      have long := log large
      omega
    · unfold leastExponent at *
      omega

/-- The product of two finite doubles is the double nearest to the product of what they denote. -/
theorem mul_eq_ofScaled (first : decode left = .finite negative mantissa exponent)
    (second : decode right = .finite sign fraction power) :
    left * right = ofScaled (negative ^^ sign) (mantissa * fraction) (exponent + power) := by
  have signs : isNegative (signOf negative * signOf sign) = (negative ^^ sign) := by
    rw [isNegative_mul, isNegative_signOf, isNegative_signOf]
  rw [toModel_mul, unpack_of_finite first, unpack_of_finite second]
  by_cases positive : 0 < mantissa
  · by_cases further : 0 < fraction
    · rw [dif_pos positive, dif_pos further]
      have rounded := ofModel_pack_round (signOf negative * signOf sign)
        (Nat.mul_ne_zero positive.ne' further.ne')
        (product_fine first second positive.ne' further.ne')
      rwa [signs] at rounded
    · obtain rfl := Nat.eq_zero_of_not_pos further
      rw [dif_pos positive, dif_neg further, Nat.mul_zero, ofScaled_zero, ← signs]
      exact ofModel_pack_zero _
  · obtain rfl := Nat.eq_zero_of_not_pos positive
    rw [dif_neg positive, Nat.zero_mul, ofScaled_zero, ← signs]
    by_cases further : 0 < fraction
    · rw [dif_pos further]
      exact ofModel_pack_zero _
    · rw [dif_neg further]
      exact ofModel_pack_zero _

end

theorem unpack_infinity (negative : Bool) :
    (infinity negative).toModel.unpack = .infinity (signOf negative) := by
  cases negative <;> rfl

/-- An infinity keeps beyond all bounds when it is multiplied by a finite double other than zero. -/
theorem mul_of_infinite {negative sign : Bool} {fraction : Nat} {power : Int}
    (first : decode left = .infinite negative) (second : decode right = .finite sign fraction power)
    (nonzero : fraction ≠ 0) : left * right = infinity (negative ^^ sign) := by
  have signs : isNegative (signOf negative * signOf sign) = (negative ^^ sign) := by
    rw [isNegative_mul, isNegative_signOf, isNegative_signOf]
  rw [toModel_mul, eq_infinity_of_decode first, unpack_infinity, unpack_of_finite second,
    dif_pos (Nat.pos_of_ne_zero nonzero), ← signs]
  exact ofModel_pack_infinity _

theorem nan_mul (right : Float) : Float.nan * right = Float.nan := rfl

/-! ## Products of integers -/

section

variable {negative : Bool} {mantissa : Nat} {exponent : Int}

theorem wholePart_eq (negative : Bool) (mantissa : Nat) (exponent : Int) :
    (wholePart negative mantissa exponent : ℚ) = signFactor negative *
      (mantissa * 2 ^ exponent.toNat / 2 ^ (-exponent).toNat : Nat) := by
  cases negative with
  | false => exact (Int.cast_natCast _).trans (one_mul _).symm
  | true =>
      rw [signFactor, if_pos rfl, neg_one_mul, ← Int.cast_natCast, ← Int.cast_neg]
      rfl

theorem wholePart_eq_amount (negative : Bool) (exact : mantissa % 2 ^ (-exponent).toNat = 0) :
    (wholePart negative mantissa exponent : ℚ) = amount negative mantissa exponent := by
  have divides : 2 ^ (-exponent).toNat ∣ mantissa * 2 ^ exponent.toNat :=
    (Nat.dvd_of_mod_eq_zero exact).mul_right _
  have nonzero : ((2 ^ (-exponent).toNat : Nat) : ℚ) ≠ 0 :=
    Nat.cast_ne_zero.mpr (Nat.two_pow_pos _).ne'
  rw [wholePart_eq, Nat.cast_div divides nonzero, binary_ratio_eq, amount]

theorem mod_of_amount {whole : Int} (denotes : amount negative mantissa exponent = whole) :
    mantissa % 2 ^ (-exponent).toNat = 0 := by
  have size : (mantissa * 2 ^ exponent : ℚ) = whole.natAbs := by
    rw [← abs_amount negative, denotes, Nat.cast_natAbs, Int.cast_abs]
  obtain ⟨shift, rfl | rfl⟩ := exponent.eq_nat_or_neg
  · rw [Int.toNat_neg_natCast, Nat.pow_zero, Nat.mod_one]
  · rw [zpow_neg, zpow_natCast, ← div_eq_mul_inv, div_eq_iff (by positivity)] at size
    have product : mantissa = whole.natAbs * 2 ^ shift := by exact_mod_cast size
    rw [Int.neg_neg, Int.toNat_natCast, product, Nat.mul_mod_left]

theorem toInt?_eq_some_iff {whole : Int} :
    toInt? number = some whole ↔
      ∃ negative mantissa exponent, decode number = .finite negative mantissa exponent ∧
        amount negative mantissa exponent = whole := by
  constructor
  · intro read
    unfold toInt? at read
    split at read
    · rename_i negative mantissa exponent decoded
      split at read
      · rename_i exact
        cases read
        exact ⟨negative, mantissa, exponent, decoded, (wholePart_eq_amount negative exact).symm⟩
      · cases read
    · cases read
  · rintro ⟨negative, mantissa, exponent, decoded, denotes⟩
    have exact := mod_of_amount denotes
    have same : wholePart negative mantissa exponent = whole := by
      have cast := wholePart_eq_amount negative exact
      rw [denotes] at cast
      exact_mod_cast cast
    unfold toInt?
    rw [decoded]
    dsimp only
    rw [← same]
    exact if_pos exact

end

theorem amount_mul (negative sign : Bool) (mantissa fraction : Nat) (exponent power : Int) :
    amount (negative ^^ sign) (mantissa * fraction) (exponent + power) =
      amount negative mantissa exponent * amount sign fraction power := by
  have signs : signFactor (negative ^^ sign) = signFactor negative * signFactor sign := by
    cases negative <;> cases sign <;> simp [signFactor]
  unfold amount
  rw [signs, Nat.cast_mul, zpow_add₀ two_ne_zero]
  ring

theorem decode_ofScaled {number : Float} {negative : Bool} {mantissa fraction : Nat}
    {exponent power : Int} (sign : Bool)
    (decoded : decode number = .finite negative mantissa exponent)
    (same : (fraction * 2 ^ power : ℚ) = mantissa * 2 ^ exponent) :
    decode (ofScaled sign fraction power) = .finite sign mantissa exponent := by
  have parts := parts_of_decode decoded
  have small := magnitude_lt decoded
  have bits : nearestBits (fraction * 2 ^ power.toNat) (2 ^ (-power).toNat) =
      (exponent - leastExponent).toNat * hiddenBit + mantissa := by
    rw [← parts.bits, ← nearestBits_of_decode decoded]
    refine nearestBits_congr (Nat.two_pow_pos _) (Nat.two_pow_pos _) ?_
    rw [binary_ratio_eq, binary_ratio_eq, same]
  rw [parts.bits] at small
  change decode (assemble sign (nearestBits (fraction * 2 ^ power.toNat) (2 ^ (-power).toNat))) = _
  rw [bits]
  exact decode_assemble_parts sign (leastExponent_le decoded) parts.normal.symm small parts.most

/-- Integers are multiplied without loss if a double denotes the product. -/
theorem toInt?_mul {first second whole : Int} (left? : toInt? left = some first)
    (right? : toInt? right = some second) (known : toInt? number = some whole)
    (same : whole.natAbs = (first * second).natAbs) :
    toInt? (left * right) = some (first * second) := by
  obtain ⟨negative, mantissa, exponent, decoded, denotes⟩ := toInt?_eq_some_iff.mp left?
  obtain ⟨sign, fraction, power, decoded', denotes'⟩ := toInt?_eq_some_iff.mp right?
  obtain ⟨other, found, unit, read, value⟩ := toInt?_eq_some_iff.mp known
  have product := amount_mul negative sign mantissa fraction exponent power
  rw [denotes, denotes'] at product
  have size : ((mantissa * fraction : Nat) * 2 ^ (exponent + power) : ℚ) = found * 2 ^ unit := by
    rw [← abs_amount (negative ^^ sign), product, ← abs_amount other, value, ← Int.cast_mul,
      ← Int.cast_abs, ← Int.cast_abs, Int.abs_eq_natAbs, Int.abs_eq_natAbs, same]
  rw [toInt?_eq_some_iff]
  refine ⟨_, _, _, (mul_eq_ofScaled decoded decoded').symm ▸ decode_ofScaled _ read size, ?_⟩
  rw [amount, ← size, ← amount, product, Int.cast_mul]

/-! ## Products of any size -/

/-- An integer that is exact, or as far beyond a bound as the exact one is. -/
def SameUpTo (bound exact found : Int) : Prop :=
  found = exact ∨ bound ≤ exact ∧ bound ≤ found ∨ exact ≤ -bound ∧ found ≤ -bound

/-- An integer of a sign that is at or beyond a bound. -/
def Exceeds (negative : Bool) (bound found : Int) : Prop :=
  if negative then found ≤ -bound else bound ≤ found

instance (negative : Bool) (bound found : Int) : Decidable (Exceeds negative bound found) :=
  inferInstanceAs (Decidable (if negative then found ≤ -bound else bound ≤ found))

section

variable {bound exact found : Int}

theorem SameUpTo.congr {α : Type} {make : Int → Option α} (same : SameUpTo bound exact found)
    (nothing : ∀ {whole}, bound ≤ whole ∨ whole ≤ -bound → make whole = none) :
    make found = make exact := by
  rcases same with rfl | ⟨far, further⟩ | ⟨far, further⟩
  · rfl
  · rw [nothing (.inl far), nothing (.inl further)]
  · rw [nothing (.inr far), nothing (.inr further)]

theorem Exceeds.sameUpTo {negative : Bool} (first : Exceeds negative bound exact)
    (second : Exceeds negative bound found) : SameUpTo bound exact found := by
  cases negative with
  | false => exact .inr (.inl ⟨first, second⟩)
  | true => exact .inr (.inr ⟨first, second⟩)

theorem sameUpTo_clamp (small : bound ≤ maxWord) :
    SameUpTo bound exact (max minWord (min maxWord exact)) := by
  unfold SameUpTo
  unfold minWord maxWord at *
  omega

theorem Exceeds.clamp {negative : Bool} (small : bound ≤ maxWord)
    (exceeds : Exceeds negative bound found) :
    Exceeds negative bound (max minWord (min maxWord found)) := by
  cases negative with
  | false => exact le_max_of_le_right (le_min small exceeds)
  | true =>
      have least : minWord ≤ -bound := by
        unfold minWord maxWord at *
        omega
      exact max_le least ((min_le_right _ _).trans exceeds)

end

theorem toWord_of_toInt? {whole : Int} (read : toInt? number = some whole) :
    toWord number = max minWord (min maxWord whole) := by
  unfold toInt? at read
  unfold toWord
  split at read
  · rename_i negative mantissa exponent decoded
    split at read
    · cases read
      rw [decoded]
    · cases read
  · cases read

/-- Each even integer of less than fifty-five bits is denoted by a double. -/
theorem exists_even (count : Nat) (small : count < 2 * hiddenBit) :
    ∃ number, toInt? number = some (2 * count : Nat) := by
  rcases eq_or_ne count 0 with rfl | nonzero
  · exact ⟨0, by decide +kernel⟩
  · have log : count.log2 ≤ 52 := Nat.lt_succ_iff.mp ((Nat.log2_lt nonzero).mpr small)
    have units : 2 ^ count.log2 * 2 ^ (52 - count.log2) = hiddenBit := by
      rw [← Nat.pow_add, Nat.add_sub_cancel' log]
      rfl
    have normal : hiddenBit ≤ count * 2 ^ (52 - count.log2) := by
      rw [← units]
      exact Nat.mul_le_mul_right _ (Nat.log2_self_le nonzero)
    have most : count * 2 ^ (52 - count.log2) < 2 * hiddenBit := by
      rw [← units, ← Nat.mul_assoc, ← Nat.pow_succ']
      exact Nat.mul_lt_mul_of_pos_right Nat.lt_log2_self (Nat.two_pow_pos _)
    have least : leastExponent ≤ 1 - (52 - count.log2 : Nat) := by
      unfold leastExponent
      omega
    have bits : (1 - (52 - count.log2 : Nat) - leastExponent : Int).toNat * hiddenBit +
        count * 2 ^ (52 - count.log2) < infiniteBits := by
      simp only [leastExponent, hiddenBit, infiniteBits] at *
      omega
    refine ⟨_, toInt?_eq_some_iff.mpr
      ⟨_, _, _, decode_assemble_parts false least (.inr normal) bits most, ?_⟩⟩
    rw [amount, signFactor, if_neg Bool.false_ne_true, one_mul, zpow_sub₀ two_ne_zero, zpow_one,
      zpow_natCast]
    push_cast
    field_simp

theorem amount_unsigned (negative : Bool) (mantissa : Nat) (exponent : Int) :
    amount (negative ^^ negative) mantissa exponent = mantissa * 2 ^ exponent := by
  rw [Bool.xor_self, amount, signFactor, if_neg Bool.false_ne_true, one_mul]

/-- The whole part of a double is as large as an integer that it is beyond. -/
theorem exceeds_wholePart (negative : Bool) {mantissa bound : Nat} {exponent : Int}
    (large : (bound : ℚ) ≤ mantissa * 2 ^ exponent) :
    Exceeds negative bound (wholePart negative mantissa exponent) := by
  have positive : (0 : ℚ) < (2 ^ (-exponent).toNat : Nat) := Nat.cast_pos.mpr (Nat.two_pow_pos _)
  have size : bound ≤ mantissa * 2 ^ exponent.toNat / 2 ^ (-exponent).toNat := by
    rw [← binary_ratio_eq, le_div_iff₀ positive] at large
    rw [Nat.le_div_iff_mul_le (Nat.two_pow_pos _)]
    exact_mod_cast large
  cases negative with
  | false => exact Int.ofNat_le.mpr size
  | true => exact Int.neg_le_neg (Int.ofNat_le.mpr size)

theorem exceeds_of_amount {negative : Bool} {mantissa : Nat} {exponent whole : Int} {bound : Nat}
    (denotes : amount negative mantissa exponent = whole) (large : bound ≤ whole.natAbs) :
    Exceeds negative bound whole := by
  have size : (0 : ℚ) ≤ mantissa * 2 ^ exponent := by positivity
  cases negative with
  | false =>
      rw [amount, signFactor, if_neg Bool.false_ne_true, one_mul] at denotes
      have above : 0 ≤ whole := by exact_mod_cast denotes ▸ size
      change (bound : Int) ≤ whole
      omega
  | true =>
      rw [amount, signFactor, if_pos rfl, neg_one_mul] at denotes
      have below : whole ≤ 0 := by exact_mod_cast denotes ▸ neg_nonpos.mpr size
      change whole ≤ -(bound : Int)
      omega

theorem decode_infinity (negative : Bool) : decode (infinity negative) = .infinite negative := by
  cases negative <;> decide +kernel

theorem toWord_infinity (negative : Bool) :
    toWord (infinity negative) = if negative then minWord else maxWord := by
  rw [toWord, decode_infinity]

theorem exists_infinity_mul {negative : Bool} {count : Int}
    (decoded : decode left = .infinite negative) (read : toInt? right = some count)
    (nonzero : count ≠ 0) : ∃ sign, left * right = infinity sign := by
  obtain ⟨sign, fraction, power, further, denotes⟩ := toInt?_eq_some_iff.mp read
  refine ⟨_, mul_of_infinite decoded further ?_⟩
  rintro rfl
  rw [amount, Nat.cast_zero, zero_mul, mul_zero] at denotes
  exact nonzero (by exact_mod_cast denotes.symm)

section

variable {negative : Bool} {top bottom : Nat}

theorem sign_of_decode_ofRatio {sign : Bool} {mantissa : Nat} {exponent : Int}
    (small : nearestBits top bottom < infiniteBits)
    (decoded : decode (ofRatio negative top bottom) = .finite sign mantissa exponent) :
    sign = negative := by
  rw [ofRatio, decode_assemble negative small, ofBits_signed negative small] at decoded
  split at decoded <;> cases decoded <;> rfl

theorem ofRatio_of_huge (huge : infiniteBits ≤ nearestBits top bottom) :
    ofRatio negative top bottom = infinity negative := by
  have bits : nearestBits top bottom = infiniteBits := by
    refine le_antisymm ?_ huge
    unfold nearestBits
    split
    · exact Nat.zero_le _
    · exact min_le_right _ _
  rw [ofRatio, bits, infinity]

/-- No double is nearer to a ratio of `2 ^ 54` or more than this power itself. -/
theorem le_of_nearest {mantissa : Nat} {exponent : Int} (positive : 0 < bottom)
    (small : nearestBits top bottom < infiniteBits)
    (large : ((4 * hiddenBit : Nat) : ℚ) ≤ top / bottom)
    (decoded : decode (ofRatio negative top bottom) = .finite negative mantissa exponent) :
    ((4 * hiddenBit : Nat) : ℚ) ≤ mantissa * 2 ^ exponent := by
  obtain ⟨sign, found, unit, read, closest⟩ := isNearest_ofRatio negative positive small
  rw [decoded] at read
  cases read
  have least : decode 18014398509481984 = .finite false hiddenBit 2 := by decide +kernel
  have near := (closest _ _ _ _ (decode_ofScaled negative least rfl)).1
  have bound : (hiddenBit * 2 ^ (2 : Int) : ℚ) = (4 * hiddenBit : Nat) := by norm_num [hiddenBit]
  rw [← abs_signFactor_mul_sub, ← abs_signFactor_mul_sub, signFactor_amount, signFactor_amount,
    amount_unsigned, amount_unsigned, bound, abs_of_nonpos (sub_nonpos.mpr large)] at near
  have above := neg_le_of_abs_le near
  linarith

/-- The double nearest to a ratio of `2 ^ 54` or more is as large, or infinite. -/
theorem exceeds_ofRatio (positive : 0 < bottom)
    (large : ((4 * hiddenBit : Nat) : ℚ) ≤ top / bottom) :
    Exceeds negative (4 * hiddenBit : Nat) (toWord (ofRatio negative top bottom)) := by
  rcases lt_or_ge (nearestBits top bottom) infiniteBits with small | huge
  · obtain ⟨sign, mantissa, exponent, decoded, -⟩ := isNearest_ofRatio negative positive small
    obtain rfl := sign_of_decode_ofRatio small decoded
    have size := le_of_nearest positive small large decoded
    rw [toWord, decoded]
    exact (exceeds_wholePart sign size).clamp (by decide)
  · rw [ofRatio_of_huge huge, toWord_infinity]
    cases negative <;> decide

end

section

variable {first second : Int} (left? : toInt? left = some first)
  (right? : toInt? right = some second)

include left? right?

/-- A small product of integers is read as it is, if it is even or one of them is one. -/
theorem sameUpTo_mul_of_small (even : second = 1 ∨ 2 ∣ second)
    (small : (first * second).natAbs < 4 * hiddenBit) :
    SameUpTo (4 * hiddenBit) (first * second) (toWord (left * right)) := by
  have denoted : ∃ number whole, toInt? number = some whole ∧
      whole.natAbs = (first * second).natAbs := by
    rcases even with rfl | ⟨half, rfl⟩
    · exact ⟨left, first, left?, by rw [Int.mul_one]⟩
    · have double : 2 * (first * half).natAbs = (first * (2 * half)).natAbs := by
        rw [Int.mul_left_comm, Int.natAbs_mul 2]
        rfl
      obtain ⟨number, read⟩ := exists_even (first * half).natAbs (by omega)
      exact ⟨number, _, read, double⟩
  obtain ⟨number, whole, read, same⟩ := denoted
  rw [toWord_of_toInt? (toInt?_mul left? right? read same)]
  exact sameUpTo_clamp (by decide)

theorem sameUpTo_mul_of_large (large : 4 * hiddenBit ≤ (first * second).natAbs) :
    SameUpTo (4 * hiddenBit) (first * second) (toWord (left * right)) := by
  obtain ⟨negative, mantissa, exponent, decoded, denotes⟩ := toInt?_eq_some_iff.mp left?
  obtain ⟨sign, fraction, power, decoded', denotes'⟩ := toInt?_eq_some_iff.mp right?
  have product := amount_mul negative sign mantissa fraction exponent power
  rw [denotes, denotes', ← Int.cast_mul] at product
  have size : ((first * second).natAbs : ℚ) =
      (mantissa * fraction : Nat) * 2 ^ (exponent + power) := by
    rw [← abs_amount (negative ^^ sign), product, Nat.cast_natAbs, Int.cast_abs]
  have ratio : ((4 * hiddenBit : Nat) : ℚ) ≤
      (mantissa * fraction * 2 ^ (exponent + power).toNat : Nat) /
        (2 ^ (-(exponent + power)).toNat : Nat) := by
    rw [binary_ratio_eq, ← size]
    exact_mod_cast large
  rw [mul_eq_ofScaled decoded decoded']
  exact (exceeds_of_amount product large).sameUpTo (exceeds_ofRatio (Nat.two_pow_pos _) ratio)

/-- A product of integers is read as it is or beyond `2 ^ 54`, if it is even or one of them is
one. -/
theorem sameUpTo_mul (even : second = 1 ∨ 2 ∣ second) :
    SameUpTo (4 * hiddenBit) (first * second) (toWord (left * right)) := by
  rcases Nat.lt_or_ge (first * second).natAbs (4 * hiddenBit) with small | large
  · exact sameUpTo_mul_of_small left? right? even small
  · exact sameUpTo_mul_of_large left? right? large

end

end Reckon.Binary64
