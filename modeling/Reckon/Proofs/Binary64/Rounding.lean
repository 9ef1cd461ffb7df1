import Reckon.Proofs.Binary64.Ratio
import Reckon.Proofs.Binary64.Order

/-!
Rounding a mantissa that is longer than fifty-three bits.  The last bits are shifted out one by one,
and two bits beside the mantissa keep what rounding needs to know of them; so the double that is
packed from the result is the one nearest to the whole mantissa.
-/

namespace Reckon.Binary64

open Float.Model UnpackedFloat

/-! ## Bits shifted out -/

/-- A mantissa without its last `shift` bits.  The bits beside it tell whether those lost make up
half a unit, and whether they differ from nothing and from that half. -/
structure Shifted (whole shift : Nat) (kept : ExtendedMantissa) : Prop where
  mantissa : kept.mantissa = whole / 2 ^ shift
  half : kept.roundBit = true ↔ 2 ^ shift ≤ 2 * (whole % 2 ^ shift)
  rest : kept.stickyBit = true ↔ whole % 2 ^ shift ≠ 0 ∧ 2 * (whole % 2 ^ shift) ≠ 2 ^ shift

section

variable {whole shift : Nat} {kept : ExtendedMantissa}

theorem shifted_zero (whole : Nat) : Shifted whole 0 ⟨whole, false, false⟩ where
  mantissa := by simp
  half := by simp [Nat.mod_one]
  rest := by simp [Nat.mod_one]

theorem Shifted.succ (shifted : Shifted whole shift kept) :
    Shifted whole (shift + 1) kept.shiftRightOne := by
  obtain ⟨mantissa, half, rest⟩ := shifted
  have lost : whole % 2 ^ (shift + 1) = whole % 2 ^ shift + 2 ^ shift * (whole / 2 ^ shift % 2) :=
    Nat.mod_pow_succ
  have small : whole % 2 ^ shift < 2 ^ shift := Nat.mod_lt _ (Nat.two_pow_pos shift)
  have bit : whole / 2 ^ shift % 2 = 0 ∨ whole / 2 ^ shift % 2 = 1 := Nat.mod_two_eq_zero_or_one _
  refine ⟨?_, ?_, ?_⟩
  · change kept.mantissa / 2 = _
    rw [mantissa, Nat.div_div_eq_div_mul, Nat.pow_succ]
  · change (kept.mantissa % 2 != 0) = true ↔ _
    rw [mantissa, lost, Nat.pow_succ, bne_iff_ne]
    rcases bit with bit | bit <;> rw [bit] <;> omega
  · change (kept.roundBit || kept.stickyBit) = true ↔ _
    rw [Bool.or_eq_true, half, rest, lost, Nat.pow_succ]
    rcases bit with bit | bit <;> rw [bit] <;> omega

theorem shifted_shiftRight (whole shift : Nat) :
    Shifted whole shift ((⟨whole, false, false⟩ : ExtendedMantissa) >>> shift) := by
  change Shifted whole shift (Nat.repeat ExtendedMantissa.shiftRightOne shift _)
  induction shift with
  | zero => exact shifted_zero whole
  | succ shift ih => exact ih.succ

/-- The two bits are enough to round to the nearest natural, a tie to the even one. -/
theorem Shifted.roundedMantissa (shifted : Shifted whole shift kept) :
    kept.roundedMantissa = roundHalfEven whole (2 ^ shift) := by
  obtain ⟨mantissa, half, rest⟩ := shifted
  have positive : 0 < 2 ^ shift := Nat.two_pow_pos shift
  obtain ⟨found, round, sticky⟩ := kept
  dsimp only at mantissa half rest
  subst mantissa
  unfold roundHalfEven ExtendedMantissa.roundedMantissa
  dsimp only
  cases round <;> cases sticky <;>
    simp only [ExtendedMantissa.accuracy, Accuracy.roundToNearestEven, Bool.false_eq_true,
      true_iff, false_iff, Bool.or_eq_true, Bool.and_eq_true, decide_eq_true_eq,
      beq_iff_eq] at * <;>
    split <;> omega

end

/-! ## The bits of an unpacked double -/

def isNegative : Sign → Bool
  | .negative => true
  | .positive => false

theorem isNegative_mul (sign other : Sign) :
    isNegative (sign * other) = (isNegative sign ^^ isNegative other) := by
  cases sign <;> cases other <;> rfl

theorem toNat_packComponents (sign : Sign) (exponent : BitVec 11) (mantissa : BitVec 52) :
    (packComponents .binary64 sign exponent mantissa).toNat =
      (if isNegative sign then signBit else 0) + (exponent.toNat * hiddenBit + mantissa.toNat) := by
  have first := Nat.shiftLeft_add_eq_or_of_lt exponent.isLt sign.toBitVec.toNat
  have second := Nat.shiftLeft_add_eq_or_of_lt mantissa.isLt (sign.toBitVec ++ exponent).toNat
  unfold packComponents
  rw [BitVec.toNat_append, ← second, BitVec.toNat_append, ← first, Nat.shiftLeft_eq,
    Nat.shiftLeft_eq]
  have bit : sign.toBitVec.toNat = if isNegative sign then 1 else 0 := by cases sign <;> rfl
  rw [bit]
  simp only [signBit, hiddenBit]
  split <;> omega

theorem eq_assemble_of_packed {number : Float} {sign : Sign} {exponent : BitVec 11}
    {mantissa : BitVec 52}
    (packed : number.toBits.toBitVec = packComponents .binary64 sign exponent mantissa) :
    number = assemble (isNegative sign) (exponent.toNat * hiddenBit + mantissa.toNat) := by
  have bits : number.toBits.toNat = (if isNegative sign then signBit else 0) +
      (exponent.toNat * hiddenBit + mantissa.toNat) := by
    rw [← toNat_packComponents, ← packed]
    rfl
  have field := exponent.isLt
  have fraction := mantissa.isLt
  have signed : isSigned number = isNegative sign := by
    unfold isSigned
    rw [bits]
    cases isNegative sign
    · simp only [hiddenBit, signBit] at *
      simpa using by omega
    · simp
  have size : magnitude number = exponent.toNat * hiddenBit + mantissa.toNat := by
    unfold magnitude
    rw [bits]
    simp only [hiddenBit, signBit] at *
    split <;> omega
  rw [← signed, ← size, assemble_magnitude]

theorem ofModel_pack_zero (sign : Sign) :
    Float.ofModel (Float.Model.pack (.zero sign)) = assemble (isNegative sign) 0 :=
  @eq_assemble_of_packed (.ofModel (Float.Model.pack (.zero sign))) sign 0#11 0#52 rfl

theorem ofModel_pack_infinity (sign : Sign) :
    Float.ofModel (Float.Model.pack (.infinity sign)) = infinity (isNegative sign) :=
  @eq_assemble_of_packed (.ofModel (Float.Model.pack (.infinity sign))) sign (-1#11) 0#52 rfl

section

variable {mantissa : Nat} {exponent : Int}

theorem biased_eq (least : leastExponent ≤ exponent) :
    (exponent + Format.binary64.exponentBias +
      Format.binary64.mantissaBitsWithoutImplicit).toNat =
      (exponent - leastExponent).toNat + 1 := by
  have bias : Format.binary64.exponentBias = 1023 := rfl
  have width : Format.binary64.mantissaBitsWithoutImplicit = 52 := rfl
  rw [bias, width]
  unfold leastExponent at *
  omega

theorem log2_eq_iff (positive : 0 < mantissa) (most : mantissa < 2 * hiddenBit) :
    mantissa.log2 = 52 ↔ hiddenBit ≤ mantissa :=
  (Nat.log2_eq_iff positive.ne').trans (and_iff_left most)

theorem toNat_fraction (large : hiddenBit ≤ mantissa) (most : mantissa < 2 * hiddenBit) :
    (BitVec.ofNat 52 mantissa).toNat = mantissa - hiddenBit := by
  have unit : 2 ^ 52 = hiddenBit := rfl
  rw [BitVec.toNat_ofNat, unit, Nat.mod_eq_sub_mod large, Nat.mod_eq_of_lt (by omega)]

/-- A mantissa of fifty-three bits, or of fewer at the least exponent, is packed as it is; beyond
the largest exponent there is infinity. -/
theorem ofModel_pack_finite {sign : Sign} {positive : 0 < mantissa}
    (least : leastExponent ≤ exponent) (most : mantissa < 2 * hiddenBit)
    (normal : exponent = leastExponent ∨ hiddenBit ≤ mantissa) :
    Float.ofModel (Float.Model.pack (.finite sign mantissa exponent positive)) =
      assemble (isNegative sign)
        (min ((exponent - leastExponent).toNat * hiddenBit + mantissa) infiniteBits) := by
  generalize packs : Float.ofModel (Float.Model.pack (.finite sign mantissa exponent positive)) =
    number
  have packed : number.toBits.toBitVec =
      UnpackedFloat.pack .binary64 (.finite sign mantissa exponent positive) := by
    rw [← packs]
    rfl
  have width : Format.binary64.mantissaBits = 53 := rfl
  have full := log2_eq_iff positive most
  unfold UnpackedFloat.pack at packed
  dsimp only at packed
  rw [biased_eq least, width] at packed
  split at packed
  · rename_i beyond
    rw [eq_assemble_of_packed packed, Nat.min_eq_right]
    · rfl
    · simp only [infiniteBits, hiddenBit] at *
      omega
  · rename_i within
    have bounded : (exponent - leastExponent).toNat * hiddenBit + mantissa < infiniteBits := by
      simp only [infiniteBits, hiddenBit] at *
      omega
    rw [Nat.min_eq_left bounded.le]
    split at packed
    · rename_i long
      have large : hiddenBit ≤ mantissa := full.mp (by omega)
      have field : (BitVec.ofNat 11 ((exponent - leastExponent).toNat + 1)).toNat =
          (exponent - leastExponent).toNat + 1 := by
        rw [BitVec.toNat_ofNat, Nat.mod_eq_of_lt (by omega)]
      rw [eq_assemble_of_packed packed, field, toNat_fraction large most, Nat.succ_mul,
        Nat.add_assoc, Nat.add_sub_cancel' large]
    · rename_i short
      have small : ¬hiddenBit ≤ mantissa := fun large => absurd (full.mpr large) (by omega)
      have fraction : (BitVec.ofNat 52 mantissa).toNat = mantissa :=
        Nat.mod_eq_of_lt (Nat.lt_of_not_le small)
      rw [eq_assemble_of_packed packed, fraction, normal.resolve_right small, Int.sub_self]
      rfl

end

/-! ## Rounding -/

theorem targetExponent_eq (mantissa : Nat) (exponent : Int) :
    Format.binary64.targetExponent (totalExponent mantissa exponent) =
      max (exponent + mantissa.log2 - 52) leastExponent := by
  have width : Format.binary64.mantissaBits = 53 := rfl
  have least : Format.binary64.minExponent = leastExponent := by decide
  unfold Format.targetExponent totalExponent
  rw [width, least]
  congr 1
  omega

theorem shiftToTargetExponent_eq (mantissa : Nat) (exponent : Int) (shift : Nat)
    (amount : (max (exponent + mantissa.log2 - 52) leastExponent - exponent).toNat = shift) :
    shiftToTargetExponent .binary64 mantissa exponent .exact =
      ((⟨mantissa, false, false⟩ : ExtendedMantissa) >>> shift, exponent + shift) := by
  unfold shiftToTargetExponent shiftToExponent
  dsimp only
  rw [targetExponent_eq, amount]
  rfl

section

variable {mantissa : Nat} {exponent : Int} {shift : Nat}

theorem unitOf_target (nonzero : mantissa ≠ 0)
    (target : exponent + shift = max (exponent + mantissa.log2 - 52) leastExponent) :
    UnitOf (mantissa * 2 ^ exponent) (exponent + shift) := by
  have low : (2 ^ (mantissa.log2 : Int) : ℚ) ≤ mantissa := by
    exact_mod_cast Nat.log2_self_le nonzero
  have high : (mantissa : ℚ) < 2 ^ ((mantissa.log2 : Int) + 1) := by
    exact_mod_cast Nat.lt_log2_self (n := mantissa)
  refine ⟨by omega, ?_, ?_⟩
  · calc (mantissa * 2 ^ exponent : ℚ)
        < 2 ^ ((mantissa.log2 : Int) + 1) * 2 ^ exponent := by
          exact mul_lt_mul_of_pos_right high (by positivity)
      _ = 2 ^ ((mantissa.log2 : Int) + 1 + exponent) := (zpow_add₀ two_ne_zero _ _).symm
      _ ≤ 2 ^ (53 + (exponent + shift)) := zpow_le_zpow_right₀ one_le_two (by omega)
      _ = (2 * hiddenBit : Nat) * 2 ^ (exponent + shift) := by
          rw [zpow_add₀ two_ne_zero 53, double_hiddenBit_eq]
  · rcases le_total (exponent + mantissa.log2 - 52) leastExponent with least | more
    · exact .inl (target.trans (max_eq_right least))
    · right
      have place : 52 + (exponent + shift) = mantissa.log2 + exponent := by omega
      calc (hiddenBit * 2 ^ (exponent + shift) : ℚ)
          = 2 ^ (52 + (exponent + shift)) := by rw [zpow_add₀ two_ne_zero 52, hiddenBit_eq]
        _ = 2 ^ (mantissa.log2 : Int) * 2 ^ exponent := by rw [place, zpow_add₀ two_ne_zero]
        _ ≤ mantissa * 2 ^ exponent := by gcongr

theorem rounded_target (nonzero : mantissa ≠ 0)
    (target : exponent + shift = max (exponent + mantissa.log2 - 52) leastExponent) :
    Rounded (mantissa * 2 ^ exponent) (roundHalfEven mantissa (2 ^ shift)) (exponent + shift) := by
  have positive : 0 < 2 ^ shift := Nat.two_pow_pos shift
  have quotient : (mantissa * 2 ^ exponent / 2 ^ (exponent + shift) : ℚ) =
      mantissa / (2 ^ shift : Nat) := by
    rw [zpow_add₀ two_ne_zero, zpow_natCast, Nat.cast_pow, Nat.cast_ofNat]
    field_simp
  refine ⟨unitOf_target nonzero target, ?_, ?_⟩ <;> rw [quotient]
  · exact abs_roundHalfEven_sub_le positive
  · exact even_roundHalfEven positive

end

theorem shiftToTargetExponent_short {mantissa : Nat} {exponent : Int}
    (least : leastExponent ≤ exponent) (most : mantissa < 2 * hiddenBit) :
    shiftToTargetExponent .binary64 mantissa exponent .exact =
      (⟨mantissa, false, false⟩, exponent) := by
  have log : mantissa.log2 ≤ 52 := by
    rcases eq_or_ne mantissa 0 with rfl | nonzero
    · decide
    · exact Nat.lt_succ_iff.mp ((Nat.log2_lt nonzero).mpr most)
  have same := shiftToTargetExponent_eq mantissa exponent 0 (by omega)
  rwa [Int.natCast_zero, Int.add_zero] at same

/-- A mantissa that has been rounded up to a power of two is one bit too long. -/
theorem shiftToTargetExponent_carry {exponent : Int} (least : leastExponent ≤ exponent) :
    shiftToTargetExponent .binary64 (2 * hiddenBit) exponent .exact =
      (⟨hiddenBit, false, false⟩, exponent + 1) := by
  have log : (2 * hiddenBit).log2 = 53 := by decide
  exact shiftToTargetExponent_eq (2 * hiddenBit) exponent 1 (by omega)

/-- The double packed from a rounded mantissa is nearest to the whole one. -/
theorem ofModel_pack_round (sign : Sign) {mantissa : Nat} {exponent : Int} (nonzero : mantissa ≠ 0)
    (fine : exponent ≤ max (exponent + mantissa.log2 - 52) leastExponent) :
    Float.ofModel (Float.Model.pack (roundWithAccuracy .binary64 sign mantissa exponent .exact)) =
      ofScaled (isNegative sign) mantissa exponent := by
  obtain ⟨shift, target⟩ := Int.le.dest fine
  have rounded := rounded_target nonzero target
  have first := shiftToTargetExponent_eq mantissa exponent shift (by omega)
  have kept := (shifted_shiftRight mantissa shift).roundedMantissa
  have bits := nearestBits_of_rounded (Nat.two_pow_pos (-exponent).toNat)
    (Nat.mul_ne_zero nonzero (Nat.two_pow_pos exponent.toNat).ne')
    (binary_ratio_eq mantissa exponent ▸ rounded)
  have most := rounded.most
  have normal := rounded.normal
  have least := rounded.unit.least
  have scaled : ofScaled (isNegative sign) mantissa exponent = assemble (isNegative sign)
      (nearestBits (mantissa * 2 ^ exponent.toNat) (2 ^ (-exponent).toNat)) := rfl
  rw [scaled, bits, roundWithAccuracy, first]
  dsimp only
  rw [kept]
  generalize roundHalfEven mantissa (2 ^ shift) = found at most normal
  generalize exponent + shift = unit at normal least
  rcases most.lt_or_eq with short | rfl
  · rw [shiftToTargetExponent_short least short]
    dsimp only
    split
    · rename_i nothing
      subst nothing
      have lowest := normal.resolve_right (by decide)
      rw [ofModel_pack_zero, lowest, Int.sub_self]
      rfl
    · exact ofModel_pack_finite least short normal
  · have carry : (unit - leastExponent).toNat * hiddenBit + 2 * hiddenBit =
        (unit + 1 - leastExponent).toNat * hiddenBit + hiddenBit := by
      simp only [leastExponent, hiddenBit] at *
      omega
    have short : hiddenBit < 2 * hiddenBit := by decide
    rw [shiftToTargetExponent_carry least, carry]
    exact ofModel_pack_finite (by omega) short (.inr le_rfl)

end Reckon.Binary64
