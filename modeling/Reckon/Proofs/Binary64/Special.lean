import Mathlib
import Reckon.Proofs.Binary64.Order

/-!
Doubles that are not finite, by what their bits denote, and opposite doubles.
-/

namespace Reckon.Binary64

open Float.Model

variable {number : Float}

theorem eq_nan_of_decode (decoded : decode number = .nan) : number = Float.nan := by
  have bits : number.toBits.toNat / hiddenBit % 2048 = 2047 ∧
      number.toBits.toNat % hiddenBit ≠ 0 := by
    unfold decode ofBits at decoded
    dsimp only at decoded
    split at decoded
    · rename_i ones
      split at decoded
      · cases decoded
      · rename_i fraction
        exact ⟨ones, fraction⟩
    · split at decoded <;> cases decoded
  have exponent : @UnpackedFloat.unpackExponent .binary64 number.toBits.toBitVec = -1 := by
    apply BitVec.eq_of_toNat_eq
    rw [UnpackedFloat.unpackExponent_def, BitVec.extractLsb'_toNat, Nat.shiftRight_eq_div_pow]
    exact bits.1
  have mantissa : @UnpackedFloat.unpackMantissa .binary64 number.toBits.toBitVec ≠ 0 := by
    intro nothing
    have zero := congrArg BitVec.toNat nothing
    rw [UnpackedFloat.unpackMantissa_def, BitVec.extractLsb'_toNat] at zero
    exact bits.2 zero
  have whole := number.toModel.valid.eq_packedNaN exponent mantissa
  exact Float.toBits_inj.mp (UInt64.toBitVec_inj.mp whole)

theorem isNaN_iff_decode : number.isNaN = true ↔ decode number = .nan := by
  rw [Float.isNaN_eq_decide_eq_nan, decide_eq_true_iff]
  refine ⟨?_, eq_nan_of_decode⟩
  rintro rfl
  rfl

theorem eq_infinity_of_decode {negative : Bool} (decoded : decode number = .infinite negative) :
    number = infinity negative := by
  have bits : isSigned number = negative ∧ magnitude number = infiniteBits := by
    unfold decode ofBits at decoded
    dsimp only at decoded
    split at decoded
    · rename_i ones
      split at decoded
      · rename_i fraction
        cases decoded
        refine ⟨rfl, ?_⟩
        simp only [magnitude, infiniteBits, hiddenBit, signBit] at *
        omega
      · cases decoded
    · split at decoded <;> cases decoded
  rw [infinity, ← bits.1, ← bits.2, assemble_magnitude]

/-! ## Opposites -/

theorem unpack_pack_unpack {format : Format} (wide : 2 ≤ format.exponentBits)
    (bits : BitVec format.numBits) :
    UnpackedFloat.unpack format (UnpackedFloat.pack format (UnpackedFloat.unpack format bits)) =
      UnpackedFloat.unpack format bits := by
  rw [UnpackedFloat.pack_unpack bits wide]
  split
  · rename_i missing
    have parts : UnpackedFloat.unpackExponent bits = -1#_ ∧
        UnpackedFloat.unpackMantissa bits ≠ 0#_ := by
      simpa [UnpackedFloat.isNaNBits] using missing
    rw [UnpackedFloat.unpack_packedNaN, UnpackedFloat.unpack, if_pos parts.1, if_neg parts.2]
  · rfl

theorem exists_neg_unpack {format : Format} (bits : BitVec format.numBits) :
    ∃ opposite, (UnpackedFloat.unpack format bits).neg = UnpackedFloat.unpack format opposite := by
  refine ⟨UnpackedFloat.packComponents format
    (-UnpackedFloat.Sign.ofBitVec (UnpackedFloat.unpackSign bits))
    (UnpackedFloat.unpackExponent bits) (UnpackedFloat.unpackMantissa bits), ?_⟩
  simp only [UnpackedFloat.unpack, UnpackedFloat.unpackExponent_packComponents,
    UnpackedFloat.unpackMantissa_packComponents, UnpackedFloat.unpackSign_packComponents,
    UnpackedFloat.Sign.ofBitVec_toBitVec]
  split
  · split <;> rfl
  · split
    · split <;> rfl
    · rfl

theorem neg_neg_unpacked (number : UnpackedFloat) : number.neg.neg = number := by
  have twice : ∀ sign : UnpackedFloat.Sign, - -sign = sign := by rintro ⟨⟩ <;> rfl
  cases number <;> simp [UnpackedFloat.neg, twice]

theorem neg_neg (number : Float) : - -number = number := by
  obtain ⟨opposite, same⟩ := @exists_neg_unpack .binary64 number.toBits.toBitVec
  have once : (-number).toBits.toBitVec =
      UnpackedFloat.pack .binary64 (UnpackedFloat.unpack .binary64 opposite) :=
    congrArg (UnpackedFloat.pack .binary64) same
  apply Float.toBits_inj.mp
  apply UInt64.toBitVec_inj.mp
  change UnpackedFloat.pack .binary64
    (UnpackedFloat.unpack .binary64 (-number).toBits.toBitVec).neg = number.toBits.toBitVec
  rw [once, unpack_pack_unpack (by decide), ← same, neg_neg_unpacked]
  exact UnpackedFloat.pack_unpack_of_valid number.toModel.valid

end Reckon.Binary64
