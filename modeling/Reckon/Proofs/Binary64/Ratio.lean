import Mathlib
import Reckon.Proofs.Binary64.Nearest

/-!
The bits of the double nearest to a ratio.  They depend on the quotient alone, a double is nearest
to itself, and ratios far from the range of doubles get the bits of zero and of infinity.
-/

namespace Reckon.Binary64

/-! ## One unit and one multiple of it -/

section

variable {exact : ℚ} {exponent power : Int} {mantissa other : Nat}

theorem UnitOf.le (unit : UnitOf exact exponent) (further : UnitOf exact power) :
    exponent ≤ power := by
  by_contra above
  have finer : power + 1 ≤ exponent := by omega
  have least := further.least
  have normal : hiddenBit * 2 ^ exponent ≤ exact := unit.normal.resolve_left (by omega)
  have units : ((2 * hiddenBit : Nat) * 2 ^ power : ℚ) ≤ hiddenBit * 2 ^ exponent := by
    calc ((2 * hiddenBit : Nat) * 2 ^ power : ℚ)
        = hiddenBit * 2 ^ (power + 1) := by
          rw [zpow_add_one₀ two_ne_zero, Nat.cast_mul, Nat.cast_ofNat]
          ring
      _ ≤ hiddenBit * 2 ^ exponent := by
          gcongr
          norm_num
  exact absurd further.most (units.trans normal).not_gt

theorem UnitOf.unique (unit : UnitOf exact exponent) (further : UnitOf exact power) :
    exponent = power :=
  le_antisymm (unit.le further) (further.le unit)

/-- Two naturals a half away from a number are neighbours, and only one of them is even. -/
theorem eq_of_halves {exact : ℚ} (half : |(mantissa - exact : ℚ)| = 1 / 2)
    (further : |(other - exact : ℚ)| = 1 / 2) (even : Even mantissa) (evenOther : Even other) :
    mantissa = other := by
  have triangle := abs_sub_le (mantissa : ℚ) exact other
  rw [abs_sub_comm exact, half, further] at triangle
  have near : |(mantissa - other : Int)| ≤ 1 := by
    have sum : |(mantissa - other : ℚ)| ≤ 1 := by linarith
    exact_mod_cast sum
  rw [abs_le] at near
  rw [Nat.even_iff] at even evenOther
  omega

theorem Rounded.unique (rounded : Rounded exact mantissa exponent)
    (again : Rounded exact other power) : exponent = power ∧ mantissa = other := by
  obtain rfl := rounded.unit.unique again.unit
  refine ⟨rfl, ?_⟩
  have mine := @nearest_of_half mantissa (exact / 2 ^ exponent) rounded.half
  have others := @nearest_of_half other (exact / 2 ^ exponent) again.half
  simp only [Int.cast_natCast] at mine others
  have tie := le_antisymm (mine other).1 (others mantissa).1
  rcases (mine other).2 tie with same | half
  · exact (Int.natCast_inj.mp same).symm
  · exact eq_of_halves half (tie ▸ half) (rounded.even half) (again.even (tie ▸ half))

end

section

variable {top bottom : Nat} (positive : 0 < bottom)

include positive

theorem nearestBits_of_rounded {mantissa : Nat} {exponent : Int} (nonzero : top ≠ 0)
    (rounded : Rounded (top / bottom) mantissa exponent) :
    nearestBits top bottom =
      min ((exponent - leastExponent).toNat * hiddenBit + mantissa) infiniteBits := by
  obtain ⟨rfl, rfl⟩ := rounded.unique (rounded_ratio positive nonzero)
  rw [nearestBits, if_neg nonzero]

theorem nearestBits_congr {above below : Nat} (further : 0 < below)
    (same : (top / bottom : ℚ) = above / below) :
    nearestBits top bottom = nearestBits above below := by
  have nonzero : (bottom : ℚ) ≠ 0 := Nat.cast_ne_zero.mpr positive.ne'
  have nonzeroBelow : (below : ℚ) ≠ 0 := Nat.cast_ne_zero.mpr further.ne'
  by_cases nothing : top = 0
  · have vanishes : above = 0 := by
      rw [nothing, Nat.cast_zero, zero_div, eq_comm, div_eq_zero_iff] at same
      exact_mod_cast same.resolve_right nonzeroBelow
    rw [nothing, vanishes, nearestBits, if_pos rfl, nearestBits, if_pos rfl]
  · have nonzeroAbove : above ≠ 0 := by
      rintro rfl
      rw [Nat.cast_zero, zero_div, div_eq_zero_iff] at same
      exact nothing (by exact_mod_cast same.resolve_right nonzero)
    have rounded := rounded_ratio further nonzeroAbove
    rw [nearestBits_of_rounded further nonzeroAbove rounded]
    exact nearestBits_of_rounded positive nothing (same ▸ rounded)

theorem nearestBits_of_tiny (tiny : (top / bottom : ℚ) < 1 / 2 * 2 ^ leastExponent) :
    nearestBits top bottom = 0 := by
  by_cases nothing : top = 0
  · rw [nearestBits, if_pos nothing]
  · have quotient : (top / bottom / 2 ^ leastExponent : ℚ) < 1 / 2 := by
      rwa [div_lt_iff₀ (by positivity)]
    have lower : (0 : ℚ) ≤ top / bottom / 2 ^ leastExponent := by positivity
    have rounded : Rounded (top / bottom) 0 leastExponent := by
      refine ⟨⟨le_rfl, tiny.trans_le ?_, .inl rfl⟩, ?_, fun _ => Even.zero⟩
      · gcongr
        norm_num [hiddenBit]
      · rw [Nat.cast_zero, zero_sub, abs_neg, abs_of_nonneg lower]
        exact quotient.le
    rw [nearestBits_of_rounded positive nothing rounded, Int.sub_self]
    rfl

/-- A ratio of `2 ^ 1024` or more has the bits of infinity. -/
theorem nearestBits_of_huge (huge : (2 ^ (1024 : Int) : ℚ) ≤ top / bottom) :
    nearestBits top bottom = infiniteBits := by
  have nothing : top ≠ 0 := by
    rintro rfl
    rw [Nat.cast_zero, zero_div] at huge
    exact absurd huge (by norm_num)
  have rounded := rounded_ratio positive nothing
  have most := huge.trans_lt rounded.unit.most
  rw [double_hiddenBit_eq, ← zpow_add₀ two_ne_zero, zpow_lt_zpow_iff_right₀ one_lt_two] at most
  have normal := rounded.normal.resolve_left (by unfold leastExponent; omega)
  rw [nearestBits_of_rounded positive nothing rounded]
  apply Nat.min_eq_right
  have units : 2046 ≤ (unitExponent top bottom - leastExponent).toNat := by
    unfold leastExponent
    omega
  have product := Nat.mul_le_mul_right hiddenBit units
  unfold infiniteBits
  omega

end

/-! ## A double is nearest to itself -/

/-- A power as a ratio of naturals, one of which is one. -/
theorem ratio_eq (base count : Nat) (exponent : Int) :
    ((count * base ^ exponent.toNat : Nat) / (base ^ (-exponent).toNat : Nat) : ℚ) =
      count * base ^ exponent := by
  obtain ⟨shift, rfl | rfl⟩ := exponent.eq_nat_or_neg
  · simp
  · simp [div_eq_mul_inv]

theorem binary_ratio_eq (count : Nat) (exponent : Int) :
    ((count * 2 ^ exponent.toNat : Nat) / (2 ^ (-exponent).toNat : Nat) : ℚ) =
      count * 2 ^ exponent := by
  have ratio := ratio_eq 2 count exponent
  rwa [Nat.cast_ofNat] at ratio

section

variable {number : Float} {negative : Bool} {mantissa : Nat} {exponent : Int}
  (decoded : decode number = .finite negative mantissa exponent)

include decoded

theorem magnitude_lt : magnitude number < infiniteBits := by
  have field : number.toBits.toNat / hiddenBit % 2048 ≠ 2047 := by
    intro ones
    unfold decode ofBits at decoded
    rw [if_pos ones] at decoded
    split at decoded <;> cases decoded
  simp only [magnitude, infiniteBits, hiddenBit, signBit] at *
  omega

theorem rounded_of_decode : Rounded (mantissa * 2 ^ exponent) mantissa exponent := by
  have parts := parts_of_decode decoded
  have size : (0 : ℚ) < 2 ^ exponent := by positivity
  refine ⟨⟨leastExponent_le decoded, ?_, parts.normal.symm.imp_right ?_⟩, ?_, ?_⟩
  · have most := parts.most
    gcongr
  · intro normal
    gcongr
  · rw [mul_div_cancel_right₀ _ size.ne', sub_self, abs_zero]
    norm_num
  · rw [mul_div_cancel_right₀ _ size.ne', sub_self, abs_zero]
    norm_num

theorem nearestBits_of_decode :
    nearestBits (mantissa * 2 ^ exponent.toNat) (2 ^ (-exponent).toNat) = magnitude number := by
  have parts := parts_of_decode decoded
  by_cases nothing : mantissa = 0
  · have least : exponent = leastExponent :=
      parts.normal.resolve_left (by rw [nothing]; decide)
    rw [parts.bits, nothing, least, Nat.zero_mul, Int.sub_self]
    rfl
  · have rounded := rounded_of_decode decoded
    have positive : 0 < 2 ^ (-exponent).toNat := Nat.two_pow_pos _
    have nonzero : mantissa * 2 ^ exponent.toNat ≠ 0 :=
      Nat.mul_ne_zero nothing (Nat.two_pow_pos _).ne'
    rw [nearestBits_of_rounded positive nonzero (binary_ratio_eq mantissa exponent ▸ rounded),
      ← parts.bits]
    exact Nat.min_eq_left (magnitude_lt decoded).le

end

end Reckon.Binary64
