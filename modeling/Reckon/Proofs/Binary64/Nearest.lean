import Mathlib
import Reckon.Proofs.Binary64

/-!
The double nearest to a ratio.  At the unit of the ratio, the doubles of its size are the multiples
of the unit, and those with a smaller unit lie below all of these; so rounding to the nearest
multiple gives the nearest double.
-/

namespace Reckon.Binary64

def signFactor (negative : Bool) : ℚ :=
  if negative then -1 else 1

/-- The rational number `± mantissa · 2 ^ exponent`. -/
def amount (negative : Bool) (mantissa : Nat) (exponent : Int) : ℚ :=
  signFactor negative * (mantissa * 2 ^ exponent)

/-- A finite double to which no finite double is preferred: none is nearer to the exact number, and
another one may be as near only if this one has an even mantissa. -/
def IsNearest (number : Float) (exact : ℚ) : Prop :=
  ∃ negative mantissa exponent, decode number = .finite negative mantissa exponent ∧
    ∀ other sign fraction power, decode other = .finite sign fraction power →
      |amount negative mantissa exponent - exact| ≤ |amount sign fraction power - exact| ∧
        (|amount negative mantissa exponent - exact| = |amount sign fraction power - exact| →
          amount sign fraction power = amount negative mantissa exponent ∨ Even mantissa)

/-! ## The nearest natural number -/

section

variable {top bottom : Nat}

theorem roundHalfEven_cases (top bottom : Nat) :
    roundHalfEven top bottom = top / bottom ∧ 2 * (top % bottom) ≤ bottom ∨
      roundHalfEven top bottom = top / bottom + 1 ∧ bottom ≤ 2 * (top % bottom) := by
  unfold roundHalfEven
  dsimp only
  split
  · rename_i up
    simp only [Bool.or_eq_true, Bool.and_eq_true, decide_eq_true_eq, beq_iff_eq] at up
    exact .inr ⟨rfl, by omega⟩
  · rename_i down
    simp only [Bool.or_eq_true, Bool.and_eq_true, decide_eq_true_eq, beq_iff_eq] at down
    exact .inl ⟨rfl, by omega⟩

theorem even_of_tie (tie : 2 * (top % bottom) = bottom) : Even (roundHalfEven top bottom) := by
  rw [Nat.even_iff]
  unfold roundHalfEven
  by_cases odd : top / bottom % 2 = 1
  · simp [tie, odd]
    omega
  · simp [tie, odd]
    omega

/-- How far rounding goes is what is left over a whole number, or what is missing to the next one,
whichever is less. -/
theorem abs_roundHalfEven_sub (positive : 0 < bottom) :
    |(roundHalfEven top bottom - top / bottom : ℚ)| = (top % bottom : Nat) / bottom ∧
        2 * (top % bottom) ≤ bottom ∨
      |(roundHalfEven top bottom - top / bottom : ℚ)| = 1 - (top % bottom : Nat) / bottom ∧
        bottom ≤ 2 * (top % bottom) := by
  have nonzero : (bottom : ℚ) ≠ 0 := Nat.cast_ne_zero.mpr positive.ne'
  have quotient : (top / bottom : ℚ) = (top / bottom : Nat) + (top % bottom : Nat) / bottom := by
    rw [div_eq_iff nonzero, add_mul, div_mul_cancel₀ _ nonzero]
    exact_mod_cast (Nat.div_add_mod' top bottom).symm
  have lower : (0 : ℚ) ≤ (top % bottom : Nat) / bottom := by positivity
  have upper : ((top % bottom : Nat) / bottom : ℚ) ≤ 1 := by
    rw [div_le_one (by positivity)]
    exact_mod_cast (Nat.mod_lt top positive).le
  rcases roundHalfEven_cases top bottom with ⟨round, side⟩ | ⟨round, side⟩
  · refine .inl ⟨?_, side⟩
    rw [round, quotient, sub_add_cancel_left, abs_neg, abs_of_nonneg lower]
  · refine .inr ⟨?_, side⟩
    rw [round, quotient, Nat.cast_succ, add_sub_add_left_eq_sub, abs_of_nonneg (by linarith)]

theorem abs_roundHalfEven_sub_le (positive : 0 < bottom) :
    |(roundHalfEven top bottom - top / bottom : ℚ)| ≤ 1 / 2 := by
  have large : (0 : ℚ) < bottom := Nat.cast_pos.mpr positive
  rcases abs_roundHalfEven_sub positive with ⟨distance, side⟩ | ⟨distance, side⟩
  · have side : (2 * (top % bottom : Nat) : ℚ) ≤ bottom := by exact_mod_cast side
    rw [distance, div_le_iff₀ large]
    linarith
  · have side : (bottom : ℚ) ≤ 2 * (top % bottom : Nat) := by exact_mod_cast side
    rw [distance, sub_le_comm, le_div_iff₀ large]
    linarith

theorem even_roundHalfEven (positive : 0 < bottom)
    (tie : |(roundHalfEven top bottom - top / bottom : ℚ)| = 1 / 2) :
    Even (roundHalfEven top bottom) := by
  have large : (0 : ℚ) < bottom := Nat.cast_pos.mpr positive
  have half : ((top % bottom : Nat) / bottom : ℚ) = 1 / 2 := by
    rcases abs_roundHalfEven_sub positive with ⟨distance, -⟩ | ⟨distance, -⟩ <;>
      rw [distance] at tie <;> linarith
  rw [div_eq_iff large.ne'] at half
  apply even_of_tie
  have double : (2 * (top % bottom : Nat) : ℚ) = bottom := by linarith
  exact_mod_cast double

end

/-- An integer at most a half away from a number is nearest to it, and no other is as near unless it
is a half away. -/
theorem nearest_of_half {whole : Int} {exact : ℚ} (half : |whole - exact| ≤ 1 / 2) (other : Int) :
    |whole - exact| ≤ |other - exact| ∧
      (|whole - exact| = |other - exact| → other = whole ∨ |whole - exact| = 1 / 2) := by
  by_cases same : other = whole
  · subst same
    exact ⟨le_rfl, fun _ => .inl rfl⟩
  · have apart : (1 : ℚ) ≤ |(whole - other : ℚ)| := by
      exact_mod_cast Int.one_le_abs (sub_ne_zero.mpr (Ne.symm same))
    have triangle := abs_sub_le (whole : ℚ) exact other
    rw [abs_sub_comm exact] at triangle
    exact ⟨by linarith, fun tie => .inr (by linarith)⟩

/-! ## The unit of a ratio -/

section

variable {top bottom : Nat} (positive : 0 < bottom)

include positive

theorem scale_pos (exponent : Int) : 0 < (scale top bottom exponent).2 :=
  Nat.mul_pos positive (Nat.two_pow_pos _)

theorem scale_eq (exponent : Int) :
    ((scale top bottom exponent).1 / (scale top bottom exponent).2 : ℚ) =
      top / bottom / 2 ^ exponent := by
  have nonzero : (bottom : ℚ) ≠ 0 := Nat.cast_ne_zero.mpr positive.ne'
  obtain ⟨shift, rfl | rfl⟩ := exponent.eq_nat_or_neg
  · simp [scale]
    field_simp
  · simp [scale]
    field_simp

theorem div_scale_lt_iff (exponent : Int) (bound : Nat) :
    (scale top bottom exponent).1 / (scale top bottom exponent).2 < bound ↔
      (top / bottom : ℚ) < bound * 2 ^ exponent := by
  have large : (0 : ℚ) < (scale top bottom exponent).2 :=
    Nat.cast_pos.mpr (scale_pos positive exponent)
  rw [Nat.div_lt_iff_lt_mul (scale_pos positive exponent), ← div_lt_iff₀ (by positivity),
    ← scale_eq positive, div_lt_iff₀ large]
  exact_mod_cast Iff.rfl

variable (nonzero : top ≠ 0)

include nonzero

theorem log2_bounds :
    (2 ^ ((top.log2 : Int) - bottom.log2 - 1) : ℚ) < top / bottom ∧
      (top / bottom : ℚ) < 2 ^ ((top.log2 : Int) - bottom.log2 + 1) := by
  have bottomLow : (2 ^ bottom.log2 : ℚ) ≤ bottom := by
    exact_mod_cast Nat.log2_self_le positive.ne'
  have bottomHigh : (bottom : ℚ) < 2 ^ (bottom.log2 + 1) := by
    exact_mod_cast Nat.lt_log2_self (n := bottom)
  have topLow : (2 ^ top.log2 : ℚ) ≤ top := by
    exact_mod_cast Nat.log2_self_le nonzero
  have topHigh : (top : ℚ) < 2 ^ (top.log2 + 1) := by
    exact_mod_cast Nat.lt_log2_self (n := top)
  have large : (0 : ℚ) < bottom := Nat.cast_pos.mpr positive
  constructor
  · calc (2 ^ ((top.log2 : Int) - bottom.log2 - 1) : ℚ)
        = 2 ^ top.log2 / 2 ^ (bottom.log2 + 1) := by
          rw [sub_sub, zpow_sub₀ two_ne_zero, zpow_natCast]
          exact_mod_cast rfl
      _ < top / bottom := div_lt_div₀' topLow bottomHigh (by positivity) large
  · calc (top / bottom : ℚ)
        < 2 ^ (top.log2 + 1) / 2 ^ bottom.log2 :=
          div_lt_div₀ topHigh bottomLow (by positivity) (by positivity)
      _ = 2 ^ ((top.log2 : Int) - bottom.log2 + 1) := by
          rw [sub_add_eq_add_sub, zpow_sub₀ two_ne_zero, zpow_natCast]
          exact_mod_cast rfl

end

/-- An exponent at which a number has fifty-three bits before the point, or fewer at the least
exponent. -/
structure UnitOf (exact : ℚ) (exponent : Int) : Prop where
  least : leastExponent ≤ exponent
  most : exact < (2 * hiddenBit : Nat) * 2 ^ exponent
  normal : exponent = leastExponent ∨ hiddenBit * 2 ^ exponent ≤ exact

theorem hiddenBit_eq : (hiddenBit : ℚ) = 2 ^ (52 : Int) := by
  norm_num [hiddenBit]

theorem double_hiddenBit_eq : ((2 * hiddenBit : Nat) : ℚ) = 2 ^ (53 : Int) := by
  norm_num [hiddenBit]

theorem unitOf_unitExponent {top bottom : Nat} (positive : 0 < bottom) (nonzero : top ≠ 0) :
    UnitOf (top / bottom) (unitExponent top bottom) := by
  obtain ⟨lower, upper⟩ := log2_bounds positive nonzero
  have below := @div_scale_lt_iff top bottom positive
    ((top.log2 : Int) - bottom.log2 - 53) (2 * hiddenBit)
  unfold unitExponent
  dsimp only
  rw [if_congr below rfl rfl]
  generalize (top.log2 : Int) - bottom.log2 = log at *
  -- The logarithms leave two exponents, and the quotient tells which of them it is.
  have unit : ∀ exponent : Int, hiddenBit * 2 ^ exponent ≤ (top / bottom : ℚ) →
      (top / bottom : ℚ) < (2 * hiddenBit : Nat) * 2 ^ exponent →
        UnitOf (top / bottom) (max leastExponent exponent) := by
    intro exponent normal most
    rcases le_total leastExponent exponent with least | least
    · rw [max_eq_right least]
      exact ⟨least, most, .inr normal⟩
    · rw [max_eq_left least]
      refine ⟨le_rfl, most.trans_le ?_, .inl rfl⟩
      gcongr
      norm_num
  have lowest : (hiddenBit * 2 ^ (log - 53) : ℚ) = 2 ^ (log - 1) := by
    rw [hiddenBit_eq, ← zpow_add₀ two_ne_zero]
    ring_nf
  have middle : (hiddenBit * 2 ^ (log - 53 + 1) : ℚ) = (2 * hiddenBit : Nat) * 2 ^ (log - 53) := by
    rw [zpow_add_one₀ two_ne_zero, Nat.cast_mul, Nat.cast_ofNat]
    ring
  have highest : ((2 * hiddenBit : Nat) * 2 ^ (log - 53 + 1) : ℚ) = 2 ^ (log + 1) := by
    rw [double_hiddenBit_eq, ← zpow_add₀ two_ne_zero]
    ring_nf
  split
  · rename_i small
    exact unit _ (lowest.trans_le lower.le) small
  · rename_i large
    exact unit _ (middle.trans_le (not_lt.mp large)) (upper.trans_eq highest.symm)

/-! ## The doubles around a ratio -/

theorem abs_amount (negative : Bool) (mantissa : Nat) (exponent : Int) :
    |amount negative mantissa exponent| = mantissa * 2 ^ exponent := by
  have positive : (0 : ℚ) ≤ mantissa * 2 ^ exponent := by positivity
  cases negative <;> simp [amount, signFactor, abs_of_nonneg positive]

theorem signFactor_amount (negative sign : Bool) (mantissa : Nat) (exponent : Int) :
    signFactor negative * amount sign mantissa exponent =
      amount (negative ^^ sign) mantissa exponent := by
  cases negative <;> cases sign <;> simp [amount, signFactor]

theorem signFactor_mul_self (negative : Bool) (number : ℚ) :
    signFactor negative * (signFactor negative * number) = number := by
  cases negative <;> simp [signFactor]

theorem abs_signFactor_mul_sub (negative : Bool) (left right : ℚ) :
    |signFactor negative * left - right| = |left - signFactor negative * right| := by
  cases negative with
  | false => simp [signFactor]
  | true =>
      rw [← abs_neg]
      congr 1
      simp only [signFactor, if_pos]
      ring

theorem ofBits_signed (negative : Bool) {bits : Nat} (small : bits < infiniteBits) :
    ofBits (if negative then signBit + bits else bits) =
      if bits < hiddenBit then .finite negative bits leastExponent
      else .finite negative (hiddenBit + bits % hiddenBit) ((bits / hiddenBit : Nat) - 1075) := by
  have sign : decide (signBit ≤ if negative then signBit + bits else bits) = negative := by
    cases negative
    · simp only [infiniteBits, hiddenBit, signBit] at *
      simpa using by omega
    · simp
  have field : (if negative then signBit + bits else bits) / hiddenBit % 2048 =
      bits / hiddenBit := by
    simp only [infiniteBits, hiddenBit, signBit] at *
    split <;> omega
  have fraction : (if negative then signBit + bits else bits) % hiddenBit = bits % hiddenBit := by
    simp only [hiddenBit, signBit] at *
    split <;> omega
  have finite : bits / hiddenBit ≠ 2047 := (Nat.div_lt_of_lt_mul (Nat.mul_comm .. ▸ small)).ne
  unfold ofBits
  simp only [sign, field, fraction, if_neg finite]
  by_cases subnormal : bits < hiddenBit
  · rw [if_pos (Nat.div_eq_of_lt subnormal), if_pos subnormal, Nat.mod_eq_of_lt subnormal]
  · have normal : bits / hiddenBit ≠ 0 :=
      (Nat.div_pos (Nat.le_of_not_lt subnormal) (by decide)).ne'
    rw [if_neg normal, if_neg subnormal]

section

variable (negative : Bool) {mantissa : Nat} {exponent : Int} (least : leastExponent ≤ exponent)
  (normal : exponent = leastExponent ∨ hiddenBit ≤ mantissa)
  (small : (exponent - leastExponent).toNat * hiddenBit + mantissa < infiniteBits)

include least normal small

theorem decode_assemble_parts (most : mantissa < 2 * hiddenBit) :
    decode (assemble negative ((exponent - leastExponent).toNat * hiddenBit + mantissa)) =
      .finite negative mantissa exponent := by
  rw [decode_assemble negative small, ofBits_signed negative small]
  generalize read : (exponent - leastExponent).toNat * hiddenBit + mantissa = bits
  split
  · have parts : bits = mantissa ∧ leastExponent = exponent := by
      simp only [leastExponent, hiddenBit] at *
      omega
    rw [parts.1, parts.2]
  · have parts : hiddenBit + bits % hiddenBit = mantissa ∧
        ((bits / hiddenBit : Nat) - 1075 : Int) = exponent := by
      simp only [leastExponent, hiddenBit] at *
      omega
    rw [parts.1, parts.2]

/-- A mantissa that has been rounded up to a power of two carries into the exponent. -/
theorem decode_assemble_carry (most : mantissa ≤ 2 * hiddenBit) :
    ∃ fraction power,
      decode (assemble negative ((exponent - leastExponent).toNat * hiddenBit + mantissa)) =
          .finite negative fraction power ∧
        (fraction * 2 ^ power : ℚ) = mantissa * 2 ^ exponent ∧ (Even mantissa → Even fraction) := by
  rcases most.lt_or_eq with plain | rfl
  · exact ⟨_, _, decode_assemble_parts negative least normal small plain, rfl, id⟩
  · have carry : (exponent - leastExponent).toNat * hiddenBit + 2 * hiddenBit =
        (exponent + 1 - leastExponent).toNat * hiddenBit + hiddenBit := by
      simp only [leastExponent, hiddenBit] at *
      omega
    rw [carry] at small ⊢
    refine ⟨_, _, decode_assemble_parts negative (by omega) (.inr le_rfl) small (by decide), ?_,
      fun _ => by decide⟩
    rw [zpow_add_one₀ two_ne_zero, Nat.cast_mul, Nat.cast_ofNat]
    ring

end

section

variable {other : Float} {sign : Bool} {fraction : Nat} {power : Int}
  (decoded : decode other = .finite sign fraction power)

include decoded

theorem leastExponent_le : leastExponent ≤ power := by
  unfold decode ofBits at decoded
  dsimp only at decoded
  split at decoded
  · split at decoded <;> cases decoded
  · split at decoded
    · cases decoded
      exact le_rfl
    · cases decoded
      unfold leastExponent
      omega

/-- A finite double is a multiple of a unit, or it has a smaller unit and lies below the multiples
that have fifty-three bits. -/
theorem multiple_or_small (negative : Bool) (exponent : Int) :
    (∃ whole : Int, amount negative fraction power = whole * 2 ^ exponent) ∨
      exponent ≠ leastExponent ∧ |amount negative fraction power| < hiddenBit * 2 ^ exponent := by
  rcases le_or_gt exponent power with coarse | fine
  · left
    obtain ⟨shift, rfl⟩ := Int.le.dest coarse
    refine ⟨(if negative then -1 else 1) * (fraction * 2 ^ shift), ?_⟩
    rw [amount, signFactor, zpow_add₀ two_ne_zero, zpow_natCast]
    push_cast
    ring
  · right
    have lowest := leastExponent_le decoded
    have most := (parts_of_decode decoded).most
    refine ⟨by omega, ?_⟩
    rw [abs_amount]
    calc (fraction * 2 ^ power : ℚ)
        < (2 * hiddenBit : Nat) * 2 ^ power := by gcongr
      _ = hiddenBit * 2 ^ (power + 1) := by
          rw [zpow_add_one₀ two_ne_zero, Nat.cast_mul, Nat.cast_ofNat]
          ring
      _ ≤ hiddenBit * 2 ^ exponent := by
          gcongr
          · norm_num
          · omega

end

/-! ## Rounding at the unit -/

theorem abs_scaled_sub (exact number : ℚ) (exponent : Int) : |number * 2 ^ exponent - exact| =
    |number - exact / 2 ^ exponent| * 2 ^ exponent := by
  have size : (0 : ℚ) < 2 ^ exponent := by positivity
  rw [← abs_of_pos size, ← abs_mul, sub_mul, abs_of_pos size, div_mul_cancel₀ _ size.ne']

/-- A number rounded to a multiple of its unit, a tie to an even one. -/
structure Rounded (exact : ℚ) (mantissa : Nat) (exponent : Int) : Prop where
  unit : UnitOf exact exponent
  half : |(mantissa - exact / 2 ^ exponent : ℚ)| ≤ 1 / 2
  even : |(mantissa - exact / 2 ^ exponent : ℚ)| = 1 / 2 → Even mantissa

namespace Rounded

variable {exact : ℚ} {mantissa : Nat} {exponent : Int} (rounded : Rounded exact mantissa exponent)

include rounded

theorem most : mantissa ≤ 2 * hiddenBit := by
  have size : (0 : ℚ) < 2 ^ exponent := by positivity
  have quotient := (div_lt_iff₀ size).mpr rounded.unit.most
  have above := (abs_le.mp rounded.half).2
  have bound : (mantissa : ℚ) < (2 * hiddenBit : Nat) + 1 := by linarith
  exact Nat.lt_succ_iff.mp (by exact_mod_cast bound)

theorem normal : exponent = leastExponent ∨ hiddenBit ≤ mantissa := by
  refine rounded.unit.normal.imp_right fun normal => ?_
  have size : (0 : ℚ) < 2 ^ exponent := by positivity
  have quotient := (le_div_iff₀ size).mpr normal
  have below := (abs_le.mp rounded.half).1
  have bound : (hiddenBit : ℚ) < mantissa + 1 := by linarith
  exact Nat.lt_succ_iff.mp (by exact_mod_cast bound)

/-- No multiple of the unit is nearer, and neither is a number below those that have fifty-three
bits. -/
theorem nearest {value : ℚ} (grid : (∃ whole : Int, value = whole * 2 ^ exponent) ∨
      exponent ≠ leastExponent ∧ |value| < hiddenBit * 2 ^ exponent) :
    |mantissa * 2 ^ exponent - exact| ≤ |value - exact| ∧
      (|mantissa * 2 ^ exponent - exact| = |value - exact| →
        value = mantissa * 2 ^ exponent ∨ Even mantissa) := by
  have size : (0 : ℚ) < 2 ^ exponent := by positivity
  have closest := @nearest_of_half mantissa (exact / 2 ^ exponent) rounded.half
  simp only [Int.cast_natCast] at closest
  rcases grid with ⟨whole, rfl⟩ | ⟨normal, small⟩
  · obtain ⟨closest, tie⟩ := closest whole
    rw [abs_scaled_sub exact, abs_scaled_sub exact, mul_le_mul_iff_left₀ size,
      mul_left_inj' size.ne']
    refine ⟨closest, fun same => (tie same).imp ?_ rounded.even⟩
    rintro rfl
    rw [Int.cast_natCast]
  · have lowest : hiddenBit * 2 ^ exponent ≤ exact := rounded.unit.normal.resolve_left normal
    have closest : |mantissa * 2 ^ exponent - exact| ≤ |hiddenBit * 2 ^ exponent - exact| := by
      rw [abs_scaled_sub exact, abs_scaled_sub exact, mul_le_mul_iff_left₀ size]
      exact_mod_cast (closest hiddenBit).1
    have inside := le_abs_self value
    have farther : |hiddenBit * 2 ^ exponent - exact| < |value - exact| := by
      rw [abs_of_nonpos (by linarith), abs_of_nonpos (by linarith)]
      linarith
    exact ⟨closest.trans farther.le, fun same => absurd same (closest.trans_lt farther).ne⟩

theorem isNearest (negative : Bool)
    (small : (exponent - leastExponent).toNat * hiddenBit + mantissa < infiniteBits) :
    IsNearest (assemble negative ((exponent - leastExponent).toNat * hiddenBit + mantissa))
      (signFactor negative * exact) := by
  obtain ⟨fraction, power, read, same, even⟩ :=
    decode_assemble_carry negative rounded.unit.least rounded.normal small rounded.most
  refine ⟨negative, fraction, power, read, fun other sign figures shift decoded => ?_⟩
  have grid := multiple_or_small decoded (negative ^^ sign) exponent
  rw [← signFactor_amount] at grid
  obtain ⟨closest, tie⟩ := rounded.nearest grid
  have mine : signFactor negative * amount negative fraction power = mantissa * 2 ^ exponent := by
    rw [amount, signFactor_mul_self, same]
  rw [← abs_signFactor_mul_sub, ← abs_signFactor_mul_sub, mine]
  refine ⟨closest, fun equal => (tie equal).imp (fun value => ?_) even⟩
  rw [← signFactor_mul_self negative (amount sign figures shift), value, ← mine,
    signFactor_mul_self]

end Rounded

theorem rounded_ratio {top bottom : Nat} (positive : 0 < bottom) (nonzero : top ≠ 0) :
    Rounded (top / bottom)
      (roundHalfEven (scale top bottom (unitExponent top bottom)).1
        (scale top bottom (unitExponent top bottom)).2) (unitExponent top bottom) := by
  refine ⟨unitOf_unitExponent positive nonzero, ?_, ?_⟩ <;> rw [← scale_eq positive]
  · exact abs_roundHalfEven_sub_le (scale_pos positive _)
  · exact even_roundHalfEven (scale_pos positive _)

/-- A ratio that does not round to infinity has the double made for it as its nearest one. -/
theorem isNearest_ofRatio (negative : Bool) {top bottom : Nat} (positive : 0 < bottom)
    (small : nearestBits top bottom < infiniteBits) :
    IsNearest (ofRatio negative top bottom)
      (signFactor negative * (top / bottom)) := by
  unfold ofRatio
  by_cases nothing : top = 0
  · have read := decode_assemble negative small
    rw [ofBits_signed negative small, nearestBits, if_pos nothing] at read
    rw [nearestBits, if_pos nothing]
    refine ⟨_, _, _, read, fun other sign fraction power _ => ⟨?_, fun _ => .inr Even.zero⟩⟩
    simp only [amount, nothing, Nat.cast_zero, zero_mul, zero_div, mul_zero, sub_zero, abs_zero]
    exact abs_nonneg _
  · have rounded := rounded_ratio positive nothing
    rw [nearestBits, if_neg nothing] at small ⊢
    dsimp only at small ⊢
    have small := (min_lt_iff.mp small).resolve_right (lt_irrefl _)
    rw [min_eq_left small.le]
    exact rounded.isNearest negative small

theorem isNearest_ofInt {whole : Int} (small : whole.natAbs < 2 ^ 64) :
    IsNearest (ofInt whole) whole := by
  have nearest := isNearest_ofRatio (decide (whole < 0)) Nat.one_pos (nearestBits_lt small)
  have exact : signFactor (decide (whole < 0)) * (whole.natAbs / (1 : Nat) : ℚ) = whole := by
    rw [signFactor, Nat.cast_one, div_one, Nat.cast_natAbs]
    rcases lt_or_ge whole 0 with signed | plain
    · simp [signed, abs_of_neg signed]
    · simp [not_lt.mpr plain, abs_of_nonneg plain]
  rwa [exact] at nearest

end Reckon.Binary64
