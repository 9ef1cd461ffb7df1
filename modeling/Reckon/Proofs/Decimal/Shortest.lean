import Reckon.Decimal.Shortest
import Reckon.Proofs.Binary64.Ratio
import Reckon.Proofs.Decimal.Figures

/-!
The digits of a double read back as that double.  The double nearest to a decimal depends on its
amount alone, however that is split into digits and an exponent; so zeros at the end can be dropped,
and the shortest digits keep what they were tested for.
-/

namespace Reckon.Decimal

def amount (number : Decimal) : ℚ :=
  number.digits * 10 ^ number.exponent

def leading (number : Decimal) : Int :=
  (figures number.digits).length + number.exponent

theorem amount_lt (number : Decimal) : number.amount < 10 ^ number.leading := by
  have digits : (number.digits : ℚ) < 10 ^ (figures number.digits).length := by
    exact_mod_cast lt_pow_figures number.digits
  rw [amount, leading, zpow_add₀ (by norm_num), zpow_natCast]
  gcongr

theorem le_amount {number : Decimal} (nonzero : number.digits ≠ 0) :
    10 ^ (number.leading - 1) ≤ number.amount := by
  have digits : (10 ^ ((figures number.digits).length - 1) : ℚ) ≤ number.digits := by
    exact_mod_cast pow_figures_le nonzero
  have positive : 0 < (figures number.digits).length := Nat.length_toDigits_pos
  have power : number.leading - 1 =
      ((figures number.digits).length - 1 : Nat) + number.exponent := by
    unfold leading
    omega
  rw [amount, power, zpow_add₀ (by norm_num), zpow_natCast]
  gcongr

theorem two_pow_le_widest : (2 ^ (1075 : Int) : ℚ) ≤ 10 ^ widest := by
  have powers : 2 ^ 1075 ≤ 10 ^ 400 := by decide +kernel
  change (2 ^ ((1075 : Nat) : Int) : ℚ) ≤ 10 ^ ((400 : Nat) : Int)
  rw [zpow_natCast, zpow_natCast]
  exact_mod_cast powers

/-- Whether or not its exponent is expanded, a decimal has the bits nearest to its ratio. -/
theorem nearestBits_eq (number : Decimal) :
    number.nearestBits =
      Binary64.nearestBits (number.digits * 10 ^ number.exponent.toNat)
        (10 ^ (-number.exponent).toNat) := by
  have positive : 0 < 10 ^ (-number.exponent).toNat := Nat.pow_pos (by decide)
  have ratio := Binary64.ratio_eq 10 number.digits number.exponent
  rw [Nat.cast_ofNat] at ratio
  change _ = number.amount at ratio
  unfold nearestBits
  dsimp only
  change (if _ || decide (number.leading < -widest) then _ else if widest < number.leading then _
    else _) = _
  split
  · rename_i small
    rw [Bool.or_eq_true, decide_eq_true_eq, decide_eq_true_eq] at small
    rcases small with nothing | tiny
    · rw [nothing, Nat.zero_mul, Binary64.nearestBits, if_pos rfl]
    · refine (Binary64.nearestBits_of_tiny positive (ratio ▸ ?_)).symm
      calc number.amount
          < 10 ^ number.leading := amount_lt number
        _ ≤ 10 ^ (-widest) := by
          gcongr
          norm_num
        _ ≤ 2 ^ (-1075 : Int) := by
          rw [zpow_neg, zpow_neg]
          gcongr
          exact two_pow_le_widest
        _ = 1 / 2 * 2 ^ Binary64.leastExponent := by
          rw [Binary64.leastExponent, one_div, ← zpow_neg_one, ← zpow_add₀ two_ne_zero]
          rfl
  · rename_i large
    rw [Bool.or_eq_true, decide_eq_true_eq, decide_eq_true_eq, not_or] at large
    split
    · rename_i huge
      refine (Binary64.nearestBits_of_huge positive (ratio ▸ ?_)).symm
      calc (2 ^ (1024 : Int) : ℚ)
          ≤ 2 ^ (1075 : Int) := zpow_le_zpow_right₀ one_le_two (by decide)
        _ ≤ 10 ^ widest := two_pow_le_widest
        _ ≤ 10 ^ (number.leading - 1) := by
          gcongr
          · norm_num
          · omega
        _ ≤ number.amount := le_amount large.1
    · rfl

theorem nearestBits_congr {first second : Decimal} (same : first.amount = second.amount) :
    first.nearestBits = second.nearestBits := by
  have ratio := fun number : Decimal => Binary64.ratio_eq 10 number.digits number.exponent
  simp only [Nat.cast_ofNat] at ratio
  rw [nearestBits_eq, nearestBits_eq]
  refine Binary64.nearestBits_congr (Nat.pow_pos (by decide)) (Nat.pow_pos (by decide)) ?_
  rw [ratio, ratio]
  exact same

theorem amount_trimZeros (number : Decimal) (fuel : Nat) :
    (trimZeros number fuel).amount = number.amount := by
  induction fuel generalizing number with
  | zero => rfl
  | succ fuel ih =>
      unfold trimZeros
      split
      · rename_i divisible
        have digits : ((number.digits / 10 : Nat) * 10 : ℚ) = number.digits := by
          exact_mod_cast Nat.div_mul_cancel (Nat.dvd_of_mod_eq_zero divisible)
        rw [ih, amount, amount, zpow_add_one₀ (by norm_num), ← digits]
        ring
      · rfl

theorem amount_exact (mantissa : Nat) (exponent : Int) :
    (exact mantissa exponent).amount = mantissa * 2 ^ exponent := by
  obtain ⟨shift, rfl | rfl⟩ := exponent.eq_nat_or_neg
  · simp [exact, amount]
  · have ten : (10 : ℚ) = 5 * 2 := by norm_num
    simp [exact, amount, ten, mul_pow]
    field_simp

theorem accepts_of_firstAccepted {tie : Tie} {accepts : Decimal → Bool} {top bottom : Nat}
    {leading : Int} {count : Nat} {number : Decimal}
    (found : firstAccepted tie accepts top bottom leading count = some number) :
    accepts number = true := by
  induction count with
  | zero => cases found
  | succ count ih =>
      unfold firstAccepted at found
      dsimp only at found
      split at found
      · rename_i first
        cases found
        exact List.find?_some first
      · exact ih found

theorem nearestBits_shortest (tie : Tie) {number : Float} {negative : Bool} {mantissa : Nat}
    {exponent : Int} (decoded : Binary64.decode number = .finite negative mantissa exponent) :
    (shortest tie mantissa exponent).nearestBits = Binary64.magnitude number := by
  have target := Binary64.nearestBits_of_decode decoded
  unfold shortest
  split
  · rename_i nothing
    rw [← target, nothing, Nat.zero_mul, Binary64.nearestBits, if_pos rfl]
    rfl
  · rw [nearestBits_congr (amount_trimZeros ..), ← target]
    cases found : firstAccepted tie _ _ _ _ _ with
    | some number => simpa using accepts_of_firstAccepted found
    | none =>
        have ratio := Binary64.ratio_eq 2 mantissa exponent
        have exactRatio :=
          Binary64.ratio_eq 10 (exact mantissa exponent).digits (exact mantissa exponent).exponent
        rw [Nat.cast_ofNat] at ratio exactRatio
        rw [Option.getD_none, nearestBits_eq]
        refine Binary64.nearestBits_congr (Nat.pow_pos (by decide)) (Nat.two_pow_pos _) ?_
        rw [ratio, exactRatio]
        exact amount_exact mantissa exponent

end Reckon.Decimal
