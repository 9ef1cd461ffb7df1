import Mathlib
import Reckon.Proofs.Binary64

/-!
The order of doubles.  Two doubles are in one of three relations unless one of them is no number;
exchanging them turns the relation around.
-/

namespace Reckon.Binary64

open Float.Model

/-- How two doubles compare, by what their bits denote. -/
def order (left right : Float) : Option Ordering :=
  left.toModel.unpack.compare right.toModel.unpack

variable {left right : Float}

theorem lt_iff_order : left < right ↔ order left right = some .lt := by
  change decide (left.toModel < right.toModel) = true ↔ _
  rw [decide_eq_true_iff]
  change (order left right == some .lt) = true ↔ _
  exact beq_iff_eq

theorem beq_iff_order : (left == right) = true ↔ order left right = some .eq := by
  change (order left right == some .eq) = true ↔ _
  exact beq_iff_eq

theorem isNaN_iff_unpack {number : Float} :
    number.isNaN = true ↔ number.toModel.unpack = .notANumber :=
  UnpackedFloat.isNaN_iff

theorem order_eq_none_iff : order left right = none ↔ left.isNaN = true ∨ right.isNaN = true := by
  rw [isNaN_iff_unpack, isNaN_iff_unpack]
  unfold order
  rcases left.toModel.unpack with ⟨⟨⟩⟩ | _ | ⟨⟨⟩⟩ | ⟨⟨⟩, _, _, _⟩ <;>
    rcases right.toModel.unpack with ⟨⟨⟩⟩ | _ | ⟨⟨⟩⟩ | ⟨⟨⟩, _, _, _⟩ <;>
    simp [UnpackedFloat.compare]

theorem compare_finite_swap (mantissa other : Nat) (exponent power : Int) :
    (compare power exponent).then (compare other mantissa) =
      ((compare exponent power).then (compare mantissa other)).swap := by
  rw [Ordering.swap_then, Int.compare_swap, Nat.compare_swap]

/-- Only two finite doubles of one sign compare by more than their kinds. -/
theorem compare_swap (left right : UnpackedFloat) :
    right.compare left = (left.compare right).map Ordering.swap := by
  cases left with
  | notANumber => cases right <;> rfl
  | infinity sign => cases sign <;> rcases right with ⟨⟨⟩⟩ | _ | _ | _ <;> rfl
  | zero sign => rcases right with ⟨⟨⟩⟩ | _ | _ | ⟨⟨⟩, _, _, _⟩ <;> rfl
  | finite sign mantissa exponent positive =>
      cases right with
      | notANumber => cases sign <;> rfl
      | infinity other => cases sign <;> cases other <;> rfl
      | zero other => cases sign <;> rfl
      | finite other mantissa' exponent' positive' =>
          have swapped := compare_finite_swap mantissa mantissa' exponent exponent'
          cases sign <;> cases other
          case negative.positive | positive.negative => rfl
          case negative.negative => exact congrArg (some ·.swap) swapped
          case positive.positive => exact congrArg some swapped

theorem order_swap (left right : Float) :
    order right left = (order left right).map Ordering.swap :=
  compare_swap left.toModel.unpack right.toModel.unpack

theorem gt_iff_order : right < left ↔ order left right = some .gt := by
  rw [lt_iff_order, order_swap left right]
  rcases order left right with _ | ⟨⟨⟩⟩ <;> simp

theorem beq_comm (left right : Float) : (left == right) = (right == left) :=
  Bool.eq_iff_iff.mpr ⟨beq_symm, beq_symm⟩

end Reckon.Binary64
