import Mathlib
import Reckon.Proofs.Value.Getters

/-!
The order of values beside their loose equality.  Values that are equal in order are the ones that
are loosely equal, though the two go by different cases: texts and booleans among themselves, and
numeric readings.
-/

namespace Reckon.Value

/-! ## Order -/

theorem compareNumbers_eq_order (left right : Float) :
    compareNumbers left right = Binary64.order left right := by
  have less := @Binary64.lt_iff_order left right
  have same := @Binary64.beq_iff_order left right
  have greater := @Binary64.gt_iff_order left right
  unfold compareNumbers
  rcases found : Binary64.order left right with _ | ⟨⟨⟩⟩ <;> simp [less, same, greater, found]

theorem compareTexts_eq_iff {left right : String} :
    compareTexts left right = .eq ↔ left = right := by
  unfold compareTexts
  split
  · rename_i less
    refine iff_of_false nofun ?_
    rintro rfl
    exact String.lt_irrefl left less
  · split
    · rename_i same
      exact iff_of_true rfl same
    · rename_i other
      exact iff_of_false nofun other

theorem compareTexts_swap (left right : String) :
    compareTexts right left = (compareTexts left right).swap := by
  unfold compareTexts
  by_cases less : left < right
  · have other : right ≠ left := by
      rintro rfl
      exact String.lt_irrefl right less
    rw [if_pos less, if_neg (String.lt_asymm less), if_neg other]
    rfl
  · by_cases same : left = right
    · subst same
      rw [if_neg less, if_pos rfl]
      rfl
    · have greater : right < left := by
        by_contra neither
        exact same (String.le_antisymm (String.not_lt.mp neither) (String.not_lt.mp less))
      rw [if_pos greater, if_neg less, if_neg same]
      rfl

def areTexts : Value → Value → Bool
  | .string _, .string _ => true
  | _, _ => false

theorem areTexts_comm (left right : Value) : areTexts left right = areTexts right left := by
  cases left <;> cases right <;> rfl

theorem areTexts_iff {left right : Value} :
    areTexts left right = true ↔ ∃ first second, left = .string first ∧ right = .string second := by
  cases left <;> cases right <;> simp [areTexts]

theorem compare?_of_not_texts {left right : Value} (mixed : areTexts left right = false) :
    compare? left right = Binary64.order left.toNumber right.toNumber := by
  unfold compare?
  split
  · cases mixed
  · exact compareNumbers_eq_order _ _

theorem compare?_swap (left right : Value) :
    compare? right left = (compare? left right).map Ordering.swap := by
  by_cases texts : areTexts left right = true
  · obtain ⟨first, second, rfl, rfl⟩ := areTexts_iff.mp texts
    exact congrArg some (compareTexts_swap first second)
  · rw [Bool.not_eq_true] at texts
    rw [compare?_of_not_texts texts, compare?_of_not_texts (areTexts_comm left right ▸ texts)]
    exact Binary64.order_swap _ _

theorem compare?_swap_eq_some {left right : Value} {order : Ordering} :
    compare? right left = some order ↔ compare? left right = some order.swap := by
  rw [compare?_swap left right]
  rcases compare? left right with _ | ⟨⟨⟩⟩ <;> cases order <;> simp

/-- Two texts, or two values with numeric readings. -/
def Comparable (left right : Value) : Prop :=
  (∃ first second, left = .string first ∧ right = .string second) ∨
    left.toNumber.isNaN = false ∧ right.toNumber.isNaN = false

theorem compare?_eq_none_iff {left right : Value} :
    compare? left right = none ↔ ¬Comparable left right := by
  unfold Comparable
  rw [← areTexts_iff]
  by_cases texts : areTexts left right = true
  · obtain ⟨first, second, rfl, rfl⟩ := areTexts_iff.mp texts
    exact iff_of_false nofun fun incomparable => incomparable (.inl rfl)
  · rw [Bool.not_eq_true] at texts
    rw [compare?_of_not_texts texts, Binary64.order_eq_none_iff]
    simp [texts, or_iff_not_imp_left]

/-! ## Loose equality -/

/-- Numbers, strings and booleans. -/
def isBasic : Value → Bool
  | .number _ | .string _ | .boolean _ => true
  | _ => false

theorem order_boolean (left right : Bool) :
    Binary64.order (toNumber (.boolean left)) (toNumber (.boolean right)) = some .eq ↔
      left = right := by
  cases left <;> cases right <;> decide +kernel

theorem isGetter_of_basic {value : Value} (basic : value.isBasic = true) :
    value.isGetter = false := by
  cases value with
  | getter identity yielded => cases basic
  | _ => rfl

theorem kind_of_basic {left right : Value} (basic : left.isBasic = true)
    (basicRight : right.isBasic = true) (same : mixedScalars left right = false) :
    (∃ first second, left = .number first ∧ right = .number second) ∨
      (∃ first second, left = .string first ∧ right = .string second) ∨
        ∃ first second, left = .boolean first ∧ right = .boolean second := by
  cases left <;> cases basic <;> cases right <;> cases basicRight <;> cases same <;> simp

/-- Among numbers, strings and booleans the loosely equal ones are those that are equal in order. -/
theorem looselyEqual_iff_compare? {left right : Value} (basic : left.isBasic = true)
    (basicRight : right.isBasic = true) :
    looselyEqual left right = true ↔ compare? left right = some .eq := by
  rw [looselyEqual_of_not_getter (isGetter_of_basic basic) (isGetter_of_basic basicRight)]
  cases mixed : mixedScalars left right with
  | true =>
      have kinds : areTexts left right = false := by
        cases left <;> cases right <;> cases mixed <;> rfl
      rw [if_pos rfl, compare?_of_not_texts kinds, Binary64.beq_iff_order]
  | false =>
      rw [if_neg Bool.false_ne_true]
      obtain ⟨first, second, rfl, rfl⟩ | ⟨first, second, rfl, rfl⟩ | ⟨first, second, rfl, rfl⟩ :=
        kind_of_basic basic basicRight mixed
      · rw [compare?_of_not_texts rfl]
        exact Binary64.beq_iff_order
      · have order : compare? (.string first) (.string second) = some .eq ↔ first = second := by
          rw [compare?, Option.some_inj, compareTexts_eq_iff]
        rw [string_beq_iff, order, string.injEq, eq_comm]
      · rw [compare?_of_not_texts rfl, order_boolean, boolean_beq_iff, boolean.injEq, eq_comm]

end Reckon.Value
