import Mathlib
import Reckon.Proofs.Binary64.Order
import Reckon.Proofs.Value.Equality
import Reckon.Value.Coercion

/-!
Values behind getters.  The readings of a value see through a chain of getters of any length.  Loose
equality asks one getter at a time and exchanges its sides when it asks the one on the right, so it
sees through chains on both sides because it is symmetric where it asks none.
-/

namespace Reckon.Value

/-- The second value is the first one behind a chain of getters, which may be empty. -/
inductive Behind (value : Value) : Value → Prop
  | bare : Behind value value
  | getter {wrapped : Value} (identity : Identity) (inner : Behind value wrapped) :
      Behind value (.getter identity wrapped)

def isGetter : Value → Bool
  | .getter .. => true
  | _ => false

theorem isGetter_resolved (value : Value) : value.resolved.isGetter = false := by
  induction value using Value.induction with
  | getter identity yielded inner => exact inner
  | _ => rfl

theorem resolved_of_not_getter {value : Value} (plain : value.isGetter = false) :
    value.resolved = value := by
  cases value with
  | getter identity yielded => cases plain
  | _ => rfl

theorem force_of_not_getter {value : Value} (plain : value.isGetter = false) :
    value.force = value := by
  cases value with
  | getter identity yielded => cases plain
  | _ => rfl

theorem behind_resolved (value : Value) : Behind value.resolved value := by
  induction value using Value.induction with
  | getter identity yielded inner => exact .getter identity inner
  | _ => exact .bare

namespace Behind

variable {value wrapped : Value} (chain : Behind value wrapped)

include chain

/-- A reading that gives for a getter what it gives for the value that it yields, sees through. -/
theorem reading {α : Type} {read : Value → α}
    (asks : ∀ identity yielded, read (.getter identity yielded) = read yielded) :
    read wrapped = read value := by
  induction chain with
  | bare => rfl
  | getter identity inner same => exact (asks identity _).trans same

theorem resolved : wrapped.resolved = value.resolved :=
  chain.reading fun _ _ => rfl

theorem wellFormed_iff : wrapped.WellFormed ↔ value.WellFormed :=
  iff_of_eq (chain.reading fun _ _ => propext wellFormed_getter)

theorem isTruthy : wrapped.isTruthy = value.isTruthy :=
  chain.reading fun _ _ => rfl

theorem toNumber : wrapped.toNumber = value.toNumber :=
  chain.reading fun _ _ => rfl

theorem display : wrapped.display = value.display :=
  chain.reading fun _ _ => rfl

theorem toJson : wrapped.toJson = value.toJson :=
  chain.reading fun _ _ => rfl

end Behind

theorem WellFormed.resolved {value : Value} (formed : value.WellFormed) :
    value.resolved.WellFormed :=
  (behind_resolved value).wellFormed_iff.mp formed

/-! ## Loose equality -/

section

variable {left right : Value}

theorem looselyEqual_of_not_getter (plain : left.isGetter = false)
    (plainRight : right.isGetter = false) :
    looselyEqual left right =
      if mixedScalars left right then toNumber left == toNumber right else left == right := by
  rw [looselyEqual]
  · rintro identity yielded rfl
    cases plain
  · rintro identity yielded rfl
    cases plainRight

theorem looselyEqual_resolved_left (left right : Value) :
    looselyEqual left right = looselyEqual left.resolved right := by
  induction left using Value.induction with
  | getter identity yielded inner =>
      rw [looselyEqual]
      exact inner
  | _ => rfl

/-- A getter on the right is asked when none is left on the left, and the sides are exchanged. -/
theorem looselyEqual_getter_right (plain : left.isGetter = false) (identity : Identity)
    (yielded : Value) :
    looselyEqual left (.getter identity yielded) = looselyEqual yielded left := by
  rw [looselyEqual]
  rintro identity inner rfl
  cases plain

theorem mixedScalars_comm (left right : Value) :
    mixedScalars left right = mixedScalars right left := by
  cases left <;> cases right <;> rfl

theorem looselyEqual_comm_of_not_getter (plain : left.isGetter = false)
    (plainRight : right.isGetter = false) (formed : left.WellFormed)
    (formedRight : right.WellFormed) : looselyEqual left right = looselyEqual right left := by
  rw [looselyEqual_of_not_getter plain plainRight, looselyEqual_of_not_getter plainRight plain,
    mixedScalars_comm, Binary64.beq_comm, beq_comm formed formedRight]

theorem looselyEqual_resolved (formed : left.WellFormed) (formedRight : right.WellFormed) :
    looselyEqual left right = looselyEqual left.resolved right.resolved := by
  have plain := isGetter_resolved left
  rw [looselyEqual_resolved_left]
  cases right with
  | getter identity yielded =>
      rw [looselyEqual_getter_right plain, looselyEqual_resolved_left]
      exact looselyEqual_comm_of_not_getter (isGetter_resolved yielded) plain
        (wellFormed_getter.mp formedRight).resolved formed.resolved
  | _ => rfl

theorem looselyEqual_comm (formed : left.WellFormed) (formedRight : right.WellFormed) :
    looselyEqual left right = looselyEqual right left := by
  rw [looselyEqual_resolved formed formedRight, looselyEqual_resolved formedRight formed]
  exact looselyEqual_comm_of_not_getter (isGetter_resolved left) (isGetter_resolved right)
    formed.resolved formedRight.resolved

theorem Behind.looselyEqual {covered hidden : Value} (chain : Behind left covered)
    (further : Behind right hidden) (formed : left.WellFormed) (formedRight : right.WellFormed) :
    covered.looselyEqual hidden = left.looselyEqual right := by
  rw [looselyEqual_resolved (chain.wellFormed_iff.mpr formed)
      (further.wellFormed_iff.mpr formedRight),
    looselyEqual_resolved formed formedRight, chain.resolved, further.resolved]

end

/-- Truth, numeric reading, string form and document of a value are those of what is behind a chain
of getters; loose equality sees through chains on both sides, and it is symmetric. -/
theorem readings_behind_getters :
    (∀ value wrapped : Value, Behind value wrapped →
      wrapped.isTruthy = value.isTruthy ∧ wrapped.toNumber = value.toNumber ∧
        wrapped.display = value.display ∧ wrapped.toJson = value.toJson) ∧
      (∀ left right covered hidden : Value, left.WellFormed → right.WellFormed →
        Behind left covered → Behind right hidden →
          covered.looselyEqual hidden = left.looselyEqual right) ∧
      ∀ left right : Value, left.WellFormed → right.WellFormed →
        left.looselyEqual right = right.looselyEqual left := by
  refine ⟨?_, ?_, fun _ _ => looselyEqual_comm⟩
  · intro value wrapped chain
    exact ⟨chain.isTruthy, chain.toNumber, chain.display, chain.toJson⟩
  · intro left right covered hidden formed formedRight chain further
    exact chain.looselyEqual further formed formedRight

/-- Objects with their entries in different orders, one behind one getter and one behind two. -/
theorem readings_behind_getters_twice :
    let first : Value := .object [("a", .string "5"), ("b", .null)]
    let second : Value := .object [("b", .null), ("a", .string "5")]
    let covered : Value := .getter (.supplied 0) first
    let hidden : Value := .getter (.supplied 1) (.getter (.supplied 2) second)
    first.WellFormed ∧ second.WellFormed ∧ Behind first covered ∧ Behind second hidden ∧
      hidden.display = "[object Object]" ∧ covered.looselyEqual hidden = true ∧
        hidden.looselyEqual covered = true := by
  intro first second covered hidden
  have formed : first.WellFormed := by
    simp only [first, wellFormed_object, List.forall_mem_cons]
    refine ⟨by decide, ?_, ?_, nofun⟩ <;> rintro entries ⟨⟩
  have formedSecond : second.WellFormed := by
    simp only [second, wellFormed_object, List.forall_mem_cons]
    refine ⟨by decide, ?_, ?_, nofun⟩ <;> rintro entries ⟨⟩
  have chain : Behind first covered := .getter _ .bare
  have further : Behind second hidden := .getter _ (.getter _ .bare)
  have same : first.looselyEqual second = true := by
    rw [looselyEqual_of_not_getter rfl rfl]
    decide +kernel
  obtain ⟨readings, equality, symmetric⟩ := readings_behind_getters
  have equal : covered.looselyEqual hidden = true :=
    (equality first second covered hidden formed formedSecond chain further).trans same
  refine ⟨formed, formedSecond, chain, further, ?_, equal, ?_⟩
  · exact (readings second hidden further).2.2.1
  · rw [symmetric hidden covered (further.wellFormed_iff.mpr formedSecond)
      (chain.wellFormed_iff.mpr formed)]
    exact equal

end Reckon.Value
