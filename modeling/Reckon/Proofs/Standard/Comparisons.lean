import Mathlib
import Reckon.Proofs.Value.Order
import Reckon.Standard.Operators

/-!
The comparison operators on numbers, strings and booleans.  Equality and the four orderings draw the
same line: of two values that compare, exactly one is less, equal or greater.
-/

namespace Reckon.Standard

def meaning? (symbol : String) : Option (Value → Value → Value) :=
  (Table.get? binaryOperators symbol).map Prod.snd

def Holds (symbol : String) (left right : Value) : Prop :=
  ∃ meaning, meaning? symbol = some meaning ∧ meaning left right = .boolean true

theorem holds_iff {symbol : String} {meaning : Value → Value → Value}
    (known : meaning? symbol = some meaning) (left right : Value) :
    Holds symbol left right ↔ meaning left right = .boolean true := by
  simp [Holds, known]

structure ComparisonsAgree (left right : Value) : Prop where
  /-- Of two values that compare, exactly one is less, equal or greater. -/
  exactlyOne : Value.Comparable left right →
    ∃! symbol, symbol ∈ ["<", "==", ">"] ∧ Holds symbol left right
  /-- Of all others none is. -/
  never : ¬Value.Comparable left right →
    ∀ symbol ∈ ["<", "==", ">", "<=", ">="], ¬Holds symbol left right
  atMost : Holds "<=" left right ↔ Holds "<" left right ∨ Holds "==" left right
  atLeast : Holds ">=" left right ↔ Holds ">" left right ∨ Holds "==" left right
  unequal : Holds "!=" left right ↔ ¬Holds "==" left right
  /-- Exchanging the operands turns each comparison around. -/
  exchange : ∀ pair ∈ [("<", ">"), (">", "<"), ("<=", ">="), (">=", "<="), ("==", "==")],
    Holds pair.1 right left ↔ Holds pair.2 left right

/-- The comparisons, each with the ways to compare that it accepts. -/
def comparisons : List (String × List Ordering) :=
  [("<", [.lt]), ("==", [.eq]), (">", [.gt]), ("<=", [.lt, .eq]), (">=", [.gt, .eq])]

section

variable {left right : Value} (basic : left.isBasic = true) (basicRight : right.isBasic = true)

include basic basicRight

theorem holds_ordered {symbol : String} {accepts : Ordering → Bool} {orders : List Ordering}
    (known : meaning? symbol = some (ordered accepts))
    (same : ∀ order, accepts order = true ↔ order ∈ orders) :
    Holds symbol left right ↔ ∃ order ∈ orders, Value.compare? left right = some order := by
  rw [holds_iff known, ordered, Value.force_of_not_getter (Value.isGetter_of_basic basic),
    Value.force_of_not_getter (Value.isGetter_of_basic basicRight), Value.boolean.injEq,
    Option.any_eq_true]
  simp only [same, and_comm]

theorem holds_equal :
    Holds "==" left right ↔ ∃ order ∈ [Ordering.eq], Value.compare? left right = some order := by
  have known : meaning? "==" = some equal := rfl
  rw [holds_iff known, equal, Value.boolean.injEq, Value.looselyEqual_iff_compare? basic basicRight]
  simp

/-- A comparison holds of two values if they compare in a way that it accepts. -/
theorem holds_iff_compare? {symbol : String} {orders : List Ordering}
    (member : (symbol, orders) ∈ comparisons) :
    Holds symbol left right ↔ ∃ order ∈ orders, Value.compare? left right = some order := by
  simp only [comparisons, List.mem_cons, Prod.mk.injEq, List.not_mem_nil, or_false] at member
  obtain ⟨rfl, rfl⟩ | ⟨rfl, rfl⟩ | ⟨rfl, rfl⟩ | ⟨rfl, rfl⟩ | ⟨rfl, rfl⟩ := member
  · exact holds_ordered basic basicRight rfl (by rintro ⟨⟩ <;> decide)
  · exact holds_equal basic basicRight
  · exact holds_ordered basic basicRight rfl (by rintro ⟨⟩ <;> decide)
  · exact holds_ordered basic basicRight rfl (by rintro ⟨⟩ <;> decide)
  · exact holds_ordered basic basicRight rfl (by rintro ⟨⟩ <;> decide)

omit basic basicRight in
theorem holds_unequal : Holds "!=" left right ↔ ¬Holds "==" left right := by
  have known : meaning? "!=" = some unequal := rfl
  have same : meaning? "==" = some equal := rfl
  rw [holds_iff known, holds_iff same, unequal, equal]
  simp

theorem holds_exchange {symbol other : String} {orders turned : List Ordering}
    (first : (symbol, orders) ∈ comparisons) (second : (other, turned) ∈ comparisons)
    (turns : ∀ order, order ∈ orders ↔ order.swap ∈ turned) :
    Holds symbol right left ↔ Holds other left right := by
  rw [holds_iff_compare? basicRight basic first, holds_iff_compare? basic basicRight second]
  simp only [@Value.compare?_swap_eq_some left right]
  constructor
  · rintro ⟨order, member, found⟩
    exact ⟨order.swap, (turns order).mp member, found⟩
  · rintro ⟨order, member, found⟩
    refine ⟨order.swap, (turns order.swap).mpr ?_, ?_⟩ <;> rwa [Ordering.swap_swap]

/-- The comparisons of numbers, strings and booleans hang together, whatever their kinds. -/
theorem comparisons_agree : ComparisonsAgree left right := by
  have holds := @holds_iff_compare? left right basic basicRight
  have exchange := @holds_exchange left right basic basicRight
  have less := @holds "<" [.lt] (by decide)
  have equal := @holds "==" [.eq] (by decide)
  have greater := @holds ">" [.gt] (by decide)
  have atMost := @holds "<=" [.lt, .eq] (by decide)
  have atLeast := @holds ">=" [.gt, .eq] (by decide)
  simp only [List.mem_cons, List.not_mem_nil, or_false, exists_eq_left, exists_eq_or_imp]
    at less equal greater atMost atLeast
  constructor
  case exactlyOne =>
    intro comparable
    have ordered : Value.compare? left right ≠ none :=
      fun unordered => Value.compare?_eq_none_iff.mp unordered comparable
    obtain ⟨order, found⟩ := Option.ne_none_iff_exists'.mp ordered
    cases order with
    | lt =>
        refine ⟨"<", ⟨by decide, less.mpr found⟩, ?_⟩
        simp [less, equal, greater, found]
    | eq =>
        refine ⟨"==", ⟨by decide, equal.mpr found⟩, ?_⟩
        simp [less, equal, greater, found]
    | gt =>
        refine ⟨">", ⟨by decide, greater.mpr found⟩, ?_⟩
        simp [less, equal, greater, found]
  case never =>
    intro incomparable symbol member
    have unordered := Value.compare?_eq_none_iff.mpr incomparable
    simp only [List.mem_cons, List.not_mem_nil, or_false] at member
    rcases member with rfl | rfl | rfl | rfl | rfl <;>
      simp [less, equal, greater, atMost, atLeast, unordered]
  case atMost => rw [atMost, less, equal]
  case atLeast => rw [atLeast, greater, equal]
  case unequal => exact holds_unequal
  case exchange =>
    simp only [List.forall_mem_cons, List.not_mem_nil, false_implies, implies_true, and_true]
    refine ⟨?_, ?_, ?_, ?_, ?_⟩
    · exact @exchange "<" ">" [.lt] [.gt] (by decide) (by decide) (by rintro ⟨⟩ <;> decide)
    · exact @exchange ">" "<" [.gt] [.lt] (by decide) (by decide) (by rintro ⟨⟩ <;> decide)
    · exact @exchange "<=" ">=" [.lt, .eq] [.gt, .eq] (by decide) (by decide)
        (by rintro ⟨⟩ <;> decide)
    · exact @exchange ">=" "<=" [.gt, .eq] [.lt, .eq] (by decide) (by decide)
        (by rintro ⟨⟩ <;> decide)
    · exact @exchange "==" "==" [.eq] [.eq] (by decide) (by decide) (by rintro ⟨⟩ <;> decide)

end

/-- A number in another spelling, which is equal to it and neither less nor greater, and a string
that is no number, which does not compare with a boolean. -/
theorem comparisons_agree_mixed :
    let text : Value := .string " 0x0a"
    let ten : Value := .number 10
    let word : Value := .string "ten"
    let truth : Value := .boolean true
    text.isBasic = true ∧ ten.isBasic = true ∧ word.isBasic = true ∧ truth.isBasic = true ∧
      Holds "==" text ten ∧ ¬Holds "<" text ten ∧ ¬Holds ">" text ten ∧ Holds "<=" text ten ∧
        (∀ symbol ∈ ["<", "==", ">", "<=", ">="], ¬Holds symbol word truth) ∧
          Holds "!=" word truth := by
  intro text ten word truth
  have agree : ComparisonsAgree text ten := comparisons_agree rfl rfl
  have same : Holds "==" text ten := by
    have known : meaning? "==" = some equal := rfl
    have equal : text.looselyEqual ten = true := by
      rw [Value.looselyEqual_of_not_getter rfl rfl]
      decide +kernel
    rw [holds_iff known, Standard.equal, equal]
  have one := agree.exactlyOne (.inr ⟨by decide +kernel, by decide +kernel⟩)
  have notLess : ¬Holds "<" text ten := fun holds =>
    absurd (one.unique ⟨by decide, holds⟩ ⟨by decide, same⟩) (by decide)
  have notGreater : ¬Holds ">" text ten := fun holds =>
    absurd (one.unique ⟨by decide, holds⟩ ⟨by decide, same⟩) (by decide)
  have apart : ComparisonsAgree word truth := comparisons_agree rfl rfl
  have incomparable : ¬Value.Comparable word truth := by
    rintro (⟨first, second, -, (other : Value.boolean true = .string second)⟩ | ⟨reads, -⟩)
    · cases other
    · exact absurd reads (by decide +kernel)
  have never := apart.never incomparable
  refine ⟨rfl, rfl, rfl, rfl, same, notLess, notGreater, ?_, never, ?_⟩
  · exact agree.atMost.mpr (.inr same)
  · exact apart.unequal.mpr (never "==" (by decide))

end Reckon.Standard
