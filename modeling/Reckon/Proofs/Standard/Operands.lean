import Mathlib
import Reckon.Proofs.Standard.Calls
import Reckon.Proofs.Value.Getters

/-!
Operands behind getters.  Most standard operators go by the readings of their operands and see
through chains of getters.  Addition and the orderings look at the kinds of their operands, and they
ask once before they look: what stands behind two getters or more has a reading for them, but no
kind.
-/

namespace Reckon.Standard

open Value

def shows (value : Value) : Bool :=
  !value.force.isGetter

theorem toNumber_force (value : Value) : value.force.toNumber = value.toNumber := by
  cases value <;> rfl

theorem display_force (value : Value) : value.force.display = value.display := by
  cases value <;> rfl

theorem resolved_force (value : Value) : value.force.resolved = value.resolved := by
  cases value <;> rfl

theorem force_of_shows {value : Value} (shown : shows value = true) :
    value.force = value.resolved := by
  have plain : value.force.isGetter = false := by simpa [shows] using shown
  rw [← resolved_of_not_getter plain, resolved_force]

theorem isTextual_force (value : Value) :
    isTextual value.force = (shows value && isTextual value.resolved) := by
  cases shown : shows value with
  | true => rw [force_of_shows shown, Bool.true_and]
  | false =>
      have getter : value.force.isGetter = true := by simpa [shows] using shown
      rw [Bool.false_and]
      cases asked : value.force with
      | getter identity yielded => rfl
      | _ => simp [asked, isGetter] at getter

theorem compare?_force (left right : Value) :
    compare? left.force right.force =
      if shows left && shows right then compare? left.resolved right.resolved
      else compareNumbers left.toNumber right.toNumber := by
  split
  · rename_i shown
    obtain ⟨shown, shownRight⟩ := Bool.and_eq_true_iff.mp shown
    rw [force_of_shows shown, force_of_shows shownRight]
  · rename_i hidden
    unfold compare?
    split
    · rename_i first second
      exfalso
      apply hidden
      simp_all [shows, isGetter]
    · rw [toNumber_force, toNumber_force]

/-- A text makes `+` join unless getters hide it. -/
theorem add_eq (left right : Value) :
    add left right =
      if (shows left && isTextual left.resolved) || (shows right && isTextual right.resolved) then
        .string (left.display ++ right.display)
      else .number (left.toNumber + right.toNumber) := by
  rw [← isTextual_force, ← isTextual_force, ← display_force left, ← display_force right,
    ← toNumber_force left, ← toNumber_force right]
  rfl

/-- Two texts are ordered by their characters unless getters hide one of them. -/
theorem ordered_eq (accepts : Ordering → Bool) (left right : Value) :
    ordered accepts left right =
      .boolean ((if shows left && shows right then compare? left.resolved right.resolved
        else compareNumbers left.toNumber right.toNumber).any accepts) := by
  rw [ordered, compare?_force]

def kindReaders : List String := ["+", "<", ">", "<=", ">="]

/-- What the standard operators give for operands behind getters, next to what they give for the
operands themselves. -/
structure SeesThrough (left right covered hidden : Value) : Prop where
  unary : ∀ symbol meaning, (symbol, meaning) ∈ unaryOperators → meaning covered = meaning left
  /-- Readings see through all getters. -/
  reads : ∀ symbol precedence meaning, (symbol, precedence, meaning) ∈ binaryOperators →
    symbol ∉ kindReaders → meaning covered hidden = meaning left right
  /-- Every operator sees through one getter on either side. -/
  asks : shows covered = true → shows hidden = true → ∀ symbol precedence meaning,
    (symbol, precedence, meaning) ∈ binaryOperators → meaning covered hidden = meaning left right
  /-- A text behind more getters does not make `+` join, but is read as a number. -/
  adds : add covered hidden =
    if (shows covered && isTextual left.resolved) || (shows hidden && isTextual right.resolved) then
      .string (left.display ++ right.display)
    else .number (left.toNumber + right.toNumber)
  /-- A text behind more getters is ordered by its numeric reading. -/
  orders : ∀ accepts, ordered accepts covered hidden =
    .boolean ((if shows covered && shows hidden then compare? left.resolved right.resolved
      else compareNumbers left.toNumber right.toNumber).any accepts)

section

variable {left right covered hidden : Value} (chain : Behind left covered)
  (further : Behind right hidden)

include chain

theorem shows_of_behind (shown : shows covered = true) : shows left = true := by
  cases chain with
  | bare => exact shown
  | @getter wrapped identity inner =>
      have plain : wrapped.isGetter = false := by simpa [shows, force] using shown
      cases inner with
      | bare => rw [shows, force_of_not_getter plain, plain, Bool.not_false]
      | getter other inner => cases plain

theorem unary_behind {symbol : String} {meaning : Value → Value}
    (member : (symbol, meaning) ∈ unaryOperators) : meaning covered = meaning left := by
  simp only [unaryOperators, List.mem_cons, Prod.mk.injEq, List.not_mem_nil, or_false] at member
  rcases member with ⟨-, rfl⟩ | ⟨-, rfl⟩
  · rw [complement, complement, chain.isTruthy]
  · rw [negate, negate, chain.toNumber]

include further

theorem numeric_behind (operation : Float → Float → Float) :
    numeric operation covered hidden = numeric operation left right := by
  rw [numeric, numeric, chain.toNumber, further.toNumber]

theorem add_behind : add covered hidden =
    if (shows covered && isTextual left.resolved) || (shows hidden && isTextual right.resolved) then
      .string (left.display ++ right.display)
    else .number (left.toNumber + right.toNumber) := by
  rw [add_eq, chain.resolved, further.resolved, chain.display, further.display, chain.toNumber,
    further.toNumber]

theorem ordered_behind (accepts : Ordering → Bool) : ordered accepts covered hidden =
    .boolean ((if shows covered && shows hidden then compare? left.resolved right.resolved
      else compareNumbers left.toNumber right.toNumber).any accepts) := by
  rw [ordered_eq, chain.resolved, further.resolved, chain.toNumber, further.toNumber]

variable (formed : left.WellFormed) (formedRight : right.WellFormed)

include formed formedRight

theorem binary_behind {symbol : String} {precedence : Precedence} {meaning : Value → Value → Value}
    (member : (symbol, precedence, meaning) ∈ binaryOperators)
    (either : symbol ∉ kindReaders ∨ shows covered = true ∧ shows hidden = true) :
    meaning covered hidden = meaning left right := by
  have kind : symbol ∈ kindReaders → shows covered = true ∧ shows hidden = true :=
    fun reader => either.resolve_left fun missing => missing reader
  have orders {accepts : Ordering → Bool} (reader : symbol ∈ kindReaders) :
      ordered accepts covered hidden = ordered accepts left right := by
    obtain ⟨shown, shownRight⟩ := kind reader
    rw [ordered_behind chain further, ordered_eq, shown, shownRight, shows_of_behind chain shown,
      shows_of_behind further shownRight]
  simp only [binaryOperators, List.mem_cons, Prod.mk.injEq, List.not_mem_nil, or_false] at member
  rcases member with ⟨rfl, -, rfl⟩ | ⟨rfl, -, rfl⟩ | ⟨rfl, -, rfl⟩ | ⟨rfl, -, rfl⟩ |
    ⟨rfl, -, rfl⟩ | ⟨rfl, -, rfl⟩ | ⟨rfl, -, rfl⟩ | ⟨rfl, -, rfl⟩ | ⟨rfl, -, rfl⟩ |
    ⟨rfl, -, rfl⟩ | ⟨rfl, -, rfl⟩ | ⟨rfl, -, rfl⟩ | ⟨rfl, -, rfl⟩ | ⟨rfl, -, rfl⟩
  · rw [disjunction, disjunction, chain.isTruthy, further.isTruthy]
  · rw [conjunction, conjunction, chain.isTruthy, further.isTruthy]
  · rw [equal, equal, chain.looselyEqual further formed formedRight]
  · rw [unequal, unequal, chain.looselyEqual further formed formedRight]
  · exact orders (by decide)
  · exact orders (by decide)
  · exact orders (by decide)
  · exact orders (by decide)
  · obtain ⟨shown, shownRight⟩ := kind (by decide)
    rw [add_behind chain further, add_eq, shown, shownRight, shows_of_behind chain shown,
      shows_of_behind further shownRight]
  · exact numeric_behind chain further _
  · exact numeric_behind chain further _
  · exact numeric_behind chain further _
  · exact numeric_behind chain further _
  · exact numeric_behind chain further _

/-- All operators see through one getter on either side, and most through any chain of them; `+` and
the orderings read as a number what more than one getter hides. -/
theorem operators_behind_getters : SeesThrough left right covered hidden where
  unary _ _ := unary_behind chain
  reads _ _ _ member other := binary_behind chain further formed formedRight member (.inl other)
  asks shown shownRight _ _ _ member :=
    binary_behind chain further formed formedRight member (.inr ⟨shown, shownRight⟩)
  adds := add_behind chain further
  orders := ordered_behind chain further

end

/-- A text behind two getters beside one behind a single getter: `+` joins, for it sees the one
text, and the first is not less than the second, for it is read as a number. -/
theorem operators_behind_getters_texts :
    let text : Value := .string "b"
    let other : Value := .string "c"
    let covered : Value := .getter (.supplied 0) (.getter (.supplied 1) text)
    let hidden : Value := .getter (.supplied 2) other
    text.WellFormed ∧ other.WellFormed ∧ Behind text covered ∧ Behind other hidden ∧
      add covered hidden = .string "bc" ∧ ordered (· == .lt) text other = .boolean true ∧
        ordered (· == .lt) covered hidden = .boolean false ∧
          unequal covered hidden = unequal text other := by
  intro text other covered hidden
  have chain : Behind text covered := .getter _ (.getter _ .bare)
  have further : Behind other hidden := .getter _ .bare
  have formed : ∀ text : String, WellFormed (.string text) := by
    rintro text entries ⟨⟩
  have sees := operators_behind_getters chain further (formed "b") (formed "c")
  refine ⟨formed "b", formed "c", chain, further, sees.adds, by rfl, ?_, ?_⟩
  · rw [sees.orders]
    refine congrArg Value.boolean ?_
    decide +kernel
  · exact sees.reads "!=" 3 unequal (by simp [binaryOperators]) (by decide)

/-- Behind two getters a text does not make `+` join, though it does by itself. -/
theorem evaluateIn_hidden_text :
    let text : Value := .string "t"
    let hidden : Value := .getter (.supplied 0) (.getter (.supplied 1) text)
    let engine := Engine.standardWith ⟨0, 0, 0⟩ [] none
    Behind text hidden ∧ ("+", 5, add) ∈ binaryOperators ∧
      engine.evaluateIn 1 [] "a.b + 1" [("a", .object [("b", text)])] = .ok (.string "t1") ∧
        engine.evaluateIn 1 [] "a.b + 1" [("a", .object [("b", hidden)])] =
          .ok (.number Binary64.notANumber) := by
  intro text hidden engine
  refine ⟨.getter _ (.getter _ .bare), by simp [binaryOperators], ?_, ?_⟩
  · simp only [engine, text]
    rfl
  · simp only [engine, hidden, text]
    rfl

end Reckon.Standard
