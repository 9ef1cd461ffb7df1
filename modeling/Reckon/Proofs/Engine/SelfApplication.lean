import Reckon.Proofs.Formula.Agreement
import Reckon.Proofs.Standard.Calls

/-!
A text that evaluates itself.  `map(a, s)` evaluates the text that `s` is bound to, with the same
bindings and an element of `a`; if that text is `map(a, s)` again, there is no end.
-/

namespace Reckon

open Parse Production Formula

namespace Production

variable {frame : Frame} {fuel depth position stop : Nat} {token : String} {value : Value}

theorem run_name (named : role frame.registry token = .name)
    (found : Grammar.lookup frame.bindings token = .ok value) :
    run frame (fuel + 1) depth (.unary token) position = (.ok value, position + 1) := by
  rw [run_succ, step, unaryOrFactor_of_name _ _ named, Production.name, advance_bind, found]
  rfl

theorem run_function {callee : Callable} (called : role frame.registry token = .function)
    (registered : frame.registry.function? token = some callee)
    (opened : frame.tokens[position + 1]? = some "(") :
    run frame (fuel + 1) depth (.unary token) position =
      run frame fuel depth (.arguments callee []) (position + 2) := by
  obtain ⟨other, found, same⟩ := unaryOrFactor_of_function (run frame fuel) depth called
  cases registered.symm.trans found
  rw [run_succ, step, same, callOf, advance_bind, expect_bind, if_pos opened]

/-- A unary factor is an expression if the limit allows one level more and no operator follows. -/
theorem run_expression {floor : Precedence} {result : Outcome}
    (room : ∀ limit, frame.limit = some limit → depth < limit)
    (here : frame.tokens[position]? = some token)
    (read : run frame (fuel + 1) (depth + 1) (.unary token) position = (result, stop))
    (ends : ∀ next, frame.tokens[stop]? = some next → frame.registry.operator? next = none) :
    run frame (fuel + 2) depth (.expression floor) position = (result, stop) := by
  have first : operand frame (run frame (fuel + 1)) (depth + 1) position = (result, stop) := by
    rw [operand, current_bind, here]
    exact read
  have rest : ∀ value, run frame (fuel + 1) (depth + 1) (.tail value floor) stop =
      (.ok value, stop) := by
    intro value
    rw [run_succ, step, climb, current_bind]
    rcases next : frame.tokens[stop]? with _ | token
    · rfl
    · simp [ends token next]
  have deeper : ∀ inner, nested frame depth inner = inner (depth + 1) := by
    intro inner
    unfold nested
    split
    · rename_i limit limited
      exact if_neg (Nat.not_lt.mpr (room limit limited))
    · rfl
  rw [run_succ, step, deeper]
  cases result with
  | error fault => exact bind_of_error first
  | ok value => exact (bind_of_ok first).trans (rest value)

section

variable {callee : Callable} {done : List Value}

theorem run_arguments_closed (closed : frame.tokens[position]? = some ")") :
    run frame (fuel + 1) depth (.arguments callee done) position =
      (frame.invoke (position + 1) callee done.reverse, position + 1) := by
  rw [run_succ, step, restOfArguments, current_bind, if_pos closed]
  simp

variable (more : frame.tokens[position]? ≠ some ")")
  (read : run frame fuel depth (.expression 0) position = (.ok value, stop))

include more read

theorem run_arguments_comma (comma : frame.tokens[stop]? = some ",")
    (another : frame.tokens[stop + 1]? ≠ some ")") :
    run frame (fuel + 1) depth (.arguments callee done) position =
      run frame fuel depth (.arguments callee (value :: done)) (stop + 1) := by
  rw [run_succ, step, restOfArguments, current_bind, if_neg more, bind_of_ok read]
  simp [comma, another]

theorem run_arguments_last (last : frame.tokens[stop]? ≠ some ",") :
    run frame (fuel + 1) depth (.arguments callee done) position =
      run frame fuel depth (.arguments callee (value :: done)) stop := by
  rw [run_succ, step, restOfArguments, current_bind, if_neg more, bind_of_ok read]
  simp [last]

end

end Production

/-- The call of a function on two names comes down to the call, if the limit allows arguments. -/
theorem Frame.outcome_of_names {frame : Frame} {function first second : String} {callee : Callable}
    {left right : Value} (tokens : frame.tokens = #[function, "(", first, ",", second, ")"])
    (called : role frame.registry function = .function)
    (registered : frame.registry.function? function = some callee)
    (firstNamed : role frame.registry first = .name)
    (firstFound : Grammar.lookup frame.bindings first = .ok left)
    (secondNamed : role frame.registry second = .name)
    (secondFound : Grammar.lookup frame.bindings second = .ok right)
    (plain : frame.registry.operator? "," = none ∧ frame.registry.operator? ")" = none)
    (closing : role frame.registry ")" = .refused)
    (room : ∀ limit, frame.limit = some limit → 2 ≤ limit) :
    frame.outcome = frame.invoke 6 callee [left, right] := by
  have other : ∀ name, role frame.registry name = .name → some name ≠ some ")" := by
    intro name named same
    cases same
    rw [closing] at named
    cases named
  have before : run frame 19 1 (.expression 0) 2 = (.ok left, 3) := by
    apply run_expression room (tokens ▸ rfl) (run_name firstNamed firstFound)
    simp [tokens, plain]
  have after : run frame 18 1 (.expression 0) 4 = (.ok right, 5) := by
    apply run_expression room (tokens ▸ rfl) (run_name secondNamed secondFound)
    simp [tokens, plain]
  have read : run frame 21 1 (.unary function) 0 = (frame.invoke 6 callee [left, right], 6) := by
    rw [run_function called registered (tokens ▸ rfl)]
    rw [run_arguments_comma (by simpa [tokens] using other first firstNamed) before
      (by simp [tokens]) (by simpa [tokens] using other second secondNamed)]
    rw [run_arguments_last (by simpa [tokens] using other second secondNamed) after
      (by simp [tokens])]
    exact run_arguments_closed (by simp [tokens])
  have whole : frame.expression 0 0 0 = (frame.invoke 6 callee [left, right], 6) := by
    have fuel : fuelFor frame.tokens.size = 22 := by
      rw [tokens]
      rfl
    rw [Frame.expression, fuel]
    apply run_expression _ (tokens ▸ rfl) read
    · simp [tokens]
    · intro limit limited
      exact Nat.lt_of_lt_of_le Nat.zero_lt_two (room limit limited)
  have ended : Parse.ended (frame.expression 0 0) 0 =
      (frame.invoke 6 callee [left, right] >>= fun value => .ok (value, 6)) := by
    unfold Parse.ended
    rw [whole]
    cases frame.invoke 6 callee [left, right] <;> rfl
  rw [Frame.outcome_eq_bind, ended]
  simp [tokens]

/-- Self-application is unfinished at every level and under every limit that allows arguments. -/
theorem Standard.unfinished_of_selfApplication (clock : Calendar.Moment) (defaults : Table Value)
    (limit : Option Nat) (room : ∀ most, limit = some most → 2 ≤ most) {element : Value}
    {others : List Value} (levels : Nat) (site : List Nat) (bindings : Table Value)
    (array : Table.get? bindings "a" = some (.array (element :: others)))
    (self : Table.get? bindings "s" = some (.string "map(a, s)")) :
    (Engine.standardWith clock defaults limit).evaluateIn levels site "map(a, s)" bindings =
      .error .unfinished := by
  induction levels generalizing site bindings with
  | zero => rfl
  | succ levels ih =>
      have found : Grammar.lookup bindings "a" = .ok (.array (element :: others)) ∧
          Grammar.lookup bindings "s" = .ok (.string "map(a, s)") := by
        simp [Grammar.lookup, array, self]
      have kept : ∀ key, key ≠ "_item_" → key ≠ "_index_" →
          Table.get? (Table.insertAll bindings (itemBindings 0 element)) key =
            Table.get? bindings key := by
        intro key item index
        simp [Table.get?_insertAll, itemBindings, Table.get?, item.symm, index.symm]
      have inner := fun site => ih site (Table.insertAll bindings (itemBindings 0 element))
        ((kept "a" (by decide) (by decide)).trans array)
        ((kept "s" (by decide) (by decide)).trans self)
      have tokens : (Engine.standardWith clock defaults limit).tokens "map(a, s)" =
          ["map", "(", "a", ",", "s", ")"] := rfl
      rw [Engine.evaluateIn_succ, tokens]
      refine (Frame.outcome_of_names rfl rfl rfl rfl found.1 rfl found.2 ⟨rfl, rfl⟩
        rfl room).trans ?_
      simp [Engine.frame, mapEach, itemArguments, checkArity, arrayArgument, stringArgument,
        argument, raised, mapItems, evaluateItem, Engine.call, inner, Value.force]

end Reckon
