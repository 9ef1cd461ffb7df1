import Reckon.Options
import Reckon.Proofs.Engine.Frame
import Reckon.Proofs.Standard.Sequences

/-!
What the standard functions see of a call: the texts that they evaluate, and neither the tokens nor
the place of the call.
-/

namespace Reckon

/-- Calls of registered functions depend on nothing but what they evaluate. -/
def Registry.EvaluatesOnly (registry : Registry) : Prop :=
  ∀ name callee, registry.function? name = some callee → ∀ first second : Call,
    first.evaluate = second.evaluate → ∀ arguments, callee first arguments = callee second arguments

theorem Registry.Sequences.evaluatesOnly {registry : Registry} (sequences : registry.Sequences) :
    registry.EvaluatesOnly := by
  intro name callee found first second same arguments
  have sequential : Sequential fun results : Bool → Except Fault _ =>
      results true = results false := {
    settled := fun _ => rfl
    bind := by
      intro α β before next here after
      have rest : next true = next false := funext after
      change before true >>= next true = before false >>= next false
      rw [here, rest] }
  refine sequences Bool _ sequential name callee found (fun one => if one then first else second)
    ?_ arguments
  intro turn text extra
  exact congrFun (congrFun (congrFun same turn) text) extra

theorem Standard.evaluatesOnly (clock : Calendar.Moment) : (registry clock).EvaluatesOnly :=
  (sequences clock).evaluatesOnly

def Engine.standardWith (clock : Calendar.Moment) (defaults : Table Value) (limit : Option Nat) :
    Engine :=
  { Engine.standard clock with defaults, limit }

theorem Engine.build_standard (clock : Calendar.Moment) (defaults : Table Value)
    (limit : Option Nat) :
    Engine.build (Standard.registry clock) { bindings := defaults, limit } =
      .ok (Engine.standardWith clock defaults limit) := rfl

theorem Engine.registry_of_build {registry : Registry} {options : Options} {engine : Engine}
    (built : Engine.build registry options = .ok engine) :
    engine.registry =
      (registry.setPrecedences options.precedences).setUnaryOperators options.unaryOperators := by
  unfold Engine.build at built
  split at built <;> cases built
  rfl

theorem Standard.sequences_of_build {clock : Calendar.Moment} {options : Options} {engine : Engine}
    (built : Engine.build (registry clock) options = .ok engine) : engine.registry.Sequences := by
  rw [Engine.registry_of_build built]
  exact sequences clock

/-- A unary operator of a standard engine is one of the options or a standard one. -/
theorem Standard.unaryOperator_cases {clock : Calendar.Moment} {options : Options} {engine : Engine}
    (built : Engine.build (registry clock) options = .ok engine) {symbol : String}
    {operator : UnaryOperator}
    (registered : engine.registry.unaryOperator? symbol = some operator) :
    (symbol, operator) ∈ options.unaryOperators ∨
      ∃ meaning, (symbol, meaning) ∈ unaryOperators ∧
        operator = fun operand => .ok (meaning operand) := by
  have standard : (registry clock).unaryOperators =
      unaryOperators.map fun entry => (entry.1, fun operand => .ok (entry.2 operand)) := rfl
  rw [Engine.registry_of_build built] at registered
  rcases Table.mem_of_get?_insertAll registered with added | found
  · exact .inl added
  · obtain ⟨⟨symbol, meaning⟩, member, same⟩ := List.mem_map.mp (standard ▸ Table.mem_of_get? found)
    cases same
    exact .inr ⟨meaning, member, rfl⟩

theorem Standard.operator_cases {clock : Calendar.Moment} {options : Options} {engine : Engine}
    (built : Engine.build (registry clock) options = .ok engine) {symbol : String}
    {operator : BinaryOperator} (registered : engine.registry.operator? symbol = some operator) :
    ∃ precedence meaning, (symbol, precedence, meaning) ∈ binaryOperators ∧
      operator = fun left right => .ok (meaning left right) := by
  have standard : (registry clock).operators = binaryOperators.map fun entry =>
      (entry.1, fun left right => .ok (entry.2.2 left right)) := rfl
  rw [Engine.registry_of_build built] at registered
  obtain ⟨⟨symbol, precedence, meaning⟩, member, same⟩ :=
    List.mem_map.mp (standard ▸ Table.mem_of_get? registered)
  cases same
  exact ⟨precedence, meaning, member, rfl⟩

open Parse Production

/-- Frames whose calls of registered functions give the same have the same outcome. -/
theorem Frame.outcome_congr (frame : Frame) (invoke : Nat → Callable → List Value → Outcome)
    (same : ∀ name callee, frame.registry.function? name = some callee → ∀ position arguments,
      frame.invoke position callee arguments = invoke position callee arguments) :
    frame.outcome = (frame.vary frame.limit invoke).outcome := by
  have invariant : Invariant frame (fun _ : Bool => frame.limit)
      (fun first => if first then frame.invoke else invoke)
      (fun readers => readers true = readers false) := {
    settled := fun _ _ => rfl
    exhausted := rfl
    bind := by
      intro α β first next before after
      have rest : next true = next false := funext after
      change first true >>= next true = first false >>= next false
      rw [before, rest]
    nested := by
      intro depth inner within
      have same : inner true = inner false := funext within
      exact congrArg (nested frame depth) same
    operated := fun _ => rfl
    invoke := by
      rintro position callee arguments ⟨name, registered⟩
      exact congrArg lift (same name callee registered position arguments) }
  exact congrArg Prod.fst (congrFun invariant.formula 0)

namespace Engine

variable {engine : Engine} (independent : engine.registry.EvaluatesOnly)

include independent

/-- Where calls depend on nothing but what they evaluate, an outcome does not depend on its site. -/
theorem evaluateIn_site (levels : Nat) (site other : List Nat) (text : String)
    (bindings : Table Value) :
    engine.evaluateIn levels site text bindings = engine.evaluateIn levels other text bindings := by
  induction levels generalizing site other text bindings with
  | zero => rfl
  | succ levels ih =>
      rw [evaluateIn_succ, evaluateIn_succ]
      refine Frame.outcome_congr _ _ ?_
      intro name callee registered position arguments
      refine independent name callee registered _ _ ?_ arguments
      funext turn inner extra
      exact ih _ _ _ _

theorem call_congr {name : String} {callee : Callable}
    (registered : engine.registry.function? name = some callee) (levels : Nat)
    (site other : List Nat) (first second : Array String) (bindings : Table Value)
    (position place : Nat) (arguments : List Value) :
    callee (engine.call levels site first bindings position) arguments =
      callee (engine.call levels other second bindings place) arguments := by
  refine independent name callee registered _ _ ?_ arguments
  funext turn inner extra
  exact evaluateIn_site independent levels _ _ _ _

end Engine

end Reckon
