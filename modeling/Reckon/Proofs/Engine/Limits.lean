import Reckon.Proofs.Grammar.Limit
import Reckon.Proofs.Standard.Calls

/-!
Limits on nesting over evaluations inside each other.  Under a looser limit an evaluation has the
same outcome unless it is the error that the tighter limit was exceeded, and that error names the
limit.
-/

namespace Reckon

open Outcome Parse Production

def Engine.limitedTo (engine : Engine) (limit : Option Nat) : Engine :=
  { engine with limit }

/-- Results under a limit and under a looser one that are the same, or the limit was exceeded. -/
def Outcome.SameUnlessTooDeep (limit : Nat) {α : Type} (results : Bool → Except Fault α) : Prop :=
  results true = results false ∨ results true = .error (.raised (.nestingTooDeep limit))

theorem Outcome.sequential_sameUnlessTooDeep (limit : Nat) :
    Sequential fun results : Bool → Except Fault _ => SameUnlessTooDeep limit results where
  settled := fun _ => .inl rfl
  bind := by
    intro α β first next before after
    change first true >>= next true = first false >>= next false ∨
      first true >>= next true = .error (.raised (.nestingTooDeep limit))
    rcases before with same | deep
    · rcases read : first false with fault | value
      · left
        rw [same, read]
        rfl
      · rw [same, read]
        exact after value
    · right
      rw [deep]
      rfl

/-- A result that, if it is the error of a limit, names this one. -/
def Outcome.Names (limit : Nat) {α : Type} (result : Except Fault α) : Prop :=
  ∀ named, result = .error (.raised (.nestingTooDeep named)) → named = limit

theorem Outcome.Ordinary.names {α : Type} {result : Except Fault α} (ordinary : Ordinary result)
    (limit : Nat) : Names limit result := by
  intro named same
  exact absurd same (ordinary.2 named)

theorem Outcome.Names.bind {limit : Nat} {α β : Type} {first : Except Fault α}
    {next : α → Except Fault β} (before : Names limit first)
    (after : ∀ value, Names limit (next value)) : Names limit (first >>= next) := by
  cases first with
  | ok value => exact after value
  | error fault =>
      intro named same
      cases same
      exact before named rfl

theorem Outcome.sequential_names (limit : Nat) :
    Sequential fun results : Unit → Except Fault _ => Names limit (results ()) where
  settled := fun ordinary => ordinary.names limit
  bind := fun before after => before.bind after

def Registry.Operates (registry : Registry) : Prop :=
  ∀ result, registry.Gives result → Shallow result

/-- If calls name the limit of a frame, its outcome does. -/
theorem Frame.names_outcome {frame : Frame} {limit : Nat} (limited : frame.limit = some limit)
    (operates : frame.registry.Operates)
    (calls : ∀ name callee, frame.registry.function? name = some callee → ∀ position arguments,
      Names limit (frame.invoke position callee arguments)) :
    Names limit frame.outcome := by
  have invariant : Invariant frame (fun _ : Unit => some limit) (fun _ => frame.invoke)
      fun readers => ∀ position, Names limit (readers () position).1 := {
    settled := fun reader settled position => (settled position).names limit
    exhausted := fun _ => nofun
    bind := by
      intro α β first next before after position
      change Names limit ((first () >>= next ()) position).1
      have here := before position
      rcases bind_cases (first ()) (next ()) position with
        ⟨fault, reached, read, whole⟩ | ⟨value, reached, read, whole⟩
      · rw [read] at here
        rw [whole]
        intro named same
        cases same
        exact here named rfl
      · rw [whole]
        exact after value reached
    nested := by
      intro depth inner within position
      change Names limit (nested (frame.vary (some limit) frame.invoke) depth (inner ()) position).1
      by_cases deep : limit < depth + 1
      · simp [nested, deep, Names]
      · simpa [nested, deep] using within (depth + 1) position
    operated := by
      intro result gives position named same
      have shallow := operates result gives
      cases result with
      | ok value => cases same
      | error error =>
          cases same
          exact absurd rfl (shallow named)
    invoke := by
      rintro position callee arguments ⟨name, registered⟩ start
      exact calls name callee registered position arguments }
  have whole := invariant.formula 0
  rw [Frame.vary_limited limited] at whole
  exact whole

namespace Engine

variable {engine : Engine} {limit : Nat} (sequences : engine.registry.Sequences)

include sequences

/-- With as many evaluations inside each other, a looser limit gives the same outcome, or the
tighter limit was exceeded. -/
theorem evaluateIn_eq_or_tooDeep {looser : Option Nat} (wider : Looser limit looser) (levels : Nat)
    (site : List Nat) (text : String) (bindings : Table Value) :
    (engine.limitedTo (some limit)).evaluateIn levels site text bindings =
        (engine.limitedTo looser).evaluateIn levels site text bindings ∨
      (engine.limitedTo (some limit)).evaluateIn levels site text bindings =
        raise (.nestingTooDeep limit) := by
  induction levels generalizing site text bindings with
  | zero => exact .inl rfl
  | succ levels ih =>
      let tokens := (engine.tokens text).toArray
      let limits (tight : Bool) := if tight then some limit else looser
      let call (position : Nat) (tight : Bool) :=
        (engine.limitedTo (limits tight)).call levels site tokens bindings position
      have invariant : Invariant (engine.frame levels site tokens bindings) limits
          (fun tight position callee arguments => callee (call position tight) arguments)
          (Reckon.SameUnlessTooDeep limit) := by
        apply sameUnlessTooDeep_invariant _ _ wider
        intro name callee registered position arguments
        have asks : ∀ turn text extra, Outcome.SameUnlessTooDeep limit fun tight =>
            (call position tight).evaluate turn text extra := fun turn text extra => ih _ text _
        exact sequences Bool _ (sequential_sameUnlessTooDeep limit) name callee registered
          (call position) asks arguments
      rcases invariant.formula 0 with same | deep
      · exact .inl (congrArg Prod.fst same)
      · exact .inr deep

theorem names_evaluateIn (operates : engine.registry.Operates) (levels : Nat) (site : List Nat)
    (text : String) (bindings : Table Value) :
    Names limit ((engine.limitedTo (some limit)).evaluateIn levels site text bindings) := by
  induction levels generalizing site text bindings with
  | zero => nofun
  | succ levels ih =>
      rw [evaluateIn_succ]
      have limited : ((engine.limitedTo (some limit)).frame levels site
          (engine.tokens text).toArray bindings).limit = some limit := rfl
      apply Frame.names_outcome limited operates
      intro name callee registered position arguments
      let call := (engine.limitedTo (some limit)).call levels site (engine.tokens text).toArray
        bindings position
      have asks : ∀ turn text extra, Names limit (call.evaluate turn text extra) :=
        fun turn text extra => ih _ text _
      exact sequences Unit _ (sequential_names limit) name callee registered (fun _ => call) asks
        arguments

end Engine

namespace Standard

theorem operates_of_build {clock : Calendar.Moment} {options : Options} {engine : Engine}
    (built : Engine.build (registry clock) options = .ok engine)
    (own : ∀ entry ∈ options.unaryOperators, ∀ operand, Shallow (entry.2 operand)) :
    engine.registry.Operates := by
  rintro result (⟨registered, operand⟩ | ⟨registered, left, right⟩)
  · rcases unaryOperator_cases built registered with added | ⟨meaning, -, rfl⟩
    · exact own _ added operand
    · exact shallow_ok _
  · obtain ⟨precedence, meaning, -, rfl⟩ := operator_cases built registered
    exact shallow_ok _

/-- A standard engine, whatever its options, comes under any looser limit and under none to what it
comes to under a limit, unless that is the error of a limit; and this error names the limit that
is set, in evaluations inside the evaluation too, if no operator among the options raises it. -/
theorem evaluateIn_of_limit {clock : Calendar.Moment} {options : Options} {engine : Engine}
    (built : Engine.build (registry clock) options = .ok engine) (limit levels : Nat)
    (site : List Nat) (text : String) (bindings : Table Value) :
    let outcome := fun limit => (engine.limitedTo limit).evaluateIn levels site text bindings
    ((∀ named, outcome (some limit) ≠ raise (.nestingTooDeep named)) →
        (∀ higher, limit ≤ higher → outcome (some higher) = outcome (some limit)) ∧
          outcome none = outcome (some limit)) ∧
      ((∀ entry ∈ options.unaryOperators, ∀ operand, Shallow (entry.2 operand)) →
        ∀ named, outcome (some limit) = raise (.nestingTooDeep named) → named = limit) := by
  intro outcome
  have sequences := sequences_of_build built
  refine ⟨?_, ?_⟩
  · intro other
    have same : ∀ looser, Looser limit looser → outcome looser = outcome (some limit) := by
      intro looser wider
      rcases Engine.evaluateIn_eq_or_tooDeep sequences wider levels site text bindings with
        same | deep
      · exact same.symm
      · exact absurd deep (other limit)
    exact ⟨fun higher le => same (some higher) le, same none trivial⟩
  · intro own
    have operates := operates_of_build built own
    exact Engine.names_evaluateIn sequences operates levels site text bindings

/-- Under a limit of two an expression of two levels has its value, as under three and under none;
one of three levels that `map` evaluates is too deep. -/
theorem evaluateIn_of_limit_two :
    (Engine.standardWith ⟨0, 0, 0⟩ [] (some 2)).evaluateIn 2 [] "(true)" [] = .ok (.boolean true) ∧
      (Engine.standardWith ⟨0, 0, 0⟩ [] (some 3)).evaluateIn 2 [] "(true)" [] =
        .ok (.boolean true) ∧
      (Engine.standardWith ⟨0, 0, 0⟩ [] none).evaluateIn 2 [] "(true)" [] = .ok (.boolean true) ∧
      (Engine.standardWith ⟨0, 0, 0⟩ [] (some 2)).evaluateIn 2 [] "map(a, s)"
          [("a", .array [.null]), ("s", .string "((true))")] = raise (.nestingTooDeep 2) ∧
      ∀ named, (Engine.standardWith ⟨0, 0, 0⟩ [] (some 2)).evaluateIn 2 [] "map(a, s)"
          [("a", .array [.null]), ("s", .string "((true))")] = raise (.nestingTooDeep named) →
        named = 2 := by
  have built := Engine.build_standard ⟨0, 0, 0⟩ [] none
  have two : (Engine.standardWith ⟨0, 0, 0⟩ [] (some 2)).evaluateIn 2 [] "(true)" [] =
      .ok (.boolean true) := rfl
  obtain ⟨looser, -⟩ := evaluateIn_of_limit built 2 2 [] "(true)" []
  obtain ⟨higher, unlimited⟩ := looser (by
    intro named same
    cases two.symm.trans same)
  obtain ⟨-, names⟩ := evaluateIn_of_limit built 2 2 [] "map(a, s)"
    [("a", .array [.null]), ("s", .string "((true))")]
  refine ⟨two, ?_, ?_, rfl, names nofun⟩
  · exact (higher 3 (by decide)).trans two
  · exact unlimited.trans two

end Standard

end Reckon
