import Reckon.Pool
import Reckon.Proofs.Standard.Calls

/-!
Default bindings.  Where calls depend on nothing but what they evaluate, an evaluation reads the
bindings it is given and never the default ones of its engine, and so bindings given to one
evaluation do the same as bindings merged into the defaults of a copy.
-/

namespace Reckon

namespace Engine

def withDefaults (engine : Engine) (defaults : Table Value) : Engine :=
  { engine with defaults }

theorem setVariables_eq (engine : Engine) (bindings : Table Value) :
    engine.setVariables bindings = engine.withDefaults (Table.insertAll engine.defaults bindings) :=
  rfl

theorem evaluateIn_withDefaults {engine : Engine} (independent : engine.registry.EvaluatesOnly)
    (defaults : Table Value) (levels : Nat) (site : List Nat) (text : String)
    (bindings : Table Value) :
    (engine.withDefaults defaults).evaluateIn levels site text bindings =
      engine.evaluateIn levels site text bindings := by
  induction levels generalizing site text bindings with
  | zero => rfl
  | succ levels ih =>
      rw [evaluateIn_succ, evaluateIn_succ]
      -- only `restart` differs between the calls, and no call looks at it
      refine Frame.outcome_congr _ _ ?_
      intro name callee registered position arguments
      refine independent name callee registered _ _ ?_ arguments
      funext turn inner extra
      exact ih _ inner _

end Engine

/-- What a standard engine comes to with further bindings, its copy comes to once they are merged
into its defaults; and so does every evaluation inside, whatever its bindings.  The engine itself
stays as it was. -/
theorem Standard.evaluateWith_eq_evaluate {clock : Calendar.Moment} {options : Options}
    {engine : Engine} (built : Engine.build (registry clock) options = .ok engine)
    (bindings : Table Value) :
    let pool := ((Pool.start false engine).clone 0).update 1 (·.setVariables bindings)
    ∃ twin, pool.engine? 1 = some twin ∧ pool.engine? 0 = some engine ∧
      (∀ text, twin.evaluate text = engine.evaluateWith text bindings) ∧
      ∀ levels site text inner,
        twin.evaluateIn levels site text inner = engine.evaluateIn levels site text inner := by
  intro pool
  have independent := (sequences_of_build built).evaluatesOnly
  have same : ∀ levels site text inner,
      (engine.setVariables bindings).evaluateIn levels site text inner =
        engine.evaluateIn levels site text inner := by
    intro levels site text inner
    rw [Engine.setVariables_eq]
    exact Engine.evaluateIn_withDefaults independent _ levels site text inner
  refine ⟨engine.setVariables bindings, rfl, rfl, ?_, same⟩
  intro text
  exact same _ _ text _

/-- The expression that `map` evaluates sees a binding of the call, which wins over the default. -/
theorem Standard.evaluateWith_eq_evaluate_map :
    let engine := Engine.standardWith ⟨0, 0, 0⟩ [("x", .boolean false)] (some 5)
    let bindings : Table Value :=
      [("x", .boolean true), ("a", .array [.null]), ("s", .string "[_item_, x]")]
    let pool := ((Pool.start false engine).clone 0).update 1 (·.setVariables bindings)
    engine.evaluateWith "map(a, s)" bindings = .ok (.array [.array [.null, .boolean true]]) ∧
      (pool.engine? 1).map (·.evaluate "map(a, s)") =
        some (.ok (.array [.array [.null, .boolean true]])) ∧
      (pool.engine? 0).map (·.defaults) = some [("x", .boolean false)] := by
  intro engine bindings pool
  have value : engine.evaluateWith "map(a, s)" bindings =
      .ok (.array [.array [.null, .boolean true]]) := by
    simp only [engine, bindings]
    rfl
  have built : Engine.build (registry ⟨0, 0, 0⟩)
      { bindings := [("x", .boolean false)], limit := some 5 } = .ok engine := rfl
  obtain ⟨twin, second, first, same, -⟩ := evaluateWith_eq_evaluate built bindings
  refine ⟨value, ?_, ?_⟩
  · rw [second, Option.map_some, same, value]
  · rw [first]
    rfl

end Reckon
