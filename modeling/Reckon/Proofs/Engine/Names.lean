import Reckon.Proofs.Engine.Frame
import Reckon.Proofs.Grammar.Names

/-!
A formula depends only on the names that its tokens mention.
-/

namespace Reckon

/-- The functions look at their arguments and at nothing of the evaluation that calls them. -/
def Registry.IgnoresCalls (registry : Registry) : Prop :=
  ∀ name callee, registry.function? name = some callee →
    ∀ (first second : Call) (arguments : List Value),
      callee first arguments = callee second arguments

namespace Engine

variable {engine : Engine} {text : String} {first second : Table Value}

theorem alike_of_mentions (ignores : engine.registry.IgnoresCalls) (levels : Nat)
    (site : List Nat)
    (agree : Table.AgreeOn (fun name => ∃ token ∈ engine.tokens text, Grammar.Mentions token name)
      first second) :
    (engine.frame levels site (engine.tokens text).toArray second).Alike first
      (engine.frame levels site (engine.tokens text).toArray first).invoke := by
  constructor
  · intro token member name mentioned
    exact agree name ⟨token, Array.mem_toList_iff.mpr member, mentioned⟩
  · intro name callee registered position arguments
    exact ignores name callee registered _ _ arguments

/-- Where the functions ignore the evaluation around them, a text comes to the same against any two
bindings that agree, be it on a value or on none, on what the tokens of the text mention. -/
theorem evaluateIn_of_mentions (ignores : engine.registry.IgnoresCalls) (levels : Nat)
    (site : List Nat)
    (agree : Table.AgreeOn (fun name => ∃ token ∈ engine.tokens text, Grammar.Mentions token name)
      first second) :
    engine.evaluateIn levels site text first = engine.evaluateIn levels site text second := by
  cases levels with
  | zero => rfl
  | succ levels =>
      rw [evaluateIn_succ, evaluateIn_succ]
      -- the frame against the first bindings, with the calls it makes there, is the first frame
      exact (alike_of_mentions ignores levels site agree).outcome

/-- Names reached by a spread, by a path and as an argument, next to one that nothing mentions. -/
theorem evaluateIn_of_mentions_spread :
    let engine := core.configure (·.registerFunction "f" fun _ arguments => .ok (.array arguments))
    let text := "f({ ...a, k: b.c }, d)"
    let bindings := fun (other : Value) =>
      [("a", .object [("x", .null)]), ("b", .object [("c", .boolean true)]), ("z", other),
        ("d", .string "e")]
    let value := .ok (.array [.object [("x", .null), ("k", .boolean true)], .string "e"])
    engine.registry.IgnoresCalls ∧
      Table.AgreeOn (fun name => ∃ token ∈ engine.tokens text, Grammar.Mentions token name)
        (bindings .null) (bindings (.string "z")) ∧
      engine.evaluateIn 1 [] text (bindings .null) = value ∧
      engine.evaluateIn 1 [] text (bindings (.string "z")) = value := by
  intro engine text bindings value
  have ignores : engine.registry.IgnoresCalls := by
    intro name callee registered one other arguments
    have only : (if "f" = name then some fun _ arguments => .ok (.array arguments) else none) =
        some callee := registered
    split at only
    · cases only
      rfl
    · cases only
  have unmentioned : ¬ ∃ token ∈ engine.tokens text, Grammar.Mentions token "z" := by
    decide +kernel
  have agree : Table.AgreeOn
      (fun name => ∃ token ∈ engine.tokens text, Grammar.Mentions token name)
      (bindings .null) (bindings (.string "z")) := by
    intro name mentioned
    have other : "z" ≠ name := by
      rintro rfl
      exact unmentioned mentioned
    simp [bindings, Table.get?, other]
  have first : engine.evaluateIn 1 [] text (bindings .null) = value := by
    simp only [engine, text, bindings, value]
    rfl
  refine ⟨ignores, agree, first, ?_⟩
  exact (evaluateIn_of_mentions ignores 1 [] agree).symm.trans first

end Engine

end Reckon
