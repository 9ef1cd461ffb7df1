import Reckon.Proofs.Formula.Reader
import Reckon.Proofs.Grammar.Parse

/-!
What is read where a unary factor begins depends on the role of the token alone.
-/

namespace Reckon.Production

open Parse Formula

variable {frame : Frame} {token : String} (again : Nat → Production → Parse Value) (depth : Nat)

theorem factor_of_literal {value : Value} (found : literal? token = some value)
    (parenthesis : token ≠ "(") :
    factor frame again depth token = (do
      advance
      pure value) := by
  unfold factor
  rw [if_neg parenthesis]
  unfold literal? at found
  rcases number : Grammar.numeral? token with _ | number
  · rcases text : Grammar.unquote? token with _ | text
    · simp_all
    · simp_all
  · simp_all

theorem factor_of_not_literal (missing : literal? token = none) (parenthesis : token ≠ "(") :
    factor frame again depth token =
      if token = "[" then do
        advance
        again depth (.elements [])
      else if token = "\x7b" then do
        advance
        again depth (.entries [])
      else if Grammar.isPath token then do
        advance
        pure (Path.resolve frame.bindings token)
      else
        match frame.registry.function? token with
        | some callee => callOf frame again depth callee
        | none =>
            if (frame.registry.operator? token).isSome || Grammar.isPunctuation token then
              fail (.invalidExpression (some token))
            else Production.name frame token := by
  unfold factor
  rw [if_neg parenthesis]
  unfold literal? at missing
  rcases number : Grammar.numeral? token with _ | number
  · rcases text : Grammar.unquote? token with _ | text
    · have other : ¬(token = "true" || token = "false") := by
        intro either
        simp [number, text, either] at missing
      exact (if_neg other).trans rfl
    · simp [number, text] at missing
  · simp [number] at missing

theorem unaryOrFactor_of_operator (kind : role frame.registry token = .unaryOperator) :
    ∃ operator, frame.registry.unaryOperator? token = some operator ∧
      unaryOrFactor frame again depth token = (do
        advance
        let value ← nested frame depth fun inner => operand frame again inner
        liftError (operator value)) := by
  cases applied : frame.registry.unaryOperator? token with
  | some operator => exact ⟨operator, rfl, by simp only [unaryOrFactor, applied]⟩
  | none =>
      unfold role at kind
      repeat' split at kind
      all_goals simp_all

theorem unaryOrFactor_of_parenthesis (kind : role frame.registry token = .parenthesis) :
    unaryOrFactor frame again depth token = (do
      advance
      let value ← again depth (.expression 0)
      expect frame ")"
      pure value) := by
  unfold role at kind
  repeat' split at kind
  all_goals cases kind
  simp_all [unaryOrFactor, factor]

theorem unaryOrFactor_of_literal {value : Value}
    (kind : role frame.registry token = .literal value) :
    unaryOrFactor frame again depth token = (do
      advance
      pure value) := by
  unfold role at kind
  repeat' split at kind
  all_goals cases kind
  simp_all [unaryOrFactor, factor_of_literal]

theorem unaryOrFactor_of_array (kind : role frame.registry token = .array) :
    unaryOrFactor frame again depth token = (do
      advance
      again depth (.elements [])) := by
  unfold role at kind
  repeat' split at kind
  all_goals cases kind
  simp_all [unaryOrFactor, factor_of_not_literal]

theorem unaryOrFactor_of_object (kind : role frame.registry token = .object) :
    unaryOrFactor frame again depth token = (do
      advance
      again depth (.entries [])) := by
  unfold role at kind
  repeat' split at kind
  all_goals cases kind
  simp_all [unaryOrFactor, factor_of_not_literal]

theorem unaryOrFactor_of_path (kind : role frame.registry token = .path) :
    unaryOrFactor frame again depth token = (do
      advance
      pure (Path.resolve frame.bindings token)) := by
  unfold role at kind
  repeat' split at kind
  all_goals cases kind
  simp_all [unaryOrFactor, factor_of_not_literal]

theorem unaryOrFactor_of_function (kind : role frame.registry token = .function) :
    ∃ callee, frame.registry.function? token = some callee ∧
      unaryOrFactor frame again depth token = callOf frame again depth callee := by
  unfold role at kind
  repeat' split at kind
  all_goals cases kind
  rename_i callable
  obtain ⟨callee, registered⟩ := Option.isSome_iff_exists.mp callable
  exact ⟨callee, registered, by simp_all [unaryOrFactor, factor_of_not_literal]⟩

theorem unaryOrFactor_of_refused (kind : role frame.registry token = .refused) :
    unaryOrFactor frame again depth token = fail (.invalidExpression (some token)) := by
  unfold role at kind
  repeat' split at kind
  all_goals cases kind
  simp_all [unaryOrFactor, factor_of_not_literal]

theorem unaryOrFactor_of_name (kind : role frame.registry token = .name) :
    unaryOrFactor frame again depth token = Production.name frame token := by
  unfold role at kind
  repeat' split at kind
  all_goals cases kind
  simp_all [unaryOrFactor, factor_of_not_literal]

end Reckon.Production
