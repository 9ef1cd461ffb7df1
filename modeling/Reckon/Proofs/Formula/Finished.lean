import Reckon.Proofs.Formula.Agreement
import Reckon.Proofs.Grammar.Limit

/-!
Reading and evaluating one text is finished wherever its calls are.
-/

namespace Reckon

/-- An end that is no lack of allowance. -/
def Outcome.Finished {α : Type} (result : Except Fault α) : Prop :=
  result ≠ .error .unfinished

open Outcome

section

variable {α β : Type}

theorem Outcome.finished_ok (value : α) : Finished (.ok value : Except Fault α) := nofun

theorem Outcome.finished_raised (error : Error) :
    Finished (.error (.raised error) : Except Fault α) :=
  nofun

theorem Outcome.finished_ofExcept (result : Except Error Value) : Finished (ofExcept result) := by
  cases result with
  | ok value => exact finished_ok value
  | error error => exact finished_raised error

theorem Outcome.finished_bind {first : Except Fault α} {next : α → Except Fault β}
    (before : Finished first) (after : ∀ value, Finished (next value)) :
    Finished (first >>= next) := by
  cases first with
  | ok value => exact after value
  | error fault =>
      intro unfinished
      cases unfinished
      apply before
      rfl

end

def Formula.Setting.CallsFinish (setting : Setting) : Prop :=
  ∀ name callee, setting.registry.function? name = some callee →
    ∀ stop arguments, Finished (setting.invoke stop callee arguments)

namespace Formula

variable {setting : Setting}

theorem Setting.finished_name (token : String) (called : Bool) :
    Finished (setting.name token called) := by
  unfold Setting.name
  split
  · exact finished_ok _
  · split <;> exact finished_raised _

theorem Setting.finished_unary (symbol : String) (operand : Value) :
    Finished (setting.unary symbol operand) := by
  unfold Setting.unary
  split
  · exact finished_ofExcept _
  · exact finished_raised _

theorem Setting.finished_binary (symbol : String) (left right : Value) :
    Finished (setting.binary symbol left right) := by
  unfold Setting.binary
  split
  · exact finished_ofExcept _
  · exact finished_raised _

theorem finished_spreadInto (done : Table Value) (token : String) (operand : Value) :
    Finished (spreadInto done token operand) := by
  unfold spreadInto
  split
  · exact finished_ok _
  · exact finished_raised _

theorem Setting.finished_call (calls : setting.CallsFinish) (function : String) (stop : Nat)
    (arguments : List Value) : Finished (setting.call function stop arguments) := by
  unfold Setting.call
  split
  · rename_i callee found
    exact calls function callee found stop arguments
  · exact finished_raised _

mutual

theorem finished_evaluate (calls : setting.CallsFinish) (formula : Formula) :
    Finished (evaluate setting formula) := by
  cases formula with
  | literal value => exact finished_ok value
  | path token => exact finished_ok _
  | name token called => exact Setting.finished_name token called
  | unary symbol operand =>
      apply finished_bind (finished_evaluate calls operand)
      intro value
      exact Setting.finished_unary symbol value
  | binary symbol left right =>
      apply finished_bind (finished_evaluate calls left)
      intro leftValue
      apply finished_bind (finished_evaluate calls right)
      intro rightValue
      exact Setting.finished_binary symbol leftValue rightValue
  | array items =>
      apply finished_bind (finished_evaluateAll calls items)
      intro values
      exact finished_ok _
  | object entries =>
      apply finished_bind (finished_evaluateEntries calls [] entries)
      intro table
      exact finished_ok _
  | call function arguments stop =>
      apply finished_bind (finished_evaluateAll calls arguments)
      intro values
      exact Setting.finished_call calls function stop values

theorem finished_evaluateAll (calls : setting.CallsFinish) (formulas : List Formula) :
    Finished (evaluateAll setting formulas) := by
  cases formulas with
  | nil => exact finished_ok _
  | cons formula rest =>
      apply finished_bind (finished_evaluate calls formula)
      intro value
      apply finished_bind (finished_evaluateAll calls rest)
      intro values
      exact finished_ok _

theorem finished_evaluateEntries (calls : setting.CallsFinish) (done : Table Value)
    (entries : List Entry) :
    Finished (evaluateEntries setting done entries) := by
  cases entries with
  | nil => exact finished_ok _
  | cons entry rest =>
      apply finished_bind (finished_evaluateEntry calls done entry)
      intro written
      exact finished_evaluateEntries calls written rest

theorem finished_evaluateEntry (calls : setting.CallsFinish) (done : Table Value) (entry : Entry) :
    Finished (evaluateEntry setting done entry) := by
  cases entry with
  | keyed key value =>
      apply finished_bind (finished_evaluate calls value)
      intro found
      exact finished_ok _
  | spread token operand =>
      apply finished_bind (finished_evaluate calls operand)
      intro found
      exact finished_spreadInto done token found

end

theorem Rejection.finished_outcome {α : Type} (calls : setting.CallsFinish)
    (rejection : Rejection) :
    Finished (rejection.outcome setting : Except Fault α) := by
  apply finished_bind (finished_evaluateAll calls rejection.completed)
  intro values
  exact finished_raised _

end Formula

/-- Whatever the tokens and the limit, reading and evaluating them comes to an end if the calls in
them do. -/
theorem Frame.finished_outcome (frame : Frame) (calls : frame.setting.CallsFinish) :
    Finished frame.outcome := by
  have unlimited : Finished (frame.vary none frame.invoke).outcome := by
    rw [Formula.outcome_eq_ended rfl]
    split
    · rename_i formula _
      exact Formula.finished_evaluate calls formula
    · rename_i rejection _
      exact Formula.Rejection.finished_outcome calls rejection
  cases limited : frame.limit with
  | none =>
      have same : frame.vary none frame.invoke = frame := by
        rw [← limited]
        rfl
      exact same ▸ unlimited
  | some limit =>
      have wider : Looser limit none := trivial
      rcases Frame.outcome_eq_or_tooDeep limited wider with same | deep
      · rw [same]
        exact unlimited
      · rw [deep]
        exact finished_raised _

end Reckon
