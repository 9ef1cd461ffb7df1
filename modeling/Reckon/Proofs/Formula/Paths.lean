import Reckon.Proofs.Formula.Row
import Reckon.Proofs.Grammar.Limit

/-!
Paths whose values are known beforehand stand in a tree like literals.
-/

namespace Reckon

namespace Formula

section

variable (known : String → Option Value)

mutual

/-- The tree with literals in place of the paths whose values are known. -/
def fillPaths : Formula → Formula
  | .literal value => .literal value
  | .path token => ((known token).map .literal).getD (.path token)
  | .name token called => .name token called
  | .unary symbol operand => .unary symbol (fillPaths operand)
  | .binary symbol left right => .binary symbol (fillPaths left) (fillPaths right)
  | .array items => .array (fillAll items)
  | .object entries => .object (fillEntries entries)
  | .call function arguments stop => .call function (fillAll arguments) stop

def fillAll : List Formula → List Formula
  | [] => []
  | formula :: rest => fillPaths formula :: fillAll rest

def fillEntries : List Entry → List Entry
  | [] => []
  | entry :: rest => fillEntry entry :: fillEntries rest

def fillEntry : Entry → Entry
  | .keyed key value => .keyed key (fillPaths value)
  | .spread token operand => .spread token (fillPaths operand)

end

end

def Setting.Knows (setting : Setting) (known : String → Option Value) : Prop :=
  ∀ token value, known token = some value → Path.resolve setting.bindings token = value

variable {setting : Setting} {known : String → Option Value}

theorem Setting.Knows.path (knows : setting.Knows known) (token : String) :
    evaluate setting (fillPaths known (.path token)) = evaluate setting (.path token) := by
  unfold fillPaths
  cases found : known token with
  | none => rfl
  | some value => exact congrArg Except.ok (knows token value found).symm

mutual

theorem evaluate_fillPaths (knows : setting.Knows known) (formula : Formula) :
    evaluate setting (fillPaths known formula) = evaluate setting formula := by
  cases formula with
  | literal value => rfl
  | path token => exact knows.path token
  | name token called => rfl
  | unary symbol operand => simp only [fillPaths, evaluate, evaluate_fillPaths knows operand]
  | binary symbol left right =>
      simp only [fillPaths, evaluate, evaluate_fillPaths knows left,
        evaluate_fillPaths knows right]
  | array items => simp only [fillPaths, evaluate, evaluateAll_fillAll knows items]
  | object entries => simp only [fillPaths, evaluate, evaluateEntries_fillEntries knows [] entries]
  | call function arguments stop =>
      simp only [fillPaths, evaluate, evaluateAll_fillAll knows arguments]

theorem evaluateAll_fillAll (knows : setting.Knows known) (formulas : List Formula) :
    evaluateAll setting (fillAll known formulas) = evaluateAll setting formulas := by
  cases formulas with
  | nil => rfl
  | cons formula rest =>
      simp only [fillAll, evaluateAll, evaluate_fillPaths knows formula,
        evaluateAll_fillAll knows rest]

theorem evaluateEntries_fillEntries (knows : setting.Knows known) (done : Table Value)
    (entries : List Entry) :
    evaluateEntries setting done (fillEntries known entries) =
      evaluateEntries setting done entries := by
  cases entries with
  | nil => rfl
  | cons entry rest =>
      simp only [fillEntries, evaluateEntries, evaluateEntry_fillEntry knows done entry]
      congr 1
      funext written
      exact evaluateEntries_fillEntries knows written rest

theorem evaluateEntry_fillEntry (knows : setting.Knows known) (done : Table Value)
    (entry : Entry) :
    evaluateEntry setting done (fillEntry known entry) = evaluateEntry setting done entry := by
  cases entry with
  | keyed key value => simp only [fillEntry, evaluateEntry, evaluate_fillPaths knows value]
  | spread token operand => simp only [fillEntry, evaluateEntry, evaluate_fillPaths knows operand]

end

end Formula

/-- Tokens that denote a tree come to its value, unless a limit is in the way. -/
theorem Frame.outcome_of_derives_or_tooDeep {frame : Frame} {formula : Formula}
    (derived : Formula.Derives frame.registry frame.tokens (.expression 0 formula) 0
      frame.tokens.size) :
    frame.outcome = formula.evaluate frame.setting ∨
      ∃ limit, frame.limit = some limit ∧
        frame.outcome = Outcome.raise (.nestingTooDeep limit) := by
  cases limited : frame.limit with
  | none => exact .inl (outcome_of_derives limited derived)
  | some limit =>
      have wider : Looser limit none := trivial
      have unlimited : (frame.vary none frame.invoke).outcome = formula.evaluate frame.setting :=
        outcome_of_derives rfl derived
      rcases Frame.outcome_eq_or_tooDeep limited wider with same | deep
      · exact .inl (same.trans unlimited)
      · exact .inr ⟨limit, rfl, deep⟩

end Reckon
