import Reckon.Proofs.Formula.Agreement
import Reckon.Proofs.Formula.Shift

/-!
Expressions in tokens, one of them or several in a row, with their values, and what is derived
around them.
-/

namespace Reckon

namespace Formula

variable {registry : Registry} {tokens : Array String} {start middle stop : Nat}

theorem Derives.start_ne {floor : Precedence} {whole : Formula} {token : String}
    (derived : Derives registry tokens (.expression floor whole) start stop)
    (refused : role registry token = .refused) : tokens[start]? ≠ some token := by
  intro found
  cases derived with
  | expression here first rest =>
      have same := Option.some.inj (here.symm.trans found)
      subst same
      cases first <;> simp_all

theorem Derives.follows {floor : Precedence} {whole : Formula}
    (derived : Derives registry tokens (.expression floor whole) start stop)
    (brace : role registry "\x7d" = .refused) (comma : role registry "," = .refused) :
    Follows tokens start := by
  have inside := derived.inside
  have first : tokens[start]? = some tokens[start] := by simp [inside]
  refine ⟨_, first, fun same => ?_, fun same => ?_⟩
  · exact derived.start_ne brace (first.trans (congrArg some same))
  · exact derived.start_ne comma (first.trans (congrArg some same))

theorem Derives.alone {floor : Precedence} {token : String} {whole : Formula}
    (here : tokens[start]? = some token)
    (first : Derives registry tokens (.unary token whole) start stop)
    (ends : tokens[stop]? = none) :
    Derives registry tokens (.expression floor whole) start stop := by
  refine .expression here first (.loose ?_)
  intro symbol found
  rw [ends] at found
  cases found

section

variable {setting : Setting}

theorem evaluate_unary {symbol : String} {operator : UnaryOperator} {operand : Formula}
    {value : Value} (found : setting.registry.unaryOperator? symbol = some operator)
    (valued : operand.evaluate setting = .ok value) :
    evaluate setting (.unary symbol operand) = Outcome.ofExcept (operator value) := by
  rw [evaluate, valued]
  simp [Setting.unary, found]

theorem evaluate_operator {symbol : String} {operator : BinaryOperator} {left right : Formula}
    {leftValue rightValue : Value} (found : setting.registry.operator? symbol = some operator)
    (leftValued : left.evaluate setting = .ok leftValue)
    (rightValued : right.evaluate setting = .ok rightValue) :
    evaluate setting (.binary symbol left right) =
      Outcome.ofExcept (operator leftValue rightValue) := by
  rw [evaluate, leftValued, rightValued]
  simp [Setting.binary, found]

theorem evaluate_call {function : String} {callee : Callable} {arguments : List Formula}
    {values : List Value} (found : setting.registry.function? function = some callee)
    (valued : evaluateAll setting arguments = .ok values) (stop : Nat) :
    evaluate setting (.call function arguments stop) = setting.invoke stop callee values := by
  rw [evaluate, valued]
  simp [Setting.call, found]

end

variable (registry tokens) in
/-- Expressions between two positions with a comma between one and the next. -/
inductive Row : (start : Nat) → List Formula → (stop : Nat) → Prop
  | single {start stop : Nat} {item : Formula}
      (first : Derives registry tokens (.expression 0 item) start stop) : Row start [item] stop
  | cons {start middle stop : Nat} {item : Formula} {others : List Formula}
      (first : Derives registry tokens (.expression 0 item) start middle)
      (comma : tokens[middle]? = some ",") (rest : Row (middle + 1) others stop) :
      Row start (item :: others) stop

variable {formulas : List Formula}

theorem Row.start_ne {token : String} (row : Row registry tokens start formulas stop)
    (refused : role registry token = .refused) : tokens[start]? ≠ some token := by
  cases row with
  | single first => exact first.start_ne refused
  | cons first comma rest => exact first.start_ne refused

theorem Row.elements (row : Row registry tokens start formulas stop)
    (refused : role registry "]" = .refused) (closed : tokens[stop]? = some "]")
    (done : List Formula) :
    Derives registry tokens (.elements done (.array (done ++ formulas))) start (stop + 1) := by
  induction row generalizing done with
  | single first =>
      exact .element (first.start_ne refused) first (.inr ⟨closed, rfl⟩) (.lastElement closed)
  | @cons _ _ _ item _ first comma rest ih =>
      have more := ih closed (done ++ [item])
      rw [List.append_assoc] at more
      exact .element (first.start_ne refused) first (.inl ⟨comma, rest.start_ne refused, rfl⟩) more

theorem Row.arguments (row : Row registry tokens start formulas stop)
    (refused : role registry ")" = .refused) (closed : tokens[stop]? = some ")")
    (function : String) (done : List Formula) :
    Derives registry tokens (.arguments function done
      (.call function (done ++ formulas) (stop + 1)))
      start (stop + 1) := by
  induction row generalizing done with
  | single first =>
      refine .argument (first.start_ne refused) first (.inr ⟨?_, rfl⟩) (.lastArgument closed)
      simp [closed]
  | @cons _ _ _ item _ first comma rest ih =>
      have more := ih closed (done ++ [item])
      rw [List.append_assoc] at more
      exact .argument (first.start_ne refused) first (.inl ⟨comma, rest.start_ne refused, rfl⟩) more

end Formula

open Formula

namespace Frame

variable {frame : Frame} (unlimited : frame.limit = none)

def Worth (frame : Frame) (start stop : Nat) (value : Value) : Prop :=
  ∃ formula, Derives frame.registry frame.tokens (.expression 0 formula) start stop ∧
    formula.evaluate frame.setting = .ok value

/-- Between two positions there is a row of expressions with values. -/
def RowWorth (frame : Frame) (start stop : Nat) (values : List Value) : Prop :=
  ∃ formulas, Row frame.registry frame.tokens start formulas stop ∧
    evaluateAll frame.setting formulas = .ok values

theorem Worth.parenthesized {start stop : Nat} {value : Value}
    (worth : frame.Worth (start + 1) stop value)
    (kind : role frame.registry "(" = .parenthesis) (closed : frame.tokens[stop]? = some ")") :
    ∃ formula, Derives frame.registry frame.tokens (.unary "(" formula) start (stop + 1) ∧
      formula.evaluate frame.setting = .ok value := by
  obtain ⟨formula, derived, valued⟩ := worth
  exact ⟨formula, .parentheses kind derived closed, valued⟩

include unlimited

theorem outcome_of_derives {formula : Formula}
    (derived : Derives frame.registry frame.tokens (.expression 0 formula) 0 frame.tokens.size) :
    frame.outcome = formula.evaluate frame.setting := by
  have whole := outcome_eq_ended unlimited
  rw [read_eq_ok_iff.mpr derived] at whole
  exact whole

theorem worth_of_outcome {value : Value} (valued : frame.outcome = .ok value) :
    frame.Worth 0 frame.tokens.size value := by
  have whole := outcome_eq_ended unlimited
  rcases read : Formula.read frame.registry frame.tokens with rejection | formula
  · rw [read, valued] at whole
    rcases rejection.outcome_cases frame.setting with ⟨-, fault⟩ | ⟨_, -, fault⟩
    · exact absurd (whole.trans fault) (by simp)
    · exact absurd (whole.trans fault) (by simp)
  · rw [read, valued] at whole
    exact ⟨formula, read_eq_ok_iff.mp read, whole.symm⟩

end Frame

end Reckon
